import MapClient.Http.Body

/-!
# Bodies that arrive whole

What a chunked body is, said without its reader: chunks that each announce
their length, a last one without data, lines that are passed over, and an empty
line. The reader finishes on such a body, whatever comes after it, and on
nothing else, as long as the extensions in it are not too long together. The
other bodies end where the head says or with the connection.
-/

set_option autoImplicit false

namespace MapClient.Http

def hexNumber? (n : Nat) (digits : List UInt8) : Option Nat :=
  digits.foldlM (fun n b => (ChunkState.hexByte? b).map (16 * n + ·)) n

inductive SizeEnd : List UInt8 → Nat → Prop
  | bare (blanks : List UInt8) (hblanks : ∀ b ∈ blanks, isBlankByte b = true) :
      SizeEnd (blanks ++ crlf) 0
  | extended (blanks text : List UInt8) (hblanks : ∀ b ∈ blanks, isBlankByte b = true)
      (htext : ∀ b ∈ text, b ≠ 0x0D ∧ b ≠ 0x0A) :
      SizeEnd (blanks ++ 0x3B :: text ++ crlf) text.length

inductive SizeLine : List UInt8 → Nat → Nat → Prop
  | mk (digits tail : List UInt8) (n k : Nat) (hdigits : digits ≠ [])
      (hnumber : hexNumber? 0 digits = some n) (hword : n < Word.count64)
      (htail : SizeEnd tail k) : SizeLine (digits ++ tail) n k

inductive TrailerLine : List UInt8 → Prop
  | mk (text : List UInt8) (hsome : text ≠ []) (htext : ∀ b ∈ text, b ≠ 0x0D) :
      TrailerLine (text ++ crlf)

inductive Chunked : List UInt8 → List UInt8 → Nat → Prop
  | chunk (line data text body : List UInt8) (j k : Nat) (hline : SizeLine line data.length j)
      (hdata : data ≠ []) (hrest : Chunked text body k) :
      Chunked (line ++ data ++ crlf ++ text) (data ++ body) (j + k)
  | last (line : List UInt8) (trailers : List (List UInt8)) (k : Nat)
      (hline : SizeLine line 0 k) (htrailers : ∀ t ∈ trailers, TrailerLine t) :
      Chunked (line ++ trailers.flatten ++ crlf) [] k

theorem fits_zero (room : Option Nat) : fits room 0 = true := by
  cases room <;> simp [fits]

theorem fits_less {room : Option Nat} {k n : Nat} (hk : k ≤ n) (h : fits room n = true) :
    fits room k = true := by
  cases room with
  | none => rfl
  | some most =>
    have hn : n ≤ most := of_decide_eq_true h
    exact decide_eq_true (Nat.le_trans hk hn)

namespace ChunkState

theorem hexNumber?_cons (n : Nat) (b : UInt8) (digits : List UInt8) :
    hexNumber? n (b :: digits) =
      (hexByte? b).bind fun d => hexNumber? (16 * n + d) digits := by
  simp only [hexNumber?, List.foldlM_cons]
  cases hexByte? b <;> rfl

theorem hexNumber?_le (n m : Nat) (digits : List UInt8) (h : hexNumber? n digits = some m) :
    n ≤ m := by
  induction digits generalizing n with
  | nil => exact Nat.le_of_eq (Option.some.inj h)
  | cons b digits ih =>
    rw [hexNumber?_cons] at h
    obtain ⟨d, -, hrest⟩ := Option.bind_eq_some_iff.mp h
    have := ih (16 * n + d) hrest
    omega

theorem hexByte?_none (b : UInt8) (h : b = 0x0D ∨ b = 0x3B ∨ isBlankByte b = true) :
    hexByte? b = none := by
  simp only [isBlankByte, Bool.or_eq_true, beq_iff_eq] at h
  rcases h with rfl | rfl | rfl | rfl <;> decide

section
variable {room : Option Nat} {e : Nat} (he : fits room e = true)

open ChunkReader (feed)

include he in
theorem feed_free (state : ChunkState) (b : UInt8) (out : List UInt8) (h : widens state b = 0) :
    feed room ⟨state, e, out⟩ b = ⟨next state b, e, kept state b ++ out⟩ := by
  simp only [feed, h, Nat.add_zero, if_pos he]

include he in
theorem feed_digits (n m : Nat) (digits out : List UInt8) (h : hexNumber? n digits = some m)
    (hword : m < Word.count64) :
    digits.foldl (feed room) ⟨.size n, e, out⟩ = ⟨.size m, e, out⟩ := by
  induction digits generalizing n with
  | nil =>
    obtain rfl : n = m := Option.some.inj h
    rfl
  | cons b digits ih =>
    rw [hexNumber?_cons] at h
    obtain ⟨d, hd, hrest⟩ := Option.bind_eq_some_iff.mp h
    have hle := hexNumber?_le _ _ _ hrest
    have hnext : next (.size n) b = .size (16 * n + d) := by
      simp only [next, hd, Option.elim_some, addDigit]
      rw [if_pos (by omega)]
    rw [List.foldl_cons, feed_free he _ _ _ rfl, hnext]
    exact ih _ hrest

include he in
theorem feed_firstDigits (m : Nat) (digits out : List UInt8) (hdigits : digits ≠ [])
    (h : hexNumber? 0 digits = some m) (hword : m < Word.count64) :
    digits.foldl (feed room) ⟨.start, e, out⟩ = ⟨.size m, e, out⟩ := by
  obtain ⟨b, digits, rfl⟩ := List.exists_cons_of_ne_nil hdigits
  have hsame : next .start b = next (.size 0) b := by
    rw [hexNumber?_cons] at h
    obtain ⟨d, hd, -⟩ := Option.bind_eq_some_iff.mp h
    simp only [next, hd, Option.elim_some]
  have hdigits := feed_digits he 0 m (b :: digits) out h hword
  rw [List.foldl_cons, feed_free he _ _ _ rfl] at hdigits ⊢
  rwa [hsame]

def afterLine : Nat → ChunkState
  | 0 => .lastReturn
  | more + 1 => .data more

theorem next_sizeEnd (n : Nat) (b : UInt8) :
    next (.sizeEnd n) b = if b = 0x0A then afterLine n else .failed .sizeLineFeed := by
  cases n <;> rfl

include he in
theorem feed_lineEnd (n : Nat) (out : List UInt8) :
    [0x0A].foldl (feed room) ⟨.sizeEnd n, e, out⟩ = ⟨afterLine n, e, out⟩ := by
  rw [List.foldl_cons, feed_free he _ _ _ rfl, next_sizeEnd, if_pos rfl]
  rfl

theorem feed_extension (n : Nat) (text out : List UInt8)
    (htext : ∀ b ∈ text, b ≠ 0x0D ∧ b ≠ 0x0A) (he : fits room (e + text.length) = true) :
    text.foldl (feed room) ⟨.extension n, e, out⟩ = ⟨.extension n, e + text.length, out⟩ := by
  induction text generalizing e with
  | nil => rfl
  | cons b text ih =>
    obtain ⟨hreturn, hfeed⟩ := htext b (by simp)
    have hlength : e + 1 + text.length = e + (b :: text).length := by
      rw [List.length_cons]
      omega
    have hone : fits room (e + 1) = true := fits_less (by omega) he
    have hnext : feed room ⟨.extension n, e, out⟩ b = ⟨.extension n, e + 1, out⟩ := by
      simp [feed, widens, next, kept, hreturn, hfeed, hone]
    rw [List.foldl_cons, hnext, ← hlength]
    exact ih (fun b hb => htext b (by simp [hb])) (hlength ▸ he)

def Sized (n : Nat) (state : ChunkState) : Prop := state = .size n ∨ state = .sizeBlank n

include he in
theorem Sized.feed {n : Nat} {state : ChunkState} (h : Sized n state) (b : UInt8)
    (out : List UInt8) (hb : b = 0x0D ∨ b = 0x3B ∨ isBlankByte b = true) :
    ChunkReader.feed room ⟨state, e, out⟩ b =
      ⟨if isBlankByte b then .sizeBlank n else if b = 0x3B then .extension n else .sizeEnd n,
        e, out⟩ := by
  have hnone := hexByte?_none b hb
  have hfree : widens state b = 0 ∧ kept state b = [] := by
    rcases h with rfl | rfl <;> exact ⟨rfl, rfl⟩
  rw [feed_free he _ _ _ hfree.1, hfree.2, List.nil_append]
  rcases h with rfl | rfl <;> simp only [next, hnone, Option.elim_none, afterSize]
  all_goals
    rcases hb with rfl | rfl | hblank
    · rfl
    · rfl
    · simp [hblank]

theorem feed_sizeEnd (n k : Nat) (tail out : List UInt8) (htail : SizeEnd tail k)
    (state : ChunkState) (hstate : Sized n state) (he : fits room (e + k) = true) :
    tail.foldl (feed room) ⟨state, e, out⟩ = ⟨afterLine n, e + k, out⟩ := by
  have hbefore : fits room e = true := fits_less (Nat.le_add_right e k) he
  have hblanks : ∀ (blanks : List UInt8) (state : ChunkState), Sized n state →
      (∀ b ∈ blanks, isBlankByte b = true) →
      ∃ state', Sized n state' ∧ blanks.foldl (feed room) ⟨state, e, out⟩ = ⟨state', e, out⟩ := by
    intro blanks
    induction blanks with
    | nil => exact fun state hstate _ => ⟨state, hstate, rfl⟩
    | cons b blanks ih =>
      intro state hstate h
      have hb : isBlankByte b = true := h b (by simp)
      rw [List.foldl_cons, hstate.feed hbefore b out (.inr (.inr hb)), if_pos hb]
      exact ih (.sizeBlank n) (.inr rfl) fun b hb => h b (by simp [hb])
  cases htail with
  | bare blanks h =>
    obtain ⟨state', hstate', hfold⟩ := hblanks blanks state hstate h
    rw [List.foldl_append, hfold, crlf, List.foldl_cons,
      hstate'.feed hbefore 0x0D out (.inl rfl)]
    exact feed_lineEnd hbefore n out
  | extended blanks text h htext =>
    obtain ⟨state', hstate', hfold⟩ := hblanks blanks state hstate h
    rw [List.foldl_append, List.foldl_append, hfold, List.foldl_cons,
      hstate'.feed hbefore 0x3B out (.inr (.inl rfl))]
    simp only [show isBlankByte 0x3B = false from rfl, Bool.false_eq_true, if_false, if_true,
      feed_extension n text out htext he]
    rw [crlf, List.foldl_cons, feed_free he _ _ _ rfl]
    exact feed_lineEnd he n out

theorem feed_sizeLine (n k : Nat) (line out : List UInt8) (h : SizeLine line n k)
    (he : fits room (e + k) = true) :
    line.foldl (feed room) ⟨.start, e, out⟩ = ⟨afterLine n, e + k, out⟩ := by
  cases h with
  | mk digits tail n k hdigits hnumber hword htail =>
    rw [List.foldl_append,
      feed_firstDigits (fits_less (Nat.le_add_right e k) he) n digits out hdigits hnumber hword]
    exact feed_sizeEnd n k tail out htail _ (.inl rfl) he

include he in
theorem feed_data (more : Nat) (data out : List UInt8) (h : data.length = more + 1) :
    data.foldl (feed room) ⟨.data more, e, out⟩ = ⟨.dataReturn, e, data.reverse ++ out⟩ := by
  induction more generalizing data out with
  | zero =>
    obtain ⟨b, rfl⟩ := List.length_eq_one_iff.mp h
    rw [List.foldl_cons, feed_free he _ _ _ rfl]
    rfl
  | succ more ih =>
    obtain ⟨b, data, rfl⟩ := List.exists_cons_of_length_eq_add_one h
    rw [List.foldl_cons, feed_free he _ _ _ rfl]
    have hrest := ih data (b :: out) (by simpa using h)
    simpa [next, kept] using hrest

include he in
theorem feed_dataEnd (out : List UInt8) :
    crlf.foldl (feed room) ⟨.dataReturn, e, out⟩ = ⟨.start, e, out⟩ := by
  rw [crlf, List.foldl_cons, feed_free he _ _ _ rfl, List.foldl_cons, feed_free he _ _ _ rfl]
  rfl

include he in
theorem feed_trailer (line out : List UInt8) (h : TrailerLine line) :
    line.foldl (feed room) ⟨.lastReturn, e, out⟩ = ⟨.lastReturn, e, out⟩ := by
  have htext : ∀ text : List UInt8, (∀ b ∈ text, b ≠ 0x0D) →
      text.foldl (feed room) ⟨.trailer, e, out⟩ = ⟨.trailer, e, out⟩ := by
    intro text
    induction text with
    | nil => exact fun _ => rfl
    | cons b text ih =>
      intro h
      have hnext : next .trailer b = .trailer := by simp [next, h b (by simp)]
      rw [List.foldl_cons, feed_free he _ _ _ rfl, hnext]
      exact ih fun b hb => h b (by simp [hb])
  cases h with
  | mk text hsome h =>
    obtain ⟨b, text, rfl⟩ := List.exists_cons_of_ne_nil hsome
    have hnext : next .lastReturn b = .trailer := by simp [next, h b (by simp)]
    rw [List.foldl_append, List.foldl_cons, feed_free he _ _ _ rfl, hnext]
    simp only [kept, List.nil_append]
    rw [htext text fun b hb => h b (by simp [hb]), crlf, List.foldl_cons, feed_free he _ _ _ rfl,
      List.foldl_cons, feed_free he _ _ _ rfl]
    rfl

include he in
theorem feed_trailers (trailers : List (List UInt8)) (out : List UInt8)
    (h : ∀ t ∈ trailers, TrailerLine t) :
    trailers.flatten.foldl (feed room) ⟨.lastReturn, e, out⟩ = ⟨.lastReturn, e, out⟩ := by
  induction trailers with
  | nil => rfl
  | cons line trailers ih =>
    rw [List.flatten_cons, List.foldl_append, feed_trailer he line out (h line (by simp))]
    exact ih fun t ht => h t (by simp [ht])

include he in
theorem feed_end (out : List UInt8) :
    crlf.foldl (feed room) ⟨.lastReturn, e, out⟩ = ⟨.finished, e, out⟩ := by
  rw [crlf, List.foldl_cons, feed_free he _ _ _ rfl, List.foldl_cons, feed_free he _ _ _ rfl]
  rfl

theorem feed_chunked (text body out : List UInt8) (k : Nat) (h : Chunked text body k)
    (he : fits room (e + k) = true) :
    text.foldl (feed room) ⟨.start, e, out⟩ = ⟨.finished, e + k, body.reverse ++ out⟩ := by
  induction h generalizing e out with
  | chunk line data text body j k hline hdata _ ih =>
    have hj : fits room (e + j) = true := fits_less (by omega) he
    obtain ⟨b, rest, rfl⟩ := List.exists_cons_of_ne_nil hdata
    rw [List.foldl_append, List.foldl_append, List.foldl_append,
      feed_sizeLine _ j line out hline hj,
      List.length_cons, afterLine, feed_data hj rest.length (b :: rest) out rfl, feed_dataEnd hj,
      ih _ (by rwa [Nat.add_assoc])]
    simp [Nat.add_assoc]
  | last line trailers k hline htrailers =>
    rw [List.foldl_append, List.foldl_append, feed_sizeLine _ k line out hline he, afterLine,
      feed_trailers he trailers out htrailers, feed_end he]
    rfl

include he in
/-- What comes after a body is not read. -/
theorem feed_finished (more out : List UInt8) :
    more.foldl (feed room) ⟨.finished, e, out⟩ = ⟨.finished, e, out⟩ := by
  induction more with
  | nil => rfl
  | cons b more ih =>
    rw [List.foldl_cons, feed_free he _ _ _ rfl]
    exact ih

end

theorem feed_refused (room : Option Nat) (e : Nat) (bs out : List UInt8) :
    (bs.foldl (ChunkReader.feed room) ⟨.failed .extensionsTooLong, e, out⟩).state =
      .failed .extensionsTooLong := by
  induction bs generalizing e out with
  | nil => rfl
  | cons b bs ih =>
    rw [List.foldl_cons, ChunkReader.feed]
    simp only [next, ite_self]
    exact ih _ _

def LineFollowed : Nat → List UInt8 → List UInt8 → Nat → Prop
  | 0, bs, body, k => body = [] ∧ k = 0 ∧ ∃ (trailers : List (List UInt8)) (more : List UInt8),
      (∀ t ∈ trailers, TrailerLine t) ∧ bs = trailers.flatten ++ crlf ++ more
  | n + 1, bs, body, k => ∃ data text more rest, data.length = n + 1 ∧
      bs = data ++ crlf ++ text ++ more ∧ Chunked text rest k ∧ body = data ++ rest

def LineEnds (n : Nat) (bs body : List UInt8) (k : Nat) : Prop :=
  ∃ tail rest i j, SizeEnd tail i ∧ bs = tail ++ rest ∧ LineFollowed n rest body j ∧ k = i + j

/-- What is to come in a state, up to the end of the connection, for a reader that
finishes, the data in it and the length of its extensions. -/
def Completes : ChunkState → List UInt8 → List UInt8 → Nat → Prop
  | .start, bs, body, k => ∃ text more, bs = text ++ more ∧ Chunked text body k
  | .size n, bs, body, k => n < Word.count64 → ∃ digits m rest, hexNumber? n digits = some m ∧
      m < Word.count64 ∧ bs = digits ++ rest ∧ LineEnds m rest body k
  | .sizeBlank n, bs, body, k => LineEnds n bs body k
  | .extension n, bs, body, k => ∃ text rest j, (∀ b ∈ text, b ≠ 0x0D ∧ b ≠ 0x0A) ∧
      bs = text ++ crlf ++ rest ∧ LineFollowed n rest body j ∧ k = text.length + j
  | .sizeEnd n, bs, body, k => ∃ rest, bs = 0x0A :: rest ∧ LineFollowed n rest body k
  | .data more, bs, body, k => LineFollowed (more + 1) bs body k
  | .dataReturn, bs, body, k => ∃ text more, bs = crlf ++ text ++ more ∧ Chunked text body k
  | .dataEnd, bs, body, k => ∃ text more, bs = 0x0A :: text ++ more ∧ Chunked text body k
  | .trailer, bs, body, k => ∃ text rest, (∀ b ∈ text, b ≠ 0x0D) ∧ bs = text ++ crlf ++ rest ∧
      LineFollowed 0 rest body k
  | .trailerEnd, bs, body, k => ∃ rest, bs = 0x0A :: rest ∧ LineFollowed 0 rest body k
  | .lastReturn, bs, body, k => LineFollowed 0 bs body k
  | .lastEnd, bs, body, k => body = [] ∧ k = 0 ∧ ∃ more, bs = 0x0A :: more
  | .finished, _, body, k => body = [] ∧ k = 0
  | .failed _, _, _, _ => False

theorem LineFollowed.chunked {n j k : Nat} {line bs body : List UInt8}
    (h : LineFollowed n bs body k) (hline : SizeLine line n j) :
    ∃ text more, line ++ bs = text ++ more ∧ Chunked text body (j + k) := by
  cases n with
  | zero =>
    obtain ⟨rfl, rfl, trailers, more, htrailers, rfl⟩ := h
    exact ⟨_, more, by simp, .last line trailers j hline htrailers⟩
  | succ n =>
    obtain ⟨data, text, more, rest, hlength, rfl, htext, rfl⟩ := h
    have hdata : data ≠ [] := List.ne_nil_of_length_eq_add_one hlength
    exact ⟨_, more, by simp, .chunk line data text rest j k (hlength ▸ hline) hdata htext⟩

theorem sizeEnd_blank {b : UInt8} {tail : List UInt8} {k : Nat} (hb : isBlankByte b = true)
    (h : SizeEnd tail k) : SizeEnd (b :: tail) k := by
  cases h with
  | bare blanks hblanks => exact .bare (b :: blanks) (by simpa [hb] using hblanks)
  | extended blanks text hblanks htext =>
    exact .extended (b :: blanks) text (by simpa [hb] using hblanks) htext

theorem afterSize_completes {n k : Nat} {b : UInt8} {fault : BodyFault} {bs body : List UInt8}
    (h : Completes (afterSize n b fault) bs body k) : LineEnds n (b :: bs) body k := by
  unfold afterSize at h
  split at h
  · obtain ⟨tail, rest, i, j, htail, rfl, hrest, hk⟩ := h
    exact ⟨b :: tail, rest, i, j, sizeEnd_blank ‹_› htail, rfl, hrest, hk⟩
  split at h
  · obtain ⟨text, rest, j, htext, rfl, hrest, hk⟩ := h
    subst b
    exact ⟨_, rest, _, j, .extended [] text (by simp) htext, by simp, hrest, hk⟩
  split at h
  · obtain ⟨rest, rfl, hrest⟩ := h
    subst b
    exact ⟨_, rest, _, k, .bare [] (by simp), rfl, hrest, (Nat.zero_add k).symm⟩
  · exact h.elim

theorem addDigit_completes {n d k : Nat} {bs body : List UInt8}
    (h : Completes (addDigit n d) bs body k) :
    ∃ digits m rest, hexNumber? (16 * n + d) digits = some m ∧ m < Word.count64 ∧
      bs = digits ++ rest ∧ LineEnds m rest body k := by
  unfold addDigit at h
  split at h
  · exact h ‹_›
  · exact h.elim

theorem completes_wanted {b wanted : UInt8} {state : ChunkState} {fault : BodyFault}
    {bs body : List UInt8} {k : Nat}
    (h : Completes (if b = wanted then state else .failed fault) bs body k) :
    b = wanted ∧ Completes state bs body k := by
  split at h
  · exact ⟨‹_›, h⟩
  · exact h.elim

/-- If a reader finishes after one more byte, it finishes. -/
theorem completes_step (state : ChunkState) (b : UInt8) (bs body : List UInt8) (k : Nat)
    (h : Completes (next state b) bs body k) :
    Completes state (b :: bs) (kept state b ++ body) (k + widens state b) := by
  cases state with
  | extension n =>
    rw [next] at h
    split at h
    · obtain ⟨rest, rfl, hrest⟩ := h
      subst b
      exact ⟨[], rest, k, by simp, rfl, hrest, (Nat.zero_add k).symm⟩
    split at h
    · exact h.elim
    · obtain ⟨text, rest, j, htext, rfl, hrest, rfl⟩ := h
      have hone : widens (.extension n) b = 1 := if_neg (not_or.mpr ⟨‹_›, ‹_›⟩)
      refine ⟨b :: text, rest, j, ?_, rfl, hrest, ?_⟩
      · intro c hc
        rcases List.mem_cons.mp hc with rfl | hc
        · exact ⟨‹_›, ‹_›⟩
        · exact htext c hc
      · rw [hone, List.length_cons]
        omega
  | start =>
    cases hd : hexByte? b with
    | none => simp [next, hd, Completes] at h
    | some d =>
      rw [next, hd] at h
      obtain ⟨digits, m, rest, hnumber, hword, rfl, tail, rest, i, j, htail, rfl, hrest, rfl⟩ :=
        addDigit_completes h
      have hline : SizeLine (b :: digits ++ tail) m i :=
        .mk (b :: digits) tail m i (by simp) (by rw [hexNumber?_cons, hd]; exact hnumber) hword
          htail
      obtain ⟨text, more, htext, hchunked⟩ := hrest.chunked hline
      exact ⟨text, more, by simpa using htext, hchunked⟩
  | size n =>
    intro hword
    cases hd : hexByte? b with
    | none =>
      rw [next, hd] at h
      exact ⟨[], n, b :: bs, rfl, hword, rfl, afterSize_completes h⟩
    | some d =>
      rw [next, hd] at h
      obtain ⟨digits, m, rest, hnumber, hword, rfl, hrest⟩ := addDigit_completes h
      exact ⟨b :: digits, m, rest, by rw [hexNumber?_cons, hd]; exact hnumber, hword, rfl, hrest⟩
  | sizeBlank n =>
    exact afterSize_completes h
  | sizeEnd n =>
    rw [next_sizeEnd] at h
    obtain ⟨rfl, h⟩ := completes_wanted h
    exact ⟨bs, rfl, by cases n <;> exact h⟩
  | data more =>
    cases more with
    | zero =>
      obtain ⟨text, more, rfl, hchunked⟩ := h
      exact ⟨[b], text, more, body, rfl, by simp, hchunked, rfl⟩
    | succ more =>
      obtain ⟨data, text, rest, tail, hlength, rfl, hchunked, rfl⟩ := h
      exact ⟨b :: data, text, rest, tail, by simp [hlength], rfl, hchunked, rfl⟩
  | dataReturn =>
    obtain ⟨rfl, text, more, rfl, hchunked⟩ := completes_wanted h
    exact ⟨text, more, rfl, hchunked⟩
  | dataEnd =>
    obtain ⟨rfl, text, more, rfl, hchunked⟩ := completes_wanted h
    exact ⟨text, more, rfl, hchunked⟩
  | trailer =>
    rw [next] at h
    split at h
    · obtain ⟨rest, rfl, hrest⟩ := h
      exact ⟨[], rest, by simp, by simp_all [crlf], hrest⟩
    · obtain ⟨text, rest, htext, rfl, hrest⟩ := h
      refine ⟨b :: text, rest, ?_, rfl, hrest⟩
      intro c hc
      rcases List.mem_cons.mp hc with rfl | hc
      · assumption
      · exact htext c hc
  | trailerEnd =>
    obtain ⟨rfl, h⟩ := completes_wanted h
    exact ⟨bs, rfl, h⟩
  | lastReturn =>
    rw [next] at h
    split at h
    · obtain ⟨rfl, rfl, more, rfl⟩ := h
      exact ⟨rfl, rfl, [], more, by simp, by simp_all [crlf]⟩
    · obtain ⟨text, rest, htext, rfl, rfl, rfl, trailers, more, htrailers, rfl⟩ := h
      refine ⟨rfl, rfl, (b :: text ++ crlf) :: trailers, more, ?_, by simp⟩
      intro t ht
      rcases List.mem_cons.mp ht with rfl | ht
      · exact .mk (b :: text) (by simp) (by simpa using ⟨‹b ≠ 0x0D›, htext⟩)
      · exact htrailers t ht
  | lastEnd =>
    obtain ⟨rfl, h⟩ := completes_wanted h
    exact ⟨h.1, h.2, bs, rfl⟩
  | finished => exact h
  | failed fault => exact h

/-- A reader that has finished had a chunked body to read, and room for its extensions. -/
theorem completes_of_feed (room : Option Nat) (state : ChunkState) (e e' : Nat)
    (bs out out' : List UInt8) (he : fits room e = true)
    (h : bs.foldl (ChunkReader.feed room) ⟨state, e, out⟩ = ⟨.finished, e', out'⟩) :
    ∃ body k, Completes state bs body k ∧ fits room (e + k) = true ∧
      out' = body.reverse ++ out := by
  -- back from the end: what completes the state after a byte completes, with that
  -- byte before it, the state that read it
  induction bs generalizing state e out with
  | nil =>
    obtain ⟨rfl, rfl, rfl⟩ := ChunkReader.mk.inj h
    exact ⟨[], 0, ⟨rfl, rfl⟩, he, rfl⟩
  | cons b bs ih =>
    rw [List.foldl_cons, ChunkReader.feed] at h
    by_cases hroom : fits room (e + widens state b) = true
    · rw [if_pos hroom] at h
      obtain ⟨body, k, hcompletes, hfits, rfl⟩ := ih _ _ _ hroom h
      refine ⟨kept state b ++ body, k + widens state b,
        completes_step state b bs body k hcompletes, by rwa [Nat.add_comm k, ← Nat.add_assoc], ?_⟩
      cases state <;> simp [kept]
    · -- extensions that are too long end the reading
      rw [if_neg hroom] at h
      have hstate := feed_refused room (e + widens state b) bs (kept state b ++ out)
      rw [h] at hstate
      cases hstate

end ChunkState

/-- Chunks are read if and only if a chunked body stands at the beginning whose
extensions are not too long. -/
theorem readChunked_iff (room : Option Nat) (bs body : List UInt8) :
    readChunked room bs = .ok body ↔
      ∃ text more k, bs = text ++ more ∧ Chunked text body k ∧ fits room k = true := by
  constructor
  · intro h
    rw [readChunked] at h
    generalize hend : bs.foldl (ChunkReader.feed room) .start = last at h
    obtain ⟨state, e, out⟩ := last
    cases state with
    | finished =>
      obtain ⟨data, k, ⟨text, more, hbs, htext⟩, hfits, rfl⟩ :=
        ChunkState.completes_of_feed room .start 0 e bs [] out (fits_zero room) hend
      obtain rfl : data = body := by simpa [ChunkReader.finish] using h
      exact ⟨text, more, k, hbs, htext, by rwa [Nat.zero_add] at hfits⟩
    | _ => cases h
  · rintro ⟨text, more, k, rfl, hchunked, hfits⟩
    have hk : fits room (0 + k) = true := by rwa [Nat.zero_add]
    rw [readChunked, List.foldl_append, ChunkReader.start,
      ChunkState.feed_chunked text body [] k hchunked hk, ChunkState.feed_finished hk]
    simp [ChunkReader.finish]

inductive Delivered (room : Option Nat) : Framing → List UInt8 → List UInt8 → Prop
  | empty (bs : List UInt8) : Delivered room .empty bs []
  | length (body more : List UInt8) : Delivered room (.length body.length) (body ++ more) body
  | chunked (text more body : List UInt8) (k : Nat) (htext : Chunked text body k)
      (hroom : fits room k = true) : Delivered room .chunked (text ++ more) body
  | untilClose (body : List UInt8) : Delivered room .untilClose body body

/-- A body is read if and only if it arrives whole. -/
theorem readBody_iff (room : Option Nat) (framing : Framing) (bs body : List UInt8) :
    readBody room framing bs = .ok body ↔ Delivered room framing bs body := by
  constructor
  · intro h
    cases framing with
    | empty =>
      obtain rfl : [] = body := Except.ok.inj h
      exact .empty bs
    | length n =>
      rw [readBody] at h
      split at h
      · cases h
      · obtain rfl : bs.take n = body := Except.ok.inj h
        have hn : (bs.take n).length = n := by rw [List.length_take]; omega
        have hwhole : Delivered room (.length (bs.take n).length) (bs.take n ++ bs.drop n)
            (bs.take n) := .length _ _
        rwa [hn, List.take_append_drop] at hwhole
    | chunked =>
      obtain ⟨text, more, k, rfl, htext, hroom⟩ := (readChunked_iff room bs body).mp h
      exact .chunked text more body k htext hroom
    | untilClose =>
      obtain rfl : bs = body := Except.ok.inj h
      exact .untilClose bs
  · intro h
    cases h with
    | empty => rfl
    | length _ more => simp [readBody]
    | chunked text more _ k htext hroom =>
      exact (readChunked_iff room _ body).mpr ⟨text, more, k, rfl, htext, hroom⟩
    | untilClose => rfl

end MapClient.Http
