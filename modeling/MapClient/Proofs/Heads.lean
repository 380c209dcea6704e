import MapClient.Http.Head
import MapClient.Proofs.Parts

/-!
# Heads that can be read

What a head is, said without its reader: line breaks that do not count, a
version and a status of three digits, a reason or none, headers with a line
each, and an empty line. The reader takes such a head off the beginning of what
comes back, if it is within the limits, and nothing else; interim heads are
passed over.
-/

set_option autoImplicit false

namespace MapClient.Http

open MapClient.Text

inductive LineEnd : List UInt8 → Prop
  | short : LineEnd [0x0A]
  | long : LineEnd [0x0D, 0x0A]

inductive HeaderLine : List UInt8 → Header → Prop
  | mk (name front value back tail : List UInt8) (hsome : name ≠ [])
      (hname : ∀ b ∈ name, isTokenByte b = true) (hfront : ∀ b ∈ front, isBlankByte b = true)
      (hback : ∀ b ∈ back, isBlankByte b = true) (hvalue : ∀ b ∈ value, isTextByte b = true)
      (hedges : ∀ b, value.head? = some b ∨ value.getLast? = some b → isBlankByte b = false)
      (htail : LineEnd tail) :
      HeaderLine (name ++ 0x3A :: front ++ value ++ back ++ tail)
        ⟨.ofList (name.map Head.lowerByte), value⟩

inductive HeaderLines : List UInt8 → List Header → Prop
  | done (tail : List UInt8) (htail : LineEnd tail) : HeaderLines tail []
  | more (line text : List UInt8) (header : Header) (headers : List Header)
      (hline : HeaderLine line header) (hrest : HeaderLines text headers) :
      HeaderLines (line ++ text) (header :: headers)

def Version.text : Version → List UInt8
  | .http10 => utf8 "HTTP/1.0"
  | .http11 => utf8 "HTTP/1.1"

theorem Version.length_text (version : Version) : version.text.length = 8 := by
  cases version <;> decide

inductive Reason : List UInt8 → Prop
  | none : Reason []
  | some (text : List UInt8) (htext : ∀ b ∈ text, isTextByte b = true) : Reason (0x20 :: text)

def decimal (digits : List UInt8) : Nat := digits.foldl (fun n b => 10 * n + (b.toNat - 48)) 0

inductive HeadText : List UInt8 → Head → Prop
  | mk (breaks : List (List UInt8)) (version : Version) (digits reason tail text : List UInt8)
      (status : Status) (headers : List Header) (hbreaks : ∀ b ∈ breaks, LineEnd b)
      (hdigits : ∀ b ∈ digits, isDigitByte b = true) (hthree : digits.length = 3)
      (hcode : decimal digits = status.code) (hreason : Reason reason) (htail : LineEnd tail)
      (hheaders : HeaderLines text headers) :
      HeadText (breaks.flatten ++ version.text ++ 0x20 :: digits ++ reason ++ tail ++ text)
        ⟨version, status, headers⟩

structure Head.WithinLimits (room : Nat) (text : List UInt8) (head : Head) : Prop where
  bytes : text.length ≤ room
  headers : head.headers.length ≤ headerLimit
  names : ∀ h ∈ head.headers, h.name.length < nameLimit

inductive Announced (room : Nat) : List UInt8 → Head → List UInt8 → Prop
  | last (text rest : List UInt8) (head : Head) (htext : HeadText text head)
      (hlimits : head.WithinLimits room text) (hfinal : head.status.isInterim = false) :
      Announced room (text ++ rest) head rest
  | interim (text bs rest : List UInt8) (before head : Head) (htext : HeadText text before)
      (hlimits : before.WithinLimits room text) (hinterim : before.status.isInterim = true)
      (hnext : Announced room bs head rest) : Announced room (text ++ bs) head rest

namespace Head

theorem lineBreak_iff (fault : HeadFault) (bs rest : List UInt8) :
    lineBreak fault bs = .ok rest ↔ ∃ tail, LineEnd tail ∧ bs = tail ++ rest := by
  constructor
  · intro h
    unfold lineBreak at h
    split at h
    · cases h
    · cases h
    · cases h
      exact ⟨_, .long, rfl⟩
    · cases h
      exact ⟨_, .short, rfl⟩
    · cases h
  · rintro ⟨tail, htail, rfl⟩
    cases htail <;> rfl

theorem lineEnd_head (tail bs : List UInt8) (h : LineEnd tail) :
    ∃ b more, tail ++ bs = b :: more ∧ (b = 0x0D ∨ b = 0x0A) := by
  cases h with
  | short => exact ⟨_, _, rfl, .inr rfl⟩
  | long => exact ⟨_, _, rfl, .inl rfl⟩

/-- Neither byte of a line break can stand before it on the line. -/
theorem lineEnd_plain (b : UInt8) (h : b = 0x0D ∨ b = 0x0A) :
    isTextByte b = false ∧ isBlankByte b = false ∧ isTokenByte b = false ∧ b ≠ 0x20 := by
  rcases h with rfl | rfl <;> decide

theorem skipBreaks_line (tail bs : List UInt8) (h : LineEnd tail) :
    skipBreaks (tail ++ bs) = skipBreaks bs := by
  cases h <;> rfl

theorem skipBreaks_lines (breaks : List (List UInt8)) (bs : List UInt8)
    (h : ∀ b ∈ breaks, LineEnd b) : skipBreaks (breaks.flatten ++ bs) = skipBreaks bs := by
  induction breaks with
  | nil => rfl
  | cons tail breaks ih =>
    rw [List.flatten_cons, List.append_assoc, skipBreaks_line tail _ (h tail (by simp))]
    exact ih fun b hb => h b (by simp [hb])

theorem skipBreaks_ok (bs rest : List UInt8) (h : skipBreaks bs = .ok rest) :
    ∃ breaks : List (List UInt8), (∀ b ∈ breaks, LineEnd b) ∧ bs = breaks.flatten ++ rest := by
  fun_induction skipBreaks bs with
  | case1 => cases h
  | case2 => cases h
  | case3 bs ih =>
    obtain ⟨breaks, hbreaks, rfl⟩ := ih h
    exact ⟨[0x0D, 0x0A] :: breaks, by simpa using ⟨.long, hbreaks⟩, rfl⟩
  | case4 bs ih =>
    obtain ⟨breaks, hbreaks, rfl⟩ := ih h
    exact ⟨[0x0A] :: breaks, by simpa using ⟨.short, hbreaks⟩, rfl⟩
  | case5 => cases h
  | case6 bs =>
    cases h
    exact ⟨[], by simp, rfl⟩

theorem versions_lookup (bs : List UInt8) (version : Version) :
    versions.lookup bs = some version ↔ bs = version.text := by
  constructor
  · intro h
    simp only [versions, List.lookup_cons, List.lookup_nil] at h
    split at h
    · cases h
      exact eq_of_beq ‹_›
    split at h
    · cases h
      exact eq_of_beq ‹_›
    · cases h
  · rintro rfl
    cases version <;> decide

theorem readVersion_iff (bs rest : List UInt8) (version : Version) :
    readVersion bs = .ok (version, rest) ↔ bs = version.text ++ 0x20 :: rest := by
  constructor
  · intro h
    unfold readVersion at h
    split at h
    · split at h <;> cases h
    split at h
    · cases h
    · cases h
    · rename_i read b after hlookup hdrop
      split at h
      · subst b
        obtain ⟨rfl, rfl⟩ := Prod.mk.inj (Except.ok.inj h)
        rw [← (versions_lookup _ _).mp hlookup, ← hdrop, List.take_append_drop]
      · cases h
  · rintro rfl
    have htake : (version.text ++ 0x20 :: rest).take 8 = version.text :=
      List.take_left' version.length_text
    have hdrop : (version.text ++ 0x20 :: rest).drop 8 = 0x20 :: rest :=
      List.drop_left' version.length_text
    simp only [readVersion, htake, hdrop, version.length_text,
      (versions_lookup _ version).mpr rfl]
    rfl

theorem readDigits_iff (k n m : Nat) (bs rest : List UInt8) :
    readDigits k n bs = .ok (m, rest) ↔ ∃ digits, digits.length = k ∧
      (∀ b ∈ digits, isDigitByte b = true) ∧ bs = digits ++ rest ∧
      m = digits.foldl (fun n b => 10 * n + (b.toNat - 48)) n := by
  induction k generalizing n bs with
  | zero =>
    constructor
    · intro h
      cases h
      exact ⟨[], rfl, by simp, rfl, rfl⟩
    · rintro ⟨digits, hlength, -, rfl, rfl⟩
      obtain rfl := List.eq_nil_of_length_eq_zero hlength
      rfl
  | succ k ih =>
    constructor
    · intro h
      cases bs with
      | nil => cases h
      | cons b bs =>
        rw [readDigits] at h
        split at h
        · obtain ⟨digits, hlength, hdigits, rfl, rfl⟩ := (ih _ _).mp h
          exact ⟨b :: digits, by simp [hlength], by simpa using ⟨‹_›, hdigits⟩, rfl, rfl⟩
        · cases h
    · rintro ⟨digits, hlength, hdigits, rfl, rfl⟩
      obtain ⟨b, digits, rfl⟩ := List.exists_cons_of_length_eq_add_one hlength
      rw [List.cons_append, readDigits, if_pos (hdigits b (by simp))]
      exact (ih _ _).mpr ⟨digits, by simpa using hlength, fun b hb => hdigits b (by simp [hb]),
        rfl, rfl⟩

theorem readReason_iff (bs rest : List UInt8) :
    readReason bs = .ok rest ↔
      ∃ reason tail, Reason reason ∧ LineEnd tail ∧ bs = reason ++ tail ++ rest := by
  constructor
  · intro h
    unfold readReason at h
    split at h
    · rename_i bs
      obtain ⟨tail, htail, hdrop⟩ := (lineBreak_iff _ _ _).mp h
      refine ⟨0x20 :: bs.takeWhile isTextByte, tail,
        .some _ fun b hb => List.mem_takeWhile_imp hb, htail, ?_⟩
      rw [List.append_assoc, ← hdrop, List.cons_append, List.takeWhile_append_dropWhile]
    · obtain ⟨tail, htail, rfl⟩ := (lineBreak_iff _ _ _).mp h
      exact ⟨[], tail, .none, htail, rfl⟩
  · rintro ⟨reason, tail, hreason, htail, rfl⟩
    have hbreak := (lineBreak_iff .status _ rest).mpr ⟨tail, htail, rfl⟩
    obtain ⟨b, more, hhead, hb⟩ := lineEnd_head tail rest htail
    obtain ⟨htext, -, -, hblank⟩ := lineEnd_plain b hb
    rw [List.append_assoc, hhead]
    rw [hhead] at hbreak
    cases hreason with
    | none =>
      rw [List.nil_append, readReason]
      · exact hbreak
      · intro bs heq
        exact hblank (List.cons.inj heq).1
    | some text hall =>
      rw [List.cons_append, readReason, dropWhile_front more hall htext]
      exact hbreak

theorem blank_text (b : UInt8) (h : isBlankByte b = true) : isTextByte b = true := by
  simp only [isBlankByte, Bool.or_eq_true, beq_iff_eq] at h
  rcases h with rfl | rfl <;> decide

theorem value_read (front value back tail rest : List UInt8)
    (hfront : ∀ b ∈ front, isBlankByte b = true) (hback : ∀ b ∈ back, isBlankByte b = true)
    (hvalue : ∀ b ∈ value, isTextByte b = true)
    (hedges : ∀ b, value.head? = some b ∨ value.getLast? = some b → isBlankByte b = false)
    (htail : LineEnd tail) :
    ∃ text, ((front ++ value ++ back ++ tail ++ rest).dropWhile isBlankByte).span isTextByte =
      (text, tail ++ rest) ∧ dropEnd isBlankByte text = value := by
  obtain ⟨e, more, hend, he⟩ := lineEnd_head tail rest htail
  obtain ⟨htext, hblank, -, -⟩ := lineEnd_plain e he
  simp only [List.append_assoc, hend]
  cases value with
  | nil =>
    -- the blanks before and behind meet, and are all taken as those before
    have hall : ∀ b ∈ front ++ back, isBlankByte b = true := by
      simpa [or_imp, forall_and] using ⟨hfront, hback⟩
    refine ⟨[], ?_, rfl⟩
    rw [List.nil_append, ← List.append_assoc, dropWhile_front more hall hblank]
    have hnone : ∀ b ∈ ([] : List UInt8), isTextByte b = true := by simp
    exact span_front more hnone htext
  | cons v value =>
    have hv : isBlankByte v = false := hedges v (.inl rfl)
    have hall : ∀ b ∈ v :: value ++ back, isTextByte b = true := by
      intro b hb
      rcases List.mem_append.mp hb with hb | hb
      · exact hvalue b hb
      · exact blank_text b (hback b hb)
    refine ⟨v :: value ++ back, ?_, ?_⟩
    · rw [List.cons_append, dropWhile_front _ hfront hv, ← List.cons_append, ← List.append_assoc]
      exact span_front more hall htext
    · rw [dropEnd_append _ hback]
      exact dropEnd_self fun b hb => hedges b (.inr hb)

theorem value_split (bs : List UInt8) :
    ∃ front value back, bs.takeWhile isBlankByte = front ∧
      (bs.dropWhile isBlankByte).takeWhile isTextByte = value ++ back ∧
      dropEnd isBlankByte ((bs.dropWhile isBlankByte).takeWhile isTextByte) = value ∧
      (∀ b ∈ back, isBlankByte b = true) ∧ (∀ b ∈ value, isTextByte b = true) ∧
      ∀ b, value.head? = some b ∨ value.getLast? = some b → isBlankByte b = false := by
  generalize htext : (bs.dropWhile isBlankByte).takeWhile isTextByte = text
  obtain ⟨back, hsplit, hback⟩ := dropEnd_split isBlankByte text
  refine ⟨_, dropEnd isBlankByte text, back, rfl, hsplit, rfl, hback, ?_, ?_⟩
  · intro b hb
    have hmem : b ∈ text := hsplit ▸ List.mem_append_left _ hb
    exact List.mem_takeWhile_imp (htext ▸ hmem)
  · rintro b (hb | hb)
    · have hhead : ((bs.dropWhile isBlankByte).takeWhile isTextByte).head? = some b := by
        rw [htext, hsplit, List.head?_append, hb, Option.some_or]
      rw [List.head?_takeWhile, Option.filter_eq_some_iff] at hhead
      have hnot := List.head?_dropWhile_not isBlankByte bs
      rwa [hhead.1] at hnot
    · exact dropEnd_last hb

theorem readHeader_iff (bs rest : List UInt8) (header : Header) :
    readHeader bs = .ok (header, rest) ↔ ∃ line, HeaderLine line header ∧ bs = line ++ rest := by
  constructor
  · intro h
    unfold readHeader at h
    rw [List.span_eq_takeWhile_dropWhile] at h
    split at h
    · cases h
    · cases h
    · rename_i name b after hsome hspan
      obtain ⟨hname, hafter⟩ := Prod.mk.inj hspan
      have hbs : bs = name ++ b :: after := by
        rw [← hname, ← hafter, List.takeWhile_append_dropWhile]
      split at h
      · subst b
        obtain ⟨front, value, back, hfront, htext, hvalue, hback, hplain, hedges⟩ :=
          value_split after
        rw [List.span_eq_takeWhile_dropWhile] at h
        simp only [hvalue] at h
        obtain ⟨rest', hbreak, heq⟩ := (map_ok _ _ _).mp h
        obtain ⟨rfl, rfl⟩ := Prod.mk.inj heq
        obtain ⟨tail, htail, hdrop⟩ := (lineBreak_iff _ _ _).mp hbreak
        refine ⟨_, .mk name front value back tail (fun h => hsome h) ?_ ?_ hback hplain
          hedges htail, ?_⟩
        · exact fun b hb => List.mem_takeWhile_imp (hname ▸ hb)
        · exact fun b hb => List.mem_takeWhile_imp (hfront ▸ hb)
        · rw [hbs]
          simp only [List.append_assoc, List.cons_append, List.append_cancel_left_eq,
            List.cons.injEq, true_and]
          rw [← hdrop, ← List.append_assoc value, ← htext, List.takeWhile_append_dropWhile,
            ← hfront, List.takeWhile_append_dropWhile]
      · cases h
  · rintro ⟨line, hline, rfl⟩
    cases hline with
    | mk name front value back tail hsome hname hfront hback hvalue hedges htail =>
      obtain ⟨text, hspan, hvalue⟩ := value_read front value back tail rest hfront hback hvalue
        hedges htail
      have hsplit : (name ++ 0x3A :: front ++ value ++ back ++ tail ++ rest).span isTokenByte =
          (name, 0x3A :: (front ++ value ++ back ++ tail ++ rest)) := by
        simpa using span_front (front ++ value ++ back ++ tail ++ rest) hname
          (show isTokenByte 0x3A = false from rfl)
      have hbreak := (lineBreak_iff .header _ rest).mpr ⟨tail, htail, rfl⟩
      obtain ⟨n, name, rfl⟩ := List.exists_cons_of_ne_nil hsome
      simp only [readHeader, hsplit, hspan, if_true, hbreak, hvalue]
      rfl

theorem readHeaders_nil (slots : Nat) : readHeaders slots [] = .error .closed := by
  cases slots <;> rfl

theorem readHeaders_cons (slots : Nat) (b : UInt8) (bs : List UInt8) :
    readHeaders slots (b :: bs) =
      if b = 0x0D ∨ b = 0x0A then (lineBreak .header (b :: bs)).map fun rest => ([], rest)
      else if isTokenByte b then
        match slots with
        | 0 => .error .tooLarge
        | slots + 1 => do
          let (header, rest) ← readHeader (b :: bs)
          let (headers, rest) ← readHeaders slots rest
          return (header :: headers, rest)
      else .error .header := by
  cases slots <;> rfl

theorem readHeaders_done (slots : Nat) (tail rest : List UInt8) (htail : LineEnd tail) :
    readHeaders slots (tail ++ rest) = .ok ([], rest) := by
  have hbreak := (lineBreak_iff .header _ rest).mpr ⟨tail, htail, rfl⟩
  obtain ⟨b, more, hhead, hb⟩ := lineEnd_head tail rest htail
  rw [hhead] at hbreak ⊢
  rw [readHeaders_cons, if_pos hb, hbreak]
  rfl

theorem readHeaders_more (slots : Nat) (line bs : List UInt8) (header : Header)
    (hline : HeaderLine line header) :
    readHeaders (slots + 1) (line ++ bs) =
      (readHeaders slots bs).map fun r => (header :: r.1, r.2) := by
  have hread := (readHeader_iff (line ++ bs) bs header).mpr ⟨line, hline, rfl⟩
  have hhead : ∃ b more, line ++ bs = b :: more ∧ isTokenByte b = true := by
    cases hline with
    | mk name front value back tail hsome hname hfront hback hvalue hedges htail =>
      obtain ⟨b, name, rfl⟩ := List.exists_cons_of_ne_nil hsome
      exact ⟨b, _, rfl, hname b (by simp)⟩
  obtain ⟨b, more, hb, htoken⟩ := hhead
  have hline : ¬(b = 0x0D ∨ b = 0x0A) := by
    intro h
    simp [(lineEnd_plain b h).2.2.1] at htoken
  rw [hb] at hread ⊢
  rw [readHeaders_cons, if_neg hline, if_pos htoken, hread]
  cases hrest : readHeaders slots bs <;> simp only [bind, Except.bind, hrest] <;> rfl

theorem readHeaders_cases (slots : Nat) (bs rest : List UInt8) (headers : List Header)
    (h : readHeaders slots bs = .ok (headers, rest)) :
    (headers = [] ∧ ∃ tail, LineEnd tail ∧ bs = tail ++ rest) ∨
      ∃ fewer line header more others, slots = fewer + 1 ∧ HeaderLine line header ∧
        bs = line ++ more ∧ headers = header :: others ∧
        readHeaders fewer more = .ok (others, rest) := by
  obtain _ | ⟨b, bs⟩ := bs
  · rw [readHeaders_nil] at h
    cases h
  rw [readHeaders_cons] at h
  split at h
  · obtain ⟨rest', hbreak, heq⟩ := (map_ok _ _ _).mp h
    obtain ⟨rfl, rfl⟩ := Prod.mk.inj heq
    exact .inl ⟨rfl, (lineBreak_iff _ _ _).mp hbreak⟩
  split at h
  · cases slots with
    | zero => cases h
    | succ fewer =>
      obtain ⟨⟨header, more⟩, hheader, h⟩ := (stages_ok _ _ _).mp h
      obtain ⟨⟨others, rest'⟩, hothers, heq⟩ := (stages_ok _ _ _).mp h
      obtain ⟨rfl, rfl⟩ := Prod.mk.inj (Except.ok.inj heq)
      obtain ⟨line, hline, hbs⟩ := (readHeader_iff _ _ _).mp hheader
      exact .inr ⟨fewer, line, header, more, others, rfl, hline, hbs, rfl, hothers⟩
  · cases h

/-- The headers of a head are read if there is room for them. -/
theorem readHeaders_iff (slots : Nat) (bs rest : List UInt8) (headers : List Header) :
    readHeaders slots bs = .ok (headers, rest) ↔
      ∃ text, HeaderLines text headers ∧ bs = text ++ rest ∧ headers.length ≤ slots := by
  constructor
  -- every header takes a slot, so the slots bound the reading
  · intro h
    induction slots generalizing bs headers with
    | zero =>
      rcases readHeaders_cases 0 bs rest headers h with
        ⟨rfl, tail, htail, rfl⟩ | ⟨_, _, _, _, _, h, _⟩
      · exact ⟨tail, .done tail htail, rfl, le_rfl⟩
      · cases h
    | succ slots ih =>
      rcases readHeaders_cases (slots + 1) bs rest headers h with
        ⟨rfl, tail, htail, rfl⟩ |
        ⟨fewer, line, header, more, others, hslots, hline, rfl, rfl, hmore⟩
      · exact ⟨tail, .done tail htail, rfl, Nat.zero_le _⟩
      · obtain rfl := Nat.succ.inj hslots
        obtain ⟨text, htext, rfl, hroom⟩ := ih more others hmore
        refine ⟨line ++ text, .more line text header others hline htext, by simp, ?_⟩
        simpa using hroom
  · rintro ⟨text, hlines, rfl, hslots⟩
    induction hlines generalizing slots with
    | done tail htail => exact readHeaders_done slots tail rest htail
    | more line text header headers hline hrest ih =>
      obtain ⟨slots, rfl⟩ : ∃ k, slots = k + 1 := Nat.exists_eq_add_one.mpr (by
        simp only [List.length_cons] at hslots
        omega)
      rw [List.append_assoc, readHeaders_more slots line _ header hline,
        ih slots (by simpa using hslots)]
      rfl

theorem status_code (status : Status) : Status.ofNat? status.code = some status := by
  rw [Status.ofNat?, dif_pos status.three_digits]

theorem code_status (n : Nat) (status : Status) (h : Status.ofNat? n = some status) :
    n = status.code := by
  unfold Status.ofNat? at h
  split at h
  · obtain rfl := Option.some.inj h
    rfl
  · cases h

theorem version_first (version : Version) (bs : List UInt8) :
    skipBreaks (version.text ++ bs) = .ok (version.text ++ bs) := by
  cases version <;> rfl

theorem readWithin_iff (bs rest : List UInt8) (head : Head) :
    readWithin bs = .ok (head, rest) ↔ ∃ text, HeadText text head ∧ bs = text ++ rest ∧
      head.headers.length ≤ headerLimit ∧ ∀ h ∈ head.headers, h.name.length < nameLimit := by
  constructor
  · intro h
    rw [readWithin, stages_ok] at h
    obtain ⟨start, hskip, h⟩ := h
    rw [stages_ok] at h
    obtain ⟨⟨version, afterVersion⟩, hversion, h⟩ := h
    rw [stages_ok] at h
    obtain ⟨⟨code, afterCode⟩, hcode, h⟩ := h
    rw [stages_ok] at h
    obtain ⟨afterReason, hreason, h⟩ := h
    rw [stages_ok] at h
    obtain ⟨⟨headers, rest'⟩, hheaders, h⟩ := h
    obtain ⟨breaks, hbreaks, rfl⟩ := skipBreaks_ok _ _ hskip
    obtain rfl := (readVersion_iff _ _ _).mp hversion
    obtain ⟨digits, hthree, hdigits, rfl, rfl⟩ := (readDigits_iff _ _ _ _ _).mp hcode
    obtain ⟨reason, tail, hwords, htail, rfl⟩ := (readReason_iff _ _).mp hreason
    obtain ⟨text, htext, rfl, hroom⟩ := (readHeaders_iff _ _ _ _).mp hheaders
    dsimp only at h
    split at h
    · cases h
    · rename_i status hstatus
      split at h
      · cases h
      · rename_i hnames
        obtain ⟨rfl, rfl⟩ := Prod.mk.inj (Except.ok.inj h)
        refine ⟨_, .mk breaks version digits reason tail text status headers hbreaks hdigits
          hthree (code_status _ _ hstatus) hwords htail htext, by simp, hroom, ?_⟩
        intro header hheader
        by_contra hlong
        exact hnames (List.any_eq_true.mpr ⟨header, hheader, by simpa using hlong⟩)
  · rintro ⟨text, htext, rfl, hroom, hnames⟩
    cases htext with
    | mk breaks version digits reason tail text status headers hbreaks hdigits hthree hcode
        hreason htail hheaders =>
      have hshape : breaks.flatten ++ version.text ++ 0x20 :: digits ++ reason ++ tail ++ text
          ++ rest = breaks.flatten ++
            (version.text ++ 0x20 :: (digits ++ (reason ++ tail ++ (text ++ rest)))) := by simp
      have hlong : ¬(headers.any fun h => nameLimit ≤ h.name.length) = true := by
        simpa using hnames
      rw [hshape, readWithin, skipBreaks_lines _ _ hbreaks, version_first]
      refine (stages_ok _ _ _).mpr ⟨_, rfl, ?_⟩
      refine (stages_ok _ _ _).mpr ⟨_, (readVersion_iff _ _ _).mpr rfl, ?_⟩
      refine (stages_ok _ _ _).mpr ⟨_, (readDigits_iff 3 0 status.code _ _).mpr
        ⟨digits, hthree, hdigits, rfl, hcode.symm⟩, ?_⟩
      refine (stages_ok _ _ _).mpr ⟨_, (readReason_iff _ _).mpr ⟨reason, tail, hreason, htail,
        rfl⟩, ?_⟩
      refine (stages_ok _ _ _).mpr ⟨_, (readHeaders_iff _ _ _ _).mpr ⟨text, hheaders, rfl,
        hroom⟩, ?_⟩
      simp only [status_code, if_neg hlong]
      rfl

/-- A head is read if it is within the limits. -/
theorem read_iff (room : Nat) (bs rest : List UInt8) (head : Head) :
    read room bs = .ok (head, rest) ↔
      ∃ text, HeadText text head ∧ head.WithinLimits room text ∧ bs = text ++ rest := by
  rw [read, List.splitAt_eq]
  constructor
  · intro h
    dsimp only at h
    split at h
    · rename_i head' rest' hread
      obtain ⟨rfl, rfl⟩ := Prod.mk.inj (Except.ok.inj h)
      obtain ⟨text, htext, hnear, hroom, hnames⟩ := (readWithin_iff _ _ _).mp hread
      refine ⟨text, htext, ⟨?_, hroom, hnames⟩, ?_⟩
      · have hlength := congrArg List.length hnear
        simp only [List.length_take, List.length_append] at hlength
        omega
      · rw [← List.append_assoc, ← hnear, List.take_append_drop]
    · cases h
    · cases h
  · rintro ⟨text, htext, ⟨hbytes, hslots, hnames⟩, rfl⟩
    have hnear : (text ++ rest).take room = text ++ rest.take (room - text.length) := by
      rw [List.take_append, List.take_of_length_le hbytes]
    have hread := (readWithin_iff ((text ++ rest).take room)
      (rest.take (room - text.length)) head).mpr ⟨text, htext, hnear, hslots, hnames⟩
    have hfar : (text ++ rest).drop room = rest.drop (room - text.length) := by
      rw [List.drop_append, List.drop_of_length_le hbytes, List.nil_append]
    simp only [hread, hfar, List.take_append_drop]

theorem headText_length (text : List UInt8) (head : Head) (h : HeadText text head) :
    0 < text.length := by
  cases h
  simp only [List.length_append, List.length_cons]
  omega

theorem readFinal_ok (room k : Nat) (bs rest : List UInt8) (head : Head)
    (h : readFinal room k bs = .ok (head, rest)) : Announced room bs head rest := by
  induction k generalizing bs with
  | zero => cases h
  | succ k ih =>
    rw [readFinal, stages_ok] at h
    obtain ⟨⟨first, after⟩, hread, h⟩ := h
    obtain ⟨text, htext, hlimits, rfl⟩ := (read_iff _ _ _ _).mp hread
    dsimp only at h
    split at h
    · exact .interim text after rest first head htext hlimits ‹_› (ih after h)
    · obtain ⟨rfl, rfl⟩ := Prod.mk.inj (Except.ok.inj h)
      exact .last text after first htext hlimits (by simpa using ‹¬first.status.isInterim = true›)

theorem readFinal_announced (room k : Nat) (bs rest : List UInt8) (head : Head)
    (h : Announced room bs head rest) (hk : bs.length < k) :
    readFinal room k bs = .ok (head, rest) := by
  -- no head is without bytes, so there are fewer heads than bytes
  induction h generalizing k with
  | last text rest head htext hlimits hfinal =>
    obtain ⟨k, rfl⟩ := Nat.exists_eq_add_one.mpr (Nat.zero_lt_of_lt hk)
    rw [readFinal, (read_iff room _ rest head).mpr ⟨text, htext, hlimits, rfl⟩]
    simp only [bind, Except.bind, hfinal]
    rfl
  | interim text bs rest before head htext hlimits hinterim _ ih =>
    obtain ⟨k, rfl⟩ := Nat.exists_eq_add_one.mpr (Nat.zero_lt_of_lt hk)
    have hlength := headText_length text before htext
    rw [readFinal, (read_iff room _ bs before).mpr ⟨text, htext, hlimits, rfl⟩]
    simp only [bind, Except.bind, hinterim, if_true]
    rw [List.length_append] at hk
    exact ih k (by omega)

/-- The head that counts is the first that announces no other. -/
theorem readFinal_iff (room : Nat) (bs rest : List UInt8) (head : Head) :
    readFinal room (bs.length + 1) bs = .ok (head, rest) ↔ Announced room bs head rest :=
  ⟨readFinal_ok room _ bs rest head,
    fun h => readFinal_announced room _ bs rest head h (Nat.lt_succ_self _)⟩

end Head

end MapClient.Http
