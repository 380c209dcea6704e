import MapClient.Proofs.Parts
import MapClient.Proofs.WellFormed
import MapClient.Url.Authority

/-!
# Characters of host names

What a host name can end in and what it can hold, whichever way it is spelt. A
blank at the end stays there through every stage of the reading, to the last,
which refuses it. And the ASCII form is ASCII, without the characters that the
last stage refuses.
-/

set_option autoImplicit false

namespace MapClient

namespace Text

def IsBlank (c : Char) : Prop := c.toNat ≤ 0x20

theorem not_le_blank (c d : Char) (h : IsBlank c) (hd : 0x20 < d.toNat) : ¬d ≤ c := fun hle =>
  absurd (Nat.le_trans (show d.toNat ≤ c.toNat from hle) h) (Nat.not_le.mpr hd)

theorem ne_blank (c d : Char) (h : IsBlank c) (hd : 0x20 < d.toNat) : c ≠ d := fun heq =>
  not_le_blank c d h hd (heq ▸ Nat.le_refl _)

theorem hexValue?_blank (c : Char) (h : IsBlank c) : hexValue? c = none := by
  simp only [hexValue?, not_le_blank c '0' h (by decide), not_le_blank c 'a' h (by decide),
    not_le_blank c 'A' h (by decide), false_and, if_false]

namespace Utf8

def Sound : State → Prop
  | .start => True
  | .within _ low _ _ => 0x80 ≤ low

theorem feed_sound (state : State) (out : Decoded) (b : UInt8) (h : Sound state) :
    Sound (feed (state, out) b).1 := by
  have hlead : ∀ out, Sound (lead out b).1 := by
    intro out
    unfold lead
    split_ifs <;> simp [Sound]
  cases state with
  | start => exact hlead out
  | within owed low high bits =>
    rw [feed]
    split
    · cases owed <;> simp [Sound]
    · exact hlead (none :: out)

theorem foldl_sound (bs : List UInt8) (state : State) (out : Decoded) (h : Sound state) :
    Sound (bs.foldl feed (state, out)).1 := by
  induction bs generalizing state out with
  | nil => exact h
  | cons b bs ih => exact ih _ _ (feed_sound state out b h)

theorem scan_ascii (bs : List UInt8) (b : UInt8) (hb : b < 0x80) :
    scan (bs ++ [b]) = scan bs ++ [some (Char.ofNat b.toNat)] := by
  have hsound := foldl_sound bs .start [] trivial
  rw [scan, scan, List.foldl_append]
  generalize bs.foldl feed (.start, []) = reached at hsound
  obtain ⟨state, out⟩ := reached
  cases state with
  | start => simp [feed, lead, hb, finish]
  | within owed low high bits =>
    have hlow : ¬(low ≤ b ∧ b ≤ high) := fun h =>
      absurd (UInt8.lt_of_lt_of_le hb (UInt8.le_trans hsound h.1)) (UInt8.lt_irrefl b)
    simp [feed, hlow, lead, hb, finish]

theorem decode?_ascii (bs : List UInt8) (b : UInt8) (hb : b < 0x80) :
    decode? (bs ++ [b]) = (decode? bs).map (· ++ [Char.ofNat b.toNat]) := by
  simp only [decode?, scan_ascii bs b hb, List.all_append, List.filterMap_append]
  by_cases h : (scan bs).all Option.isSome = true <;> simp [h]

end Utf8

namespace Composition

variable (cs : List Char) (c : Char) (h : IsBlank c)
include h

theorem combiningClass_blank : combiningClass c = 0 := by
  have hbound : c.toNat ≤ 0x20 := h
  rw [combiningClass, if_pos (by omega)]

theorem takeApart_blank : takeApart c = [c] := by
  have hbound : c.toNat ≤ 0x20 := h
  rw [takeApart, if_pos (by omega)]

theorem join?_blank (base : Char) : join? base c = none := by
  have hbound : c.toNat ≤ 0x20 := h
  rw [join?, if_neg (by omega), if_neg (by omega), if_pos (by omega)]

theorem orderMarks_blank : orderMarks (cs ++ [c]) = orderMarks cs ++ [c] := by
  rw [orderMarks, orderMarks, List.foldl_append]
  generalize cs.foldl order ([], []) = reached
  obtain ⟨done, run⟩ := reached
  simp [order, combiningClass_blank c h]

omit h in
theorem marks_before (b : Building) (hb : b.base = none → b.marks = []) :
    (b.push c).base = none → (b.push c).marks = [] := by
  obtain ⟨done, base, marks⟩ := b
  cases base with
  | none =>
    obtain rfl : marks = [] := hb rfl
    simp only [Building.push]
    split <;> simp
  | some base =>
    simp only [Building.push]
    split
    · simp
    · split <;> simp

omit h in
theorem marks_before_all (b : Building) (hb : b.base = none → b.marks = []) :
    (cs.foldl Building.push b).base = none → (cs.foldl Building.push b).marks = [] := by
  induction cs generalizing b with
  | nil => exact hb
  | cons d cs ih => exact ih _ (marks_before d b hb)

theorem putTogether_blank : putTogether (cs ++ [c]) = putTogether cs ++ [c] := by
  have hmarks := marks_before_all cs ⟨[], none, []⟩ fun _ => rfl
  rw [putTogether, putTogether, List.foldl_append]
  generalize cs.foldl Building.push ⟨[], none, []⟩ = b at hmarks
  obtain ⟨done, base, marks⟩ := b
  cases base with
  | none =>
    obtain rfl : marks = [] := hmarks rfl
    simp [Building.push, Building.finish, combiningClass_blank c h]
  | some base =>
    simp [Building.push, Building.finish, combiningClass_blank c h, join?_blank c h]

theorem compose_blank : compose (cs ++ [c]) = compose cs ++ [c] := by
  rw [compose, List.flatMap_append, List.flatMap_singleton, takeApart_blank c h,
    orderMarks_blank _ c h, putTogether_blank _ c h]
  rfl

end Composition

end Text

namespace Domain

open MapClient.Text

section
variable (cs : List Char) (c : Char) (h : IsBlank c)
include h

theorem fate_blank : fate c = .kept := by
  have hbound : c.toNat ≤ 0x20 := h
  rw [fate, if_pos (by omega), if_neg fun hle => not_le_blank c 'A' h (by decide) hle.1]

theorem replaceAll_blank : replaceAll (cs ++ [c]) = (replaceAll cs).map (· ++ [c]) := by
  induction cs with
  | nil => simp [replaceAll, fate_blank c h]
  | cons d cs ih =>
    rw [List.cons_append, replaceAll, replaceAll, ih]
    cases fate d <;> cases replaceAll cs <;> simp

theorem digitValue?_blank : Punycode.digitValue? c = none := by
  simp only [Punycode.digitValue?, not_le_blank c 'a' h (by decide),
    not_le_blank c 'A' h (by decide), not_le_blank c '0' h (by decide), false_and, if_false]

/-- The counts that a code ends with take its last character. -/
theorem splitPlain_blank :
    ∃ plain counts, Punycode.splitPlain (cs ++ [c]) = (plain, counts ++ [c]) := by
  have hhyphen : c ≠ '-' := ne_blank c '-' h (by decide)
  simp only [Punycode.splitPlain, List.reverse_append, List.reverse_singleton,
    List.singleton_append, List.dropWhile_cons, List.takeWhile_cons, hhyphen, ne_eq,
    not_false_eq_true, decide_true, if_true]
  split
  · exact ⟨[], cs, rfl⟩
  · exact ⟨[], cs, rfl⟩
  · exact ⟨_, _, by rw [List.reverse_cons]⟩

theorem punycode_blank : Punycode.decode? (cs ++ [c]) = none := by
  obtain ⟨plain, counts, hsplit⟩ := splitPlain_blank cs c h
  have hread : ∀ d, Punycode.Decoding.read d c = none := fun d => by
    rw [Punycode.Decoding.read, digitValue?_blank c h]
    rfl
  have hfold : (counts ++ [c]).foldlM Punycode.Decoding.read (.start plain) = none := by
    rw [List.foldlM_append]
    cases counts.foldlM Punycode.Decoding.read (.start plain) with
    | none => rfl
    | some d => simp [hread]
  simp only [Punycode.decode?, hsplit, hfold]
  split <;> rfl

theorem decodeLabel?_blank (label : List Char)
    (hlabel : decodeLabel? (cs ++ [c]) = some label) : label = cs ++ [c] := by
  rw [decodeLabel?] at hlabel
  split at hlabel
  · exact (Option.some.inj hlabel).symm
  · rename_i code hcode
    have hmark := (after?_iff codedMark _ _).mp hcode
    have hlast : (codedMark ++ code).getLast? = some c := by
      rw [← hmark, List.getLast?_concat]
    obtain ⟨code', rfl⟩ : ∃ code', code = code' ++ [c] := by
      cases code using List.reverseRecOn with
      | nil =>
        rw [List.append_nil] at hlast
        exact absurd (Option.some.inj hlast).symm (ne_blank c '-' h (by decide))
      | append_singleton code d =>
        rw [← List.append_assoc, List.getLast?_concat] at hlast
        exact ⟨code, by rw [Option.some.inj hlast]⟩
    rw [punycode_blank code' c h] at hlabel
    split at hlabel <;> simp at hlabel

theorem isPlain_blank : Punycode.isPlain c = true := by
  have hbound : c.toNat ≤ 0x20 := h
  simp only [Punycode.isPlain, decide_eq_true_eq]
  omega

theorem refused_blank : refusedInName c = true := by
  have hbound : c.toNat ≤ 0x20 := h
  simp [refusedInName, hbound]

theorem encodeLabel?_blank (label coded : List Char) (hmem : c ∈ label)
    (hlabel : encodeLabel? label = some coded) : c ∈ coded := by
  rw [encodeLabel?] at hlabel
  split_ifs at hlabel with hplain hlength
  · exact Option.some.inj hlabel ▸ hmem
  · have hfilter : c ∈ label.filter Punycode.isPlain :=
      List.mem_filter.mpr ⟨hmem, isPlain_blank c h⟩
    rw [← Option.some.inj hlabel]
    refine List.mem_append_right _ (List.mem_append_left _ ?_)
    rw [if_neg (List.ne_nil_of_mem hfilter)]
    exact List.mem_append_left _ hfilter

end

theorem mem_joinLabels (labels : List (List Char)) (label : List Char) (c : Char)
    (hmem : label ∈ labels) (hc : c ∈ label) : c ∈ joinLabels labels := by
  induction labels with
  | nil => cases hmem
  | cons l labels ih =>
    cases labels with
    | nil =>
      obtain rfl := List.mem_singleton.mp hmem
      exact hc
    | cons l' labels =>
      rw [joinLabels]
      · rcases List.mem_cons.mp hmem with rfl | hmem
        · exact List.mem_append_left _ hc
        · exact List.mem_append_right _ (List.mem_cons_of_mem _ (ih hmem))
      · simp

theorem toAscii?_blank (cs : List Char) (c : Char) (h : IsBlank c) :
    toAscii? (cs ++ [c]) = none := by
  refine Option.eq_none_iff_forall_ne_some.mpr fun name hname => ?_
  simp only [toAscii?, replaceAll_blank cs c h, bind, Option.bind_eq_some_iff,
    Option.map_eq_some_iff] at hname
  obtain ⟨_, ⟨kept, -, rfl⟩, labels, hlabels, hname⟩ := hname
  rw [Composition.compose_blank kept c h] at hlabels
  split at hname
  · simp only [Option.bind_eq_some_iff] at hname
    obtain ⟨coded, hcoded, hname⟩ := hname
    obtain ⟨ps, p, -, hps⟩ := pieces_more (· = '.') (Composition.compose kept) [c] (by
      intro d hd
      obtain rfl := List.mem_singleton.mp hd
      simpa using ne_blank d '.' h (by decide))
    rw [hps] at hlabels
    obtain ⟨label, hmem, hlabel⟩ := (mapM_each hlabels).1 (p ++ [c]) (by simp)
    obtain rfl := decodeLabel?_blank p c h label hlabel
    obtain ⟨text, htext, hcode⟩ := (mapM_each hcoded).1 _ hmem
    have hc := mem_joinLabels coded text c htext
      (encodeLabel?_blank c h _ text (List.mem_append_right p (by simp)) hcode)
    have hany : (joinLabels coded).any refusedInName = true :=
      List.any_eq_true.mpr ⟨c, hc, refused_blank c h⟩
    rw [if_pos hany] at hname
    cases hname
  · cases hname

namespace Punycode

theorem digit_plain (d : Nat) (h : d < 36) : isPlain (digit d) = true := by
  have hall : ∀ d < 36, isPlain (digit d) = true := by decide
  exact hall d h

theorem countDigits_plain (bias k n : Nat) : ∀ c ∈ countDigits bias k n, isPlain c = true := by
  have hle := threshold_le k bias
  have hpos := threshold_pos k bias
  fun_induction countDigits bias k n with
  | case1 k n t hlt => simpa using digit_plain n (by omega)
  | case2 k n t hge ih =>
    have hmod := Nat.mod_lt (n - t) (show 0 < 36 - t by omega)
    intro c hc
    rcases List.mem_cons.mp hc with rfl | hc
    · exact digit_plain _ (by omega)
    · exact ih (threshold_le _ _) (threshold_pos _ _) c hc

def Encoding.Plain (e : Encoding) : Prop := ∀ c ∈ e.out, isPlain c = true

theorem pass_plain (plain n : Nat) (e : Encoding) (c : Char) (h : e.Plain) :
    (e.pass plain n c).Plain := by
  unfold Encoding.pass
  split_ifs
  · exact h
  · intro d hd
    rcases List.mem_append.mp hd with hd | hd
    · exact countDigits_plain _ _ _ d (List.mem_reverse.mp hd)
    · exact h d hd
  · exact h

theorem place_plain (plain : Nat) (label : List Char) (state : Encoding × Nat) (n : Nat)
    (h : state.1.Plain) : (Encoding.place plain label state n).1.Plain :=
  List.foldlRecOn label _ (motive := Encoding.Plain) h fun e he c _ => pass_plain plain n e c he

theorem encode_plain (label : List Char) : ∀ c ∈ encode label, isPlain c = true := by
  have hout : ((numbers label).foldl (Encoding.place (label.filter isPlain).length label)
      (⟨[], 0, 72, (label.filter isPlain).length⟩, 128)).1.Plain :=
    List.foldlRecOn (numbers label) _ (motive := fun state => state.1.Plain)
      (by simp [Encoding.Plain]) fun state h n _ => place_plain _ label state n h
  intro c hc
  rcases List.mem_append.mp hc with hc | hc
  · split at hc
    · cases hc
    · rcases List.mem_append.mp hc with hc | hc
      · exact (List.mem_filter.mp hc).2
      · rw [List.mem_singleton.mp hc]
        decide
  · exact hout c (List.mem_reverse.mp hc)

end Punycode

theorem encodeLabel?_plain (label coded : List Char) (h : encodeLabel? label = some coded) :
    ∀ c ∈ coded, Punycode.isPlain c = true := by
  rw [encodeLabel?] at h
  split_ifs at h with hplain hlength
  · obtain rfl := Option.some.inj h
    simpa [isInternational] using hplain
  · obtain rfl := Option.some.inj h
    intro c hc
    rcases List.mem_append.mp hc with hc | hc
    · have hall : codedMark.all Punycode.isPlain = true := by decide
      exact List.all_eq_true.mp hall c hc
    · exact Punycode.encode_plain label c hc

theorem joinLabels_plain (labels : List (List Char))
    (h : ∀ label ∈ labels, ∀ c ∈ label, Punycode.isPlain c = true) :
    ∀ c ∈ joinLabels labels, Punycode.isPlain c = true := by
  fun_induction joinLabels labels with
  | case1 => simp
  | case2 label => exact h label (by simp)
  | case3 label labels _ ih =>
    intro c hc
    rcases List.mem_append.mp hc with hc | hc
    · exact h label (by simp) c hc
    · rcases List.mem_cons.mp hc with rfl | hc
      · decide
      · exact ih (fun l hl => h l (List.mem_cons_of_mem _ hl)) c hc

/-- A host name is ASCII and holds nothing that is refused. -/
theorem toAscii?_chars (name ascii : List Char) (h : toAscii? name = some ascii) :
    ∀ c ∈ ascii, Punycode.isPlain c = true ∧ refusedInName c = false := by
  simp only [toAscii?, bind, Option.bind_eq_some_iff] at h
  obtain ⟨_, -, labels, -, h⟩ := h
  split at h
  · simp only [Option.bind_eq_some_iff] at h
    obtain ⟨coded, hcoded, h⟩ := h
    split at h
    · cases h
    · rename_i hrefused
      obtain rfl := Option.some.inj h
      have hplain := joinLabels_plain coded fun label hlabel => by
        obtain ⟨l, -, hl⟩ := (mapM_each hcoded).2 label hlabel
        exact encodeLabel?_plain l label hl
      intro c hc
      refine ⟨hplain c hc, ?_⟩
      simpa using fun hr => hrefused (List.any_eq_true.mpr ⟨c, hc, hr⟩)
  · cases h

end Domain

namespace Url

open MapClient.Text

theorem encodeChar_blank (c : Char) (h : IsBlank c) :
    String.utf8EncodeChar c = [UInt8.ofNat c.toNat] := by
  have hbound : c.toNat ≤ 0x20 := h
  rw [String.utf8EncodeChar]
  simp only [Char.toNat] at hbound
  split_ifs <;> first | rfl | omega

theorem decode_plain (c : Char) (cs : List Char) (h : c ≠ '%') :
    decode (c :: cs) = String.utf8EncodeChar c ++ decode cs := by
  rw [decode.eq_def]
  split
  · cases ‹c :: cs = []›
  · exact absurd (List.cons.inj ‹c :: cs = _›).1 h
  · obtain ⟨rfl, rfl⟩ := List.cons.inj ‹c :: cs = _›
    rfl

theorem decode_blank (cs : List Char) (c : Char) (h : IsBlank c) :
    decode (cs ++ [c]) = decode cs ++ [UInt8.ofNat c.toNat] := by
  have hlast : decode [c] = [UInt8.ofNat c.toNat] := by
    rw [decode_plain c [] (ne_blank c '%' h (by decide)), encodeChar_blank c h]
    rfl
  fun_induction decode cs with
  | case1 => exact hlast
  | case2 a b cs high low hhigh hlow ih =>
    simp only [List.cons_append, decode, hhigh, hlow, ih]
  | case3 a b cs hnone ih =>
    simp only [List.cons_append] at ih ⊢
    rw [decode]
    split
    · exact absurd ‹_› (hnone _ _ ‹_›)
    · rw [ih]
  | case4 d cs hshort ih =>
    -- a percent sign may have the blank for its second digit, or for its first
    by_cases hd : d = '%'
    · subst d
      rcases cs with _ | ⟨a, _ | ⟨b, cs⟩⟩
      · show String.utf8EncodeChar '%' ++ decode [c] = _
        rw [hlast]
        rfl
      · have hpercent : decode ['%', a, c] = 0x25 :: decode [a, c] := by
          rw [decode, hexValue?_blank c h]
          cases hexValue? a <;> rfl
        exact hpercent.trans (congrArg (0x25 :: ·) ih)
      · exact absurd rfl (hshort a b cs rfl)
    · rw [List.cons_append, decode_plain d _ hd, ih, List.append_assoc]

/-- No host ends in a blank. -/
theorem netHost_blank (cs : List Char) (c : Char) (h : IsBlank c) :
    ∃ fault, netHost (cs ++ [c]) = .error fault := by
  have hbound : c.toNat ≤ 0x20 := h
  have hnat : (UInt8.ofNat c.toNat).toNat = c.toNat := by
    rw [UInt8.toNat_ofNat', Nat.mod_eq_of_lt (Nat.lt_of_le_of_lt hbound (by decide))]
  have hbyte : UInt8.ofNat c.toNat < 0x80 := by
    rw [UInt8.lt_iff_toNat_lt, hnat]
    exact Nat.lt_of_le_of_lt hbound (by decide)
  have hchar : Char.ofNat (UInt8.ofNat c.toNat).toNat = c := by
    rw [hnat, Char.ofNat_toNat]
  have hname : (Utf8.decode? (decode (cs ++ [c]))).bind Domain.toAscii? = none := by
    rw [decode_blank cs c h, Utf8.decode?_ascii _ _ hbyte, hchar]
    cases Utf8.decode? (decode cs) with
    | none => rfl
    | some name => exact Domain.toAscii?_blank name c h
  rw [netHost, hname]
  cases hbracket : bracketed? (cs ++ [c]) with
  | none => exact ⟨_, rfl⟩
  | some result =>
    have hlast : ∀ ds, cs ++ [c] = '[' :: ds → ds.getLast? ≠ some ']' := by
      intro ds hds hend
      have hall : (cs ++ [c]).getLast? = some ']' := by
        rw [hds, List.getLast?_cons, hend]
        rfl
      rw [List.getLast?_concat] at hall
      exact ne_blank c ']' h (by decide) (Option.some.inj hall)
    unfold bracketed? at hbracket
    split at hbracket
    · rename_i ds hds
      rw [if_neg (hlast ds hds)] at hbracket
      exact ⟨_, (Option.some.inj hbracket).symm⟩
    · cases hbracket

end Url

end MapClient
