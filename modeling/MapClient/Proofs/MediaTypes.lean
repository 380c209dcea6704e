import MapClient.Http.ContentType
import MapClient.Proofs.Parts

/-!
# Content types and the encodings that they name

A content type is a type and a subtype with parameters, whose values are tokens
or stand in quotes. It names an encoding with its first parameter of the name
`charset`; what is not written so names none.
-/

set_option autoImplicit false

namespace MapClient.Http.ContentType

open MapClient.Text

def Blanks (cs : List Char) : Prop := ∀ c ∈ cs, c = ' '

def Token (cs : List Char) : Prop := ∀ c ∈ cs, isTokenChar c = true

inductive AfterQuote : List Char → List Char → Prop
  | last (blanks : List Char) (h : Blanks blanks) : AfterQuote blanks []
  | more (blanks rest : List Char) (h : Blanks blanks) : AfterQuote (blanks ++ ';' :: rest) rest

inductive ValueText : List Char → List Char → List Char → Prop
  | last (value : List Char) (h : Token value) : ValueText value value []
  | more (value rest : List Char) (hsome : value ≠ []) (h : Token value) :
      ValueText (value ++ ';' :: rest) value rest
  | quoted (value tail rest : List Char) (hsome : value ≠ [])
      (hshown : ∀ c ∈ value, isQuotedChar c = true) (hquote : ∀ c ∈ value.tail, c ≠ '\x22')
      (h : AfterQuote tail rest) : ValueText ('\x22' :: (value ++ '\x22' :: tail)) value rest

inductive ParametersText : List Char → List (List Char × List Char) → Prop
  | done (blanks : List Char) (h : Blanks blanks) : ParametersText blanks []
  | more (blanks name text value rest : List Char) (ps : List (List Char × List Char))
      (hblanks : Blanks blanks) (hsome : name ≠ []) (hname : Token name)
      (hvalue : ValueText text value rest) (hrest : ParametersText rest ps) :
      ParametersText (blanks ++ (name ++ '=' :: text)) ((name, value) :: ps)

inductive TypeText : List Char → List (List Char × List Char) → Prop
  | bare (main sub : List Char) (hsome : main ≠ []) (hmain : Token main) (hsub : Token sub) :
      TypeText (main ++ '/' :: sub) []
  | full (main sub text : List Char) (ps : List (List Char × List Char)) (hsome : main ≠ [])
      (hsome' : sub ≠ []) (hmain : Token main) (hsub : Token sub) (h : ParametersText text ps) :
      TypeText (main ++ '/' :: (sub ++ ';' :: text)) ps

def Names (value : List UInt8) (label : List Char) : Prop :=
  ∃ text ps, asciiText? value = some text ∧ TypeText text ps ∧
    ∃ before name after, ps = before ++ (name, label) :: after ∧
      name.map lowerAscii = "charset".toList ∧
      ∀ p ∈ before, p.1.map lowerAscii ≠ "charset".toList

theorem blanks_split (cs : List Char) : ∃ blanks rest, cs = blanks ++ rest ∧ Blanks blanks ∧
    rest = cs.dropWhile (· = ' ') := by
  refine ⟨cs.takeWhile (· = ' '), _, List.takeWhile_append_dropWhile.symm, fun c hc => ?_, rfl⟩
  simpa using List.mem_takeWhile_imp hc

theorem dropBlanks (blanks : List Char) (h : Blanks blanks) (c : Char) (rest : List Char)
    (hc : c ≠ ' ') : (blanks ++ c :: rest).dropWhile (· = ' ') = c :: rest :=
  dropWhile_front rest (fun b hb => by simpa using h b hb) (by simpa using hc)

theorem afterQuote_iff (cs rest : List Char) : afterQuote cs = some rest ↔ AfterQuote cs rest := by
  constructor
  · intro h
    obtain ⟨blanks, tail, hcs, hblanks, htail⟩ := blanks_split cs
    rw [afterQuote, ← htail] at h
    subst hcs
    split at h
    · obtain rfl := Option.some.inj h
      rw [List.append_nil]
      exact .last blanks hblanks
    · obtain rfl := Option.some.inj h
      exact .more blanks _ hblanks
    · cases h
  · intro h
    cases h with
    | last _ h =>
      have hdrop : cs.dropWhile (· = ' ') = [] :=
        List.dropWhile_eq_nil_iff.mpr fun c hc => by simpa using h c hc
      simp only [afterQuote, hdrop]
    | more blanks _ h => simp only [afterQuote, dropBlanks blanks h ';' rest (by decide)]

theorem untilQuote_iff (front cs value rest : List Char) :
    (let (shown, tail) := cs.span (· ≠ '\x22')
     match tail with
     | _ :: tail =>
       if shown.all isQuotedChar then (afterQuote tail).map fun rest => (front ++ shown, rest)
       else none
     | [] => none) = some (value, rest) ↔
    ∃ shown tail, cs = shown ++ '\x22' :: tail ∧ (∀ c ∈ shown, isQuotedChar c = true) ∧
      (∀ c ∈ shown, c ≠ '\x22') ∧ AfterQuote tail rest ∧ value = front ++ shown := by
  constructor
  · obtain ⟨shown, tail, hspan, rfl, hshown, htail⟩ := span_split (· ≠ '\x22') cs
    rw [hspan]
    intro h
    cases tail with
    | nil => cases h
    | cons c tail =>
      obtain rfl : c = '\x22' := by simpa using htail c rfl
      dsimp only at h
      split_ifs at h with hall
      obtain ⟨rest', hafter, hpair⟩ := Option.map_eq_some_iff.mp h
      obtain ⟨rfl, rfl⟩ := Prod.mk.inj hpair
      exact ⟨shown, tail, rfl, List.all_eq_true.mp hall, fun d hd => by simpa using hshown d hd,
        (afterQuote_iff tail rest').mp hafter, rfl⟩
  · rintro ⟨shown, tail, rfl, hall, hquote, hafter, rfl⟩
    have hspan := span_front (p := (· ≠ '\x22')) tail (fun c hc => by simpa using hquote c hc)
      (show decide ('\x22' ≠ '\x22') = false from rfl)
    rw [hspan]
    dsimp only
    rw [if_pos (List.all_eq_true.mpr hall), (afterQuote_iff tail rest).mpr hafter]
    rfl

theorem quotedValue_iff (cs value rest : List Char) :
    quotedValue cs = some (value, rest) ↔ ∃ tail, cs = value ++ '\x22' :: tail ∧ value ≠ [] ∧
      (∀ c ∈ value, isQuotedChar c = true) ∧ (∀ c ∈ value.tail, c ≠ '\x22') ∧
      AfterQuote tail rest := by
  unfold quotedValue
  split
  rename_i front body hfront
  split at hfront
  · -- a quote at the beginning is part of the value
    rename_i cs
    obtain ⟨rfl, rfl⟩ := Prod.mk.inj hfront
    refine (untilQuote_iff ['\x22'] cs value rest).trans ⟨?_, ?_⟩
    · rintro ⟨shown, tail, rfl, hall, hquote, hafter, rfl⟩
      refine ⟨tail, rfl, List.cons_ne_nil _ _, fun c hc => ?_, hquote, hafter⟩
      rcases List.mem_cons.mp hc with rfl | hc
      · rfl
      · exact hall c hc
    · rintro ⟨tail, hcs, hsome, hall, hquote, hafter⟩
      obtain ⟨c, shown, rfl⟩ := List.exists_cons_of_ne_nil hsome
      obtain ⟨rfl, rfl⟩ := List.cons.inj hcs
      exact ⟨shown, tail, rfl, fun d hd => hall d (List.mem_cons_of_mem _ hd), hquote, hafter, rfl⟩
  · rename_i hopen
    obtain ⟨rfl, rfl⟩ := Prod.mk.inj hfront
    refine (untilQuote_iff [] cs value rest).trans ⟨?_, ?_⟩
    · rintro ⟨shown, tail, rfl, hall, hquote, hafter, rfl⟩
      refine ⟨tail, rfl, ?_, hall, fun c hc => hquote c (List.mem_of_mem_tail hc), hafter⟩
      rintro rfl
      exact hopen tail rfl
    · rintro ⟨tail, rfl, hsome, hall, hquote, hafter⟩
      obtain ⟨c, shown, rfl⟩ := List.exists_cons_of_ne_nil hsome
      refine ⟨c :: shown, tail, rfl, hall, fun d hd => ?_, hafter, rfl⟩
      rcases List.mem_cons.mp hd with rfl | hd
      · rintro rfl
        exact hopen _ rfl
      · exact hquote d hd

theorem value_token (text : List Char) (h : text.head? ≠ some '\x22') :
    ContentType.value text =
      match text.span isTokenChar with
      | (value, []) => some (value, [])
      | (value, c :: rest) => if c = ';' ∧ value ≠ [] then some (value, rest) else none := by
  unfold ContentType.value
  split
  · exact absurd rfl h
  · rfl

theorem value_read {text value rest : List Char} (h : ValueText text value rest) :
    ContentType.value text = some (value, rest) := by
  have hquote : isTokenChar '\x22' = false := by decide
  cases h with
  | last _ h =>
    rw [value_token, span_all h]
    intro hhead
    rw [h _ (List.mem_of_mem_head? hhead)] at hquote
    cases hquote
  | more _ _ hsome h =>
    rw [value_token, span_front rest h (show isTokenChar ';' = false by decide)]
    · exact if_pos ⟨rfl, hsome⟩
    · rw [List.head?_append_of_ne_nil _ hsome]
      intro hhead
      rw [h _ (List.mem_of_mem_head? hhead)] at hquote
      cases hquote
  | quoted _ tail _ hsome hall hquote hafter =>
    exact (quotedValue_iff _ _ _).mpr ⟨tail, rfl, hsome, hall, hquote, hafter⟩

theorem value_iff (text value rest : List Char) :
    ContentType.value text = some (value, rest) ↔ ValueText text value rest := by
  refine ⟨fun h => ?_, value_read⟩
  by_cases hquote : text.head? = some '\x22'
  · obtain ⟨cs, rfl⟩ : ∃ cs, text = '\x22' :: cs := List.head?_eq_some_iff.mp hquote
    obtain ⟨tail, rfl, hsome, hall, hquote, hafter⟩ := (quotedValue_iff cs value rest).mp h
    exact .quoted value tail rest hsome hall hquote hafter
  · obtain ⟨front, tail, hspan, rfl, hfront, -⟩ := span_split isTokenChar text
    rw [value_token _ hquote, hspan] at h
    cases tail with
    | nil =>
      obtain ⟨rfl, rfl⟩ := Prod.mk.inj (Option.some.inj h)
      rw [List.append_nil]
      exact .last front hfront
    | cons c tail =>
      dsimp only at h
      split_ifs at h with hend
      obtain ⟨rfl, rfl⟩ := Prod.mk.inj (Option.some.inj h)
      rw [hend.1]
      exact .more front tail hend.2 hfront

theorem ValueText.length {text value rest : List Char} (h : ValueText text value rest) :
    rest.length ≤ text.length := by
  cases h with
  | last => exact Nat.zero_le _
  | more =>
    simp only [List.length_append, List.length_cons]
    omega
  | quoted _ tail _ _ _ _ hafter =>
    cases hafter with
    | last => exact Nat.zero_le _
    | more =>
      simp only [List.length_append, List.length_cons]
      omega

theorem token_visible {name : List Char} (hname : Token name) : ∀ c ∈ name, c ≠ ' ' := by
  rintro c hc rfl
  exact absurd (hname ' ' hc) (by decide)

theorem parameter_iff (cs name value rest : List Char) :
    parameter cs = some ((name, value), rest) ↔ ∃ blanks text, Blanks blanks ∧ name ≠ [] ∧
      Token name ∧ cs = blanks ++ (name ++ '=' :: text) ∧ ValueText text value rest := by
  constructor
  · intro h
    obtain ⟨blanks, tail, rfl, hblanks, htail⟩ := blanks_split cs
    obtain ⟨front, body, hspan, rfl, hfront, -⟩ := span_split isTokenChar tail
    rw [parameter, ← htail, hspan] at h
    split at h
    · rename_i name' text hpair
      obtain ⟨rfl, rfl⟩ := Prod.mk.inj hpair
      split_ifs at h with hsome
      obtain ⟨read, hvalue, hread⟩ := Option.map_eq_some_iff.mp h
      obtain ⟨hnames, rfl⟩ := Prod.mk.inj hread
      obtain ⟨rfl, rfl⟩ := Prod.mk.inj hnames
      exact ⟨blanks, text, hblanks, hsome, hfront, rfl, (value_iff _ _ _).mp hvalue⟩
    · cases h
  · rintro ⟨blanks, text, hblanks, hsome, hname, rfl, hvalue⟩
    obtain ⟨c, more, rfl⟩ := List.exists_cons_of_ne_nil hsome
    have hc : c ≠ ' ' := token_visible hname c List.mem_cons_self
    rw [parameter, List.cons_append, dropBlanks blanks hblanks c _ hc, ← List.cons_append,
      span_front text hname (show isTokenChar '=' = false by decide)]
    simp only [hsome, if_false, value_read hvalue, Option.map_some]

/-- A parameter takes up some characters. -/
theorem parameter_length {cs rest : List Char} {p : List Char × List Char}
    (h : parameter cs = some (p, rest)) : rest.length < cs.length := by
  obtain ⟨blanks, text, -, -, -, rfl, hvalue⟩ := (parameter_iff cs p.1 p.2 rest).mp h
  have := hvalue.length
  simp only [List.length_append, List.length_cons]
  omega

theorem parameters_iff (k : Nat) (cs : List Char) (ps : List (List Char × List Char))
    (hk : cs.length < k) : parameters k cs = some ps ↔ ParametersText cs ps := by
  -- on the parameters that can still be read, of which there are more than characters
  induction k generalizing cs ps with
  | zero => exact absurd hk (Nat.not_lt_zero _)
  | succ k ih =>
    rw [parameters]
    constructor
    · intro h
      split_ifs at h with hall
      · obtain rfl := Option.some.inj h
        exact .done cs fun c hc => by simpa using List.all_eq_true.mp hall c hc
      · obtain ⟨⟨⟨name, value⟩, rest⟩, hparameter, hrest⟩ := Option.bind_eq_some_iff.mp h
        obtain ⟨ps', hps, rfl⟩ := Option.map_eq_some_iff.mp hrest
        have hshorter := parameter_length hparameter
        obtain ⟨blanks, text, hblanks, hsome, hname, rfl, hvalue⟩ :=
          (parameter_iff _ _ _ _).mp hparameter
        exact .more blanks name text value rest ps' hblanks hsome hname hvalue
          ((ih rest ps' (by omega)).mp hps)
    · intro h
      cases h with
      | done _ hblanks =>
        exact if_pos (List.all_eq_true.mpr fun c hc => by simpa using hblanks c hc)
      | more blanks name text value rest ps hblanks hsome hname hvalue hrest =>
        have hparameter := (parameter_iff _ name value rest).mpr
          ⟨blanks, text, hblanks, hsome, hname, rfl, hvalue⟩
        have hshorter := parameter_length hparameter
        rw [if_neg, hparameter, Option.bind_some, (ih rest ps (by omega)).mpr hrest]
        · rfl
        · intro hall
          obtain ⟨c, more, rfl⟩ := List.exists_cons_of_ne_nil hsome
          refine token_visible hname c List.mem_cons_self ?_
          simpa using List.all_eq_true.mp hall c (by simp)

theorem parametersOf?_iff (text : List Char) (ps : List (List Char × List Char)) :
    parametersOf? text = some ps ↔ TypeText text ps := by
  constructor
  · intro h
    obtain ⟨main, tail, hspan, rfl, hmain, -⟩ := span_split isTokenChar text
    rw [parametersOf?, hspan] at h
    split at h
    · rename_i main' rest hpair
      obtain ⟨rfl, rfl⟩ := Prod.mk.inj hpair
      split_ifs at h with hsome
      obtain ⟨sub, tail, hspan', rfl, hsub, -⟩ := span_split isTokenChar rest
      rw [hspan'] at h
      split at h
      · rename_i sub' hpair'
        obtain ⟨rfl, rfl⟩ := Prod.mk.inj hpair'
        obtain rfl := Option.some.inj h
        rw [List.append_nil]
        exact .bare main sub hsome hmain hsub
      · rename_i sub' text hpair'
        obtain ⟨rfl, rfl⟩ := Prod.mk.inj hpair'
        split_ifs at h with hsome'
        exact .full main sub text ps hsome hsome' hmain hsub
          ((parameters_iff _ text ps (Nat.lt_succ_self _)).mp h)
      · cases h
    · cases h
  · have hslash : isTokenChar '/' = false := by decide
    intro h
    cases h with
    | bare main sub hsome hmain hsub =>
      rw [parametersOf?, span_front sub hmain hslash]
      simp only [hsome, if_false, span_all hsub]
    | full main sub text _ hsome hsome' hmain hsub hps =>
      rw [parametersOf?, span_front _ hmain hslash]
      simp only [hsome, if_false, span_front text hsub (show isTokenChar ';' = false by decide),
        hsome', (parameters_iff _ text ps (Nat.lt_succ_self _)).mpr hps]

/-- The label that is found is the one that is named. -/
theorem charset?_iff (value : List UInt8) (label : List Char) :
    charset? value = some label ↔ Names value label := by
  unfold charset? Names
  simp only [bind, Option.bind_eq_some_iff, pure, Option.some.injEq]
  constructor
  · rintro ⟨text, htext, ps, hps, p, hfound, rfl⟩
    refine ⟨text, ps, htext, (parametersOf?_iff text ps).mp hps, ?_⟩
    obtain ⟨hname, before, after, rfl, hbefore⟩ := List.find?_eq_some_iff_append.mp hfound
    exact ⟨before, p.1, after, rfl, by simpa using hname, fun q hq => by simpa using hbefore q hq⟩
  · rintro ⟨text, ps, htext, hps, before, name, after, rfl, hname, hbefore⟩
    refine ⟨text, htext, _, (parametersOf?_iff text _).mpr hps, (name, label), ?_, rfl⟩
    refine List.find?_eq_some_iff_append.mpr ⟨by simpa using hname, before, after, rfl, ?_⟩
    exact fun q hq => by simpa using hbefore q hq

def nameOf (label : List Char) : List Char :=
  (strip Encoding.isLabelBlank label).map Encoding.lowerLabel

def utf8Labels : List String :=
  ["unicode-1-1-utf-8", "unicode11utf8", "unicode20utf8", "utf-8", "utf8", "x-unicode20utf8"]

def Known (name : List Char) : Prop :=
  name ≠ [] ∧ ∃ names ∈ Encoding.labels.map (·.1),
    name ∈ pieces Encoding.isLabelBlank names.toList

/-- Content types that leave a text in UTF-8: there is none, or the first has no
label, one that is not known, or one of UTF-8. -/
inductive LeavesUtf8 : List (List UInt8) → Prop
  | absent : LeavesUtf8 []
  | unnamed (value : List UInt8) (others : List (List UInt8)) (h : ∀ label, ¬Names value label) :
      LeavesUtf8 (value :: others)
  | unknown (value : List UInt8) (others : List (List UInt8)) (label : List Char)
      (h : Names value label) (hunknown : ¬Known (nameOf label)) : LeavesUtf8 (value :: others)
  | utf8 (value : List UInt8) (others : List (List UInt8)) (label : List Char)
      (h : Names value label) (hutf8 : nameOf label ∈ utf8Labels.map String.toList) :
      LeavesUtf8 (value :: others)

inductive Says : List (List UInt8) → Encoding → Prop
  | utf8 (values : List (List UInt8)) (h : LeavesUtf8 values) : Says values .utf8
  | labelled (value : List UInt8) (others : List (List UInt8)) (label : List Char) (e : Encoding)
      (h : Names value label) (he : Encoding.ofLabel? label = some e) : Says (value :: others) e

theorem ofLabel?_unknown (label : List Char) :
    Encoding.ofLabel? label = none ↔ ¬Known (nameOf label) := by
  rw [Encoding.ofLabel?, Option.map_eq_none_iff, List.find?_eq_none]
  constructor
  · rintro h ⟨hsome, names, hnames, hl⟩
    obtain ⟨e, he, rfl⟩ := List.mem_map.mp hnames
    refine h e he (List.any_eq_true.mpr ⟨nameOf label, hl, ?_⟩)
    simpa [nameOf] using hsome
  · intro h e he hany
    obtain ⟨l, hl, hname⟩ := List.any_eq_true.mp hany
    simp only [Bool.and_eq_true, decide_eq_true_eq, beq_iff_eq] at hname
    obtain ⟨hsome, rfl⟩ := hname
    exact h ⟨hsome, e.1, List.mem_map_of_mem he, hl⟩

theorem ofLabel?_utf8 (label : List Char) (h : nameOf label ∈ utf8Labels.map String.toList) :
    Encoding.ofLabel? label = some .utf8 := by
  have hlabels : ∃ names others, Encoding.labels = (names, Encoding.utf8) :: others ∧
      pieces Encoding.isLabelBlank names.toList = utf8Labels.map String.toList :=
    ⟨_, _, rfl, by decide +kernel⟩
  have hsome : ∀ l ∈ utf8Labels.map String.toList, l ≠ [] := by decide
  obtain ⟨names, others, hlabels, hpieces⟩ := hlabels
  rw [Encoding.ofLabel?, hlabels, List.find?_cons_of_pos]
  · rfl
  · refine List.any_eq_true.mpr ⟨nameOf label, hpieces ▸ h, ?_⟩
    simpa [nameOf] using hsome _ h

theorem encoding_named (value : List UInt8) (others : List (List UInt8)) (label : List Char)
    (h : Names value label) :
    encoding (value :: others) = (Encoding.ofLabel? label).getD .utf8 := by
  rw [encoding, List.head?_cons, Option.bind_some, (charset?_iff _ _).mpr h, Option.bind_some]

theorem encoding_utf8 (values : List (List UInt8)) (h : LeavesUtf8 values) :
    encoding values = .utf8 := by
  cases h with
  | absent => rfl
  | unnamed value others h =>
    have hnone : charset? value = none := Option.eq_none_iff_forall_ne_some.mpr
      fun label hlabel => h label ((charset?_iff _ _).mp hlabel)
    rw [encoding, List.head?_cons, Option.bind_some, hnone]
    rfl
  | unknown value others label h hunknown =>
    rw [encoding_named value others label h, (ofLabel?_unknown label).mpr hunknown,
      Option.getD_none]
  | utf8 value others label h hutf8 =>
    rw [encoding_named value others label h, ofLabel?_utf8 label hutf8, Option.getD_some]

theorem encoding_says {values : List (List UInt8)} {e : Encoding} (h : Says values e) :
    encoding values = e := by
  cases h with
  | utf8 _ h => exact encoding_utf8 values h
  | labelled value others label _ h he =>
    rw [encoding_named value others label h, he, Option.getD_some]

/-- Every content type gives a body an encoding. -/
theorem says_total (values : List (List UInt8)) : ∃ e, Says values e := by
  cases values with
  | nil => exact ⟨_, .utf8 _ .absent⟩
  | cons value others =>
    by_cases hnamed : ∃ label, Names value label
    · obtain ⟨label, h⟩ := hnamed
      cases he : Encoding.ofLabel? label with
      | some e => exact ⟨e, .labelled value others label e h he⟩
      | none =>
        exact ⟨_, .utf8 _ (.unknown value others label h ((ofLabel?_unknown label).mp he))⟩
    · exact ⟨_, .utf8 _ (.unnamed value others (not_exists.mp hnamed))⟩

end MapClient.Http.ContentType
