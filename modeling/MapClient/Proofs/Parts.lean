import MapClient.Text.Pieces
import Mathlib.Data.List.DropRight
import Mathlib.Data.List.TakeDrop

/-!
# Reading by parts

A text is read in stages, each of which takes a part off its beginning. Stages
succeed together if each does. Where a list is cut or trimmed, and what it was
put together from, decide each other: a part without a separator stays whole,
and a separator keeps what stands on its sides apart.
-/

set_option autoImplicit false

namespace MapClient

section

variable {ε α β : Type}

theorem stages_ok (x : Except ε α) (f : α → Except ε β) (b : β) :
    x >>= f = .ok b ↔ ∃ a, x = .ok a ∧ f a = .ok b := by
  cases x with
  | error e => simp [bind, Except.bind]
  | ok a => simp [bind, Except.bind]

theorem unless_ok (c : Prop) [Decidable c] (e : ε) (f : α → Except ε β) (x : Except ε β) (b : β) :
    (if c then throw e >>= f else x) = .ok b ↔ ¬c ∧ x = .ok b := by
  by_cases h : c
  · simp [h, bind, Except.bind, throw, throwThe, MonadExceptOf.throw]
  · simp [h]

theorem map_ok (f : α → β) (x : Except ε α) (b : β) :
    x.map f = .ok b ↔ ∃ a, x = .ok a ∧ f a = b := by
  cases x with
  | error e => simp [Except.map]
  | ok a => simp [Except.map]

theorem mapM_each {f : α → Option β} {as : List α} {bs : List β} (h : as.mapM f = some bs) :
    (∀ a ∈ as, ∃ b ∈ bs, f a = some b) ∧ ∀ b ∈ bs, ∃ a ∈ as, f a = some b := by
  induction as generalizing bs with
  | nil =>
    obtain rfl : [] = bs := Option.some.inj h
    simp
  | cons a as ih =>
    simp only [List.mapM_cons, bind, Option.bind_eq_some_iff] at h
    obtain ⟨b, hb, bs, hbs, h⟩ := h
    obtain rfl : b :: bs = _ := Option.some.inj h
    obtain ⟨hforth, hback⟩ := ih hbs
    constructor
    · intro a' ha
      rcases List.mem_cons.mp ha with rfl | ha
      · exact ⟨b, List.mem_cons_self, hb⟩
      · obtain ⟨b', hb', hread⟩ := hforth a' ha
        exact ⟨b', List.mem_cons_of_mem b hb', hread⟩
    · intro b' hb'
      rcases List.mem_cons.mp hb' with rfl | hb'
      · exact ⟨a, List.mem_cons_self, hb⟩
      · obtain ⟨a', ha, hread⟩ := hback b' hb'
        exact ⟨a', List.mem_cons_of_mem a ha, hread⟩

end

namespace Text

variable {α : Type} {p : α → Bool}

theorem pieces_cons (sep : α → Bool) (a : α) (as : List α) :
    pieces sep (a :: as) = if sep a then [] :: pieces sep as else extend a (pieces sep as) := rfl

theorem pieces_cases (sep : α → Bool) (as : List α) : ∃ p ps, pieces sep as = p :: ps := by
  cases as with
  | nil => exact ⟨_, _, rfl⟩
  | cons a as =>
    rw [pieces_cons]
    split
    · exact ⟨_, _, rfl⟩
    · cases pieces sep as <;> exact ⟨_, _, rfl⟩

theorem pieces_append (sep : α → Bool) (as bs : List α) (s : α) (hs : sep s = true) :
    pieces sep (as ++ s :: bs) = pieces sep as ++ pieces sep bs := by
  induction as with
  | nil =>
    rw [List.nil_append, pieces_cons, if_pos hs]
    rfl
  | cons a as ih =>
    rw [List.cons_append, pieces_cons, pieces_cons, ih]
    split
    · rfl
    · obtain ⟨p, ps, hps⟩ := pieces_cases sep as
      rw [hps]
      rfl

theorem pieces_single (sep : α → Bool) (as : List α) (h : ∀ a ∈ as, sep a = false) :
    pieces sep as = [as] := by
  induction as with
  | nil => rfl
  | cons a as ih =>
    rw [pieces_cons, if_neg (by simp [h a]), ih fun b hb => h b (List.mem_cons_of_mem a hb)]
    rfl

/-- What holds no separator goes on with the last piece. -/
theorem pieces_more (sep : α → Bool) (as more : List α) (h : ∀ a ∈ more, sep a = false) :
    ∃ ps p, pieces sep as = ps ++ [p] ∧ pieces sep (as ++ more) = ps ++ [p ++ more] := by
  induction as with
  | nil => exact ⟨[], [], rfl, pieces_single sep more h⟩
  | cons a as ih =>
    obtain ⟨ps, p, has, hmore⟩ := ih
    rw [List.cons_append, pieces_cons, pieces_cons, has, hmore]
    split
    · exact ⟨[] :: ps, p, rfl, rfl⟩
    · cases ps with
      | nil => exact ⟨[], a :: p, rfl, rfl⟩
      | cons q ps => exact ⟨(a :: q) :: ps, p, rfl, rfl⟩

theorem dropEnd_split (p : α → Bool) (as : List α) :
    ∃ back, as = dropEnd p as ++ back ∧ ∀ a ∈ back, p a = true :=
  ⟨as.rtakeWhile p, (List.rdropWhile_append_rtakeWhile).symm,
    fun _ ha => List.mem_rtakeWhile_imp ha⟩

theorem dropEnd_last {as : List α} {a : α} (h : (dropEnd p as).getLast? = some a) :
    p a = false := by
  have hsome : as.rdropWhile p ≠ [] := by
    rintro hnone
    rw [show dropEnd p as = [] from hnone] at h
    cases h
  have hlast := List.getLast?_eq_some_getLast hsome
  obtain rfl := Option.some.inj (hlast.symm.trans h)
  simpa using List.rdropWhile_last_not p as hsome

theorem dropEnd_append (as : List α) {back : List α} (h : ∀ a ∈ back, p a = true) :
    dropEnd p (as ++ back) = dropEnd p as := by
  have hback : ∀ a ∈ back.reverse, p a = true := by simpa using h
  rw [dropEnd, List.reverse_append, List.dropWhile_append_of_pos hback, dropEnd]

theorem dropEnd_self {as : List α} (h : ∀ a, as.getLast? = some a → p a = false) :
    dropEnd p as = as := by
  refine List.rdropWhile_eq_self_iff.mpr fun hsome => ?_
  simp [h _ (List.getLast?_eq_some_getLast hsome)]

theorem strip_self {as : List α} (h : ∀ a ∈ as, p a = false) : strip p as = as := by
  have hfront : as.dropWhile p = as := by
    cases as with
    | nil => rfl
    | cons a as => rw [List.dropWhile_cons_of_neg (by simp [h a])]
  rw [strip, hfront]
  exact dropEnd_self fun a ha => h a (List.mem_of_getLast? ha)

theorem dropEnd_stop (as bs : List α) {a : α} (ha : p a = false) :
    dropEnd p (as ++ a :: bs) = as ++ a :: dropEnd p bs := by
  obtain ⟨back, hbs, hback⟩ := dropEnd_split p bs
  have hkept : dropEnd p (as ++ a :: dropEnd p bs) = as ++ a :: dropEnd p bs := by
    refine dropEnd_self fun b hb => ?_
    rw [List.getLast?_append, List.getLast?_cons, Option.some_or, Option.some.injEq] at hb
    cases hlast : (dropEnd p bs).getLast? with
    | none =>
      rw [hlast] at hb
      exact hb ▸ ha
    | some c =>
      rw [hlast] at hb
      exact hb ▸ dropEnd_last hlast
  calc
    dropEnd p (as ++ a :: bs) = dropEnd p (as ++ a :: dropEnd p bs ++ back) := by
      rw [List.append_assoc, List.cons_append, ← hbs]
    _ = as ++ a :: dropEnd p bs := by rw [dropEnd_append _ hback, hkept]

/-- What is left is the longest beginning that does not end in what is dropped. -/
theorem dropEnd_longest {front as : List α} (h : front <+: as)
    (hlast : ∀ a, front.getLast? = some a → p a = false) : front <+: dropEnd p as := by
  obtain ⟨back, rfl⟩ := h
  rcases List.eq_nil_or_concat' front with rfl | ⟨lead, a, rfl⟩
  · exact List.nil_prefix
  · have ha : p a = false := hlast a List.getLast?_concat
    rw [List.append_assoc, List.singleton_append, dropEnd_stop lead back ha]
    exact ⟨dropEnd p back, by simp⟩

theorem cut_front {sep : α → Bool} {front : List α} {s : α} (rest : List α)
    (hfront : ∀ a ∈ front, sep a = false) (hs : sep s = true) :
    cut sep (front ++ s :: rest) = (front, some rest) := by
  induction front with
  | nil => simp [cut, hs]
  | cons a front ih =>
    rw [List.cons_append, cut, if_neg (by simp [hfront a]),
      ih fun b hb => hfront b (List.mem_cons_of_mem a hb)]

theorem cut_none {sep : α → Bool} {as : List α} (h : ∀ a ∈ as, sep a = false) :
    cut sep as = (as, none) := by
  induction as with
  | nil => rfl
  | cons a as ih =>
    rw [cut, if_neg (by simp [h a]), ih fun b hb => h b (List.mem_cons_of_mem a hb)]

theorem cut_more {sep : α → Bool} {front : List α} (more : List α)
    (h : ∀ a ∈ front, sep a = false) :
    cut sep (front ++ more) = (front ++ (cut sep more).1, (cut sep more).2) := by
  induction front with
  | nil => rfl
  | cons a front ih =>
    rw [List.cons_append, cut, if_neg (by simp [h a]),
      ih fun b hb => h b (List.mem_cons_of_mem a hb)]
    rfl

theorem cut_some {sep : α → Bool} {as front rest : List α} (h : cut sep as = (front, some rest)) :
    ∃ s, as = front ++ s :: rest ∧ sep s = true ∧ ∀ a ∈ front, sep a = false := by
  induction as generalizing front with
  | nil => cases h
  | cons a as ih =>
    rw [cut] at h
    split at h
    · cases h
      exact ⟨a, rfl, ‹_›, by simp⟩
    · rename_i ha
      obtain ⟨rfl, hrest⟩ := Prod.mk.inj h
      obtain ⟨s, hs, hsep, hfront⟩ := ih (Prod.ext rfl hrest)
      exact ⟨s, by rw [List.cons_append, ← hs], hsep, fun b hb =>
        (List.mem_cons.mp hb).elim (fun hab => hab ▸ by simpa using ha) (hfront b)⟩

/-- A list satisfies `p` throughout, or up to a first element that does not. -/
theorem front_cases (p : α → Bool) (as : List α) :
    (∀ a ∈ as, p a = true) ∨
      ∃ front a rest, as = front ++ a :: rest ∧ (∀ b ∈ front, p b = true) ∧ p a = false := by
  cases hrest : as.dropWhile p with
  | nil => exact .inl (List.dropWhile_eq_nil_iff.mp hrest)
  | cons a rest =>
    refine .inr ⟨as.takeWhile p, a, rest, ?_, fun b hb => List.mem_takeWhile_imp hb, ?_⟩
    · rw [← hrest, List.takeWhile_append_dropWhile]
    · have hhead := List.head?_dropWhile_not p as
      rw [hrest] at hhead
      exact hhead

theorem span_all {as : List α} (h : ∀ a ∈ as, p a = true) : as.span p = (as, []) := by
  rw [List.span_eq_takeWhile_dropWhile, List.takeWhile_eq_self_iff.mpr h,
    List.dropWhile_eq_nil_iff.mpr h]

theorem span_front {front : List α} {a : α} (rest : List α)
    (hfront : ∀ b ∈ front, p b = true) (ha : p a = false) :
    (front ++ a :: rest).span p = (front, a :: rest) := by
  rw [List.span_eq_takeWhile_dropWhile, List.takeWhile_append_of_pos hfront,
    List.dropWhile_append_of_pos hfront]
  simp [ha]

theorem span_split (p : α → Bool) (as : List α) :
    ∃ front rest, as.span p = (front, rest) ∧ as = front ++ rest ∧
      (∀ a ∈ front, p a = true) ∧ ∀ a, rest.head? = some a → p a = false := by
  rcases front_cases p as with hall | ⟨front, a, rest, rfl, hfront, ha⟩
  · exact ⟨as, [], span_all hall, (List.append_nil as).symm, hall, nofun⟩
  · refine ⟨front, a :: rest, span_front rest hfront ha, rfl, hfront, fun b hb => ?_⟩
    rwa [← Option.some.inj hb]

theorem dropWhile_front {front : List α} {a : α} (rest : List α)
    (hfront : ∀ b ∈ front, p b = true) (ha : p a = false) :
    (front ++ a :: rest).dropWhile p = a :: rest := by
  rw [List.dropWhile_append_of_pos hfront, List.dropWhile_cons_of_neg (by simp [ha])]

theorem char_below (P : Char → Prop) {bound : Nat} (h : ∀ n < bound, P (Char.ofNat n)) (c : Char)
    (hc : c.toNat < bound) : P c := by
  have hn := h c.toNat hc
  rwa [Char.ofNat_toNat] at hn

end Text

end MapClient
