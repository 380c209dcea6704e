import MapClient.Proofs.Merging

/-!
# The order of a source

An entry only looks at what stands under the root of its key. Where no two keys
of a source have one root, each entry finds there what stood there before the
source, so it does not matter in which order they are added.
-/

set_option autoImplicit false

namespace MapClient.Settings

def placed? [Capacity] (e : String × Node) (old : Option Node) : Option Node :=
  match (Key.ofText e.1).steps with
  | [] => some (e.2.over old)
  | step :: steps => Node.place e.2 (step :: steps) (old.getD .nothing)

def RootsApart (source : List (String × Node)) : Prop :=
  (source.map fun e => (Key.ofText e.1).root).Nodup

namespace Table

def Same (t t' : Table) : Prop := ∀ k, t.get? k = t'.get? k

section
variable [Capacity]

theorem set_placed (e : String × Node) (t : Table) :
    t.set (.ofText e.1) e.2 =
      (placed? e (t.get? (Key.ofText e.1).root)).map fun n => t.insert (Key.ofText e.1).root n := by
  rw [set, placed?]
  cases (Key.ofText e.1).steps with
  | nil =>
    rw [assign_over]
    rfl
  | cons step steps => rfl

/-- What stands under the roots of a source that was added, if they are apart. -/
theorem get?_merge_root (source : List (String × Node)) (t t' : Table) (h : RootsApart source)
    (hmerge : t.merge source = some t') :
    ∀ e ∈ source, placed? e (t.get? (Key.ofText e.1).root) = t'.get? (Key.ofText e.1).root ∧
      t'.get? (Key.ofText e.1).root ≠ none := by
  induction source generalizing t with
  | nil => exact List.forall_mem_nil _
  | cons e source ih =>
    obtain ⟨hnew, hrest⟩ := List.nodup_cons.mp h
    obtain ⟨between, hset, hlater⟩ := merge_cons e source t t' hmerge
    have hother : ∀ f ∈ source, (Key.ofText e.1).root ≠ (Key.ofText f.1).root := by
      intro f hf hroot
      exact hnew (List.mem_map.mpr ⟨f, hf, hroot.symm⟩)
    intro f hf
    rcases List.mem_cons.mp hf with rfl | hf
    · rw [get?_merge_elsewhere _ source between t' hlater hother]
      rw [set_placed, Option.map_eq_some_iff] at hset
      obtain ⟨n, hn, rfl⟩ := hset
      rw [get?_insert, if_pos rfl, hn]
      exact ⟨rfl, Option.some_ne_none _⟩
    · rw [← get?_set t _ e.2 _ between hset (hother f hf).symm]
      exact ih between hrest hlater f hf

/-- A source whose roots are apart cannot be added just if one of its entries
cannot. -/
theorem merge_none (source : List (String × Node)) (t : Table) (h : RootsApart source) :
    t.merge source = none ↔ ∃ e ∈ source, placed? e (t.get? (Key.ofText e.1).root) = none := by
  induction source generalizing t with
  | nil =>
    constructor
    · rintro ⟨⟩
    · rintro ⟨_, he, -⟩
      cases he
  | cons e source ih =>
    obtain ⟨hnew, hrest⟩ := List.nodup_cons.mp h
    rw [merge_step]
    cases hset : t.set (.ofText e.1) e.2 with
    | none =>
      rw [set_placed, Option.map_eq_none_iff] at hset
      exact ⟨fun _ => ⟨e, List.mem_cons_self, hset⟩, fun _ => rfl⟩
    | some between =>
      have hsome : placed? e (t.get? (Key.ofText e.1).root) ≠ none := by
        intro hnone
        rw [set_placed, hnone] at hset
        cases hset
      have hkept : ∀ f ∈ source,
          between.get? (Key.ofText f.1).root = t.get? (Key.ofText f.1).root := by
        intro f hf
        refine get?_set t _ e.2 _ between hset fun hroot => ?_
        exact hnew (List.mem_map.mpr ⟨f, hf, hroot⟩)
      rw [Option.bind_some, ih between hrest]
      constructor
      · rintro ⟨f, hf, hnone⟩
        exact ⟨f, List.mem_cons_of_mem e hf, hkept f hf ▸ hnone⟩
      · rintro ⟨f, hf, hnone⟩
        rcases List.mem_cons.mp hf with rfl | hf
        · exact absurd hnone hsome
        · exact ⟨f, hf, (hkept f hf).symm ▸ hnone⟩

/-- Sources with the same entries, each with its roots apart, come to the same. -/
theorem merge_same (source source' : List (String × Node)) (t t' : Table) (ht : t.Same t')
    (h : RootsApart source) (h' : RootsApart source') (hsame : ∀ e, e ∈ source ↔ e ∈ source') :
    Option.Rel Same (t.merge source) (t'.merge source') := by
  have hnone : t.merge source = none ↔ t'.merge source' = none := by
    rw [merge_none source t h, merge_none source' t' h']
    simp only [hsame, ht _]
  cases hmerge : t.merge source with
  | none =>
    rw [hnone.mp hmerge]
    exact .none
  | some m =>
    cases hmerge' : t'.merge source' with
    | none =>
      rw [hnone.mpr hmerge'] at hmerge
      cases hmerge
    | some m' =>
      refine .some fun k => ?_
      by_cases hk : ∃ e ∈ source, k = (Key.ofText e.1).root
      · obtain ⟨e, he, rfl⟩ := hk
        have hleft := (get?_merge_root source t m h hmerge e he).1
        have hright := (get?_merge_root source' t' m' h' hmerge' e ((hsame e).mp he)).1
        rw [← hleft, ← hright, ht]
      · have hroots : ∀ e ∈ source, k ≠ (Key.ofText e.1).root := fun e he hroot =>
          hk ⟨e, he, hroot⟩
        rw [get?_merge_elsewhere k source t m hmerge hroots,
          get?_merge_elsewhere k source' t' m' hmerge' fun e he => hroots e ((hsame e).mpr he), ht]

end

end Table

end MapClient.Settings
