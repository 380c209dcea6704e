import MapClient.Proofs.Dependence

/-!
# Sources in any order

Two entries whose keys have different roots can be added in either order: each
finds what it looks at as it was, and only the order of the new keys tells which
came first. So a source can be shuffled as a whole, and what is loaded does not
show it.
-/

set_option autoImplicit false

namespace MapClient.Settings

open MapClient.Files

namespace Table

structure Shuffled (t t' : Table) : Prop where
  perm : t.Perm t'
  same : t.Same t'

variable {t t' t'' : Table}

theorem Shuffled.refl (t : Table) : t.Shuffled t := ⟨.refl t, fun _ => rfl⟩

theorem Shuffled.trans (h : t.Shuffled t') (h' : t'.Shuffled t'') : t.Shuffled t'' :=
  ⟨h.perm.trans h'.perm, fun k => (h.same k).trans (h'.same k)⟩

theorem insert_same (key : String) (n : Node) (h : t.Same t') :
    (t.insert key n).Same (t'.insert key n) := by
  intro k
  rw [get?_insert, get?_insert, h k]

theorem insert_new (t : Table) (key : String) (n : Node) (h : t.get? key = none) :
    t.insert key n = t ++ [(key, n)] := by
  induction t with
  | nil => rfl
  | cons e t ih =>
    rw [get?_cons] at h
    split_ifs at h with hkey
    rw [insert, if_neg (Ne.symm hkey), ih h, List.cons_append]

theorem insert_found (t : Table) (key : String) (n old : Node) (h : t.get? key = some old) :
    ∃ rest, t.Perm ((key, old) :: rest) ∧ (t.insert key n).Perm ((key, n) :: rest) := by
  induction t with
  | nil => cases h
  | cons e t ih =>
    rw [get?_cons] at h
    by_cases hkey : key = e.1
    · rw [if_pos hkey] at h
      obtain rfl := Option.some.inj h
      subst hkey
      refine ⟨t, .refl _, ?_⟩
      rw [insert, if_pos rfl]
    · rw [if_neg hkey] at h
      obtain ⟨rest, hold, hnew⟩ := ih h
      refine ⟨e :: rest, (hold.cons e).trans (.swap ..), ?_⟩
      rw [insert, if_neg (Ne.symm hkey)]
      exact (hnew.cons e).trans (.swap ..)

theorem insert_shuffled (key : String) (n : Node) (h : t.Shuffled t') :
    (t.insert key n).Shuffled (t'.insert key n) := by
  refine ⟨?_, insert_same key n h.same⟩
  cases hold : t.get? key with
  | none =>
    rw [insert_new t key n hold, insert_new t' key n ((h.same key).symm.trans hold)]
    exact h.perm.append_right _
  | some old =>
    obtain ⟨rest, hbefore, hafter⟩ := insert_found t key n old hold
    obtain ⟨rest', hbefore', hafter'⟩ :=
      insert_found t' key n old ((h.same key).symm.trans hold)
    have hrest : rest.Perm rest' :=
      ((hbefore.symm.trans h.perm).trans hbefore').cons_inv
    exact (hafter.trans (hrest.cons _)).trans hafter'.symm

/-- Two keys can be set in either order. -/
theorem insert_comm (t : Table) (key key' : String) (n n' : Node) (h : key ≠ key') :
    ((t.insert key n).insert key' n').Shuffled ((t.insert key' n').insert key n) := by
  constructor
  · induction t with
    | nil =>
      simp only [insert, if_neg h, if_neg h.symm]
      exact .swap ..
    | cons e t ih =>
      by_cases hkey : e.1 = key
      · simp [insert, hkey, h]
      · by_cases hkey' : e.1 = key'
        · simp [insert, hkey', Ne.symm h]
        · simp only [insert, if_neg hkey, if_neg hkey']
          exact ih.cons e
  · intro k
    simp only [get?_insert]
    by_cases hk : k = key
    · rw [if_pos hk, if_pos hk, if_neg fun hk' => h (hk.symm.trans hk')]
    · rw [if_neg hk, if_neg hk]

theorem rel_trans {a b c : Option Table} (h : Option.Rel Shuffled a b)
    (h' : Option.Rel Shuffled b c) : Option.Rel Shuffled a c := by
  cases h with
  | none => exact h'
  | some hab =>
    cases h' with
    | some hbc => exact .some (hab.trans hbc)

theorem rel_bind {a b : Option Table} {f g : Table → Option Table}
    (h : Option.Rel Shuffled a b)
    (hnext : ∀ t t', t.Shuffled t' → Option.Rel Shuffled (f t) (g t')) :
    Option.Rel Shuffled (a.bind f) (b.bind g) := by
  cases h with
  | none => exact .none
  | some hab => exact hnext _ _ hab

theorem rel_refl (a : Option Table) : Option.Rel Shuffled a a := by
  cases a with
  | none => exact .none
  | some t => exact .some (.refl t)

section
variable [Capacity]

theorem set_shuffled (e : String × Node) (h : t.Shuffled t') :
    Option.Rel Shuffled (t.set (.ofText e.1) e.2) (t'.set (.ofText e.1) e.2) := by
  rw [set_placed, set_placed, h.same]
  cases placed? e (t'.get? (Key.ofText e.1).root) with
  | none => exact .none
  | some n => exact .some (insert_shuffled _ n h)

theorem merge_shuffled (source : List (String × Node)) (h : t.Shuffled t') :
    Option.Rel Shuffled (t.merge source) (t'.merge source) := by
  induction source generalizing t t' with
  | nil => exact .some h
  | cons e source ih =>
    rw [merge_step, merge_step]
    exact rel_bind (set_shuffled e h) fun _ _ hbetween => ih hbetween

/-- Two entries can be added in either order, as neither changes what stands under
the root of the other. -/
theorem set_comm (e f : String × Node) (t : Table)
    (h : (Key.ofText e.1).root ≠ (Key.ofText f.1).root) :
    Option.Rel Shuffled ((t.set (.ofText e.1) e.2).bind (·.set (.ofText f.1) f.2))
      ((t.set (.ofText f.1) f.2).bind (·.set (.ofText e.1) e.2)) := by
  simp only [set_placed]
  cases he : placed? e (t.get? (Key.ofText e.1).root) with
  | none =>
    cases placed? f (t.get? (Key.ofText f.1).root) with
    | none => exact .none
    | some m =>
      simp only [Option.map_some, Option.bind_some, get?_insert, if_neg h, he]
      exact .none
  | some n =>
    cases hf : placed? f (t.get? (Key.ofText f.1).root) with
    | none =>
      simp only [Option.map_some, Option.bind_some, get?_insert, if_neg h.symm, hf]
      exact .none
    | some m =>
      simp only [Option.map_some, Option.bind_some, get?_insert, if_neg h, if_neg h.symm, he, hf]
      exact .some (insert_comm t _ _ n m h)

/-- A source whose roots are apart comes to the same in every order. -/
theorem merge_perm (source source' : List (String × Node)) (hperm : source.Perm source')
    (hroots : RootsApart source) (t : Table) :
    Option.Rel Shuffled (t.merge source) (t.merge source') := by
  induction hperm generalizing t with
  | nil => exact .some (.refl t)
  | @cons e source source' _ ih =>
    have hrest := ih (List.nodup_cons.mp hroots).2
    rw [merge_step, merge_step]
    exact rel_bind (rel_refl _) fun between _ hbetween =>
      rel_trans (hrest between) (merge_shuffled source' hbetween)
  | swap e f source =>
    have hapart : (Key.ofText f.1).root ≠ (Key.ofText e.1).root := by
      intro heq
      exact (List.nodup_cons.mp hroots).1 (List.mem_cons.mpr (.inl heq))
    have hboth : ∀ e f : String × Node, t.merge (e :: f :: source) =
        ((t.set (.ofText e.1) e.2).bind (·.set (.ofText f.1) f.2)).bind (·.merge source) := by
      intro e f
      rw [merge_step, Option.bind_assoc]
      exact congrArg _ (funext fun between => merge_step f source between)
    rw [hboth, hboth]
    exact rel_bind (set_comm f e t hapart) fun _ _ hbetween => merge_shuffled source hbetween
  | trans hfirst _ ih ih' =>
    exact rel_trans (ih hroots t) (ih' ((hfirst.map _).nodup_iff.mp hroots) t)

theorem merge_perm_some (source source' : List (String × Node)) (hperm : source.Perm source')
    (hroots : RootsApart source) (t : Table)
    (hplaced : ∀ e ∈ source, ∀ step ∈ (Key.ofText e.1).steps, step.Placed) :
    ∃ m m', t.merge source = some m ∧ t.merge source' = some m' ∧ m.Shuffled m' := by
  have hplaced' : ∀ e ∈ source', ∀ step ∈ (Key.ofText e.1).steps, step.Placed :=
    fun e he => hplaced e (hperm.mem_iff.mpr he)
  have hmerge := merge_perm source source' hperm hroots t
  obtain ⟨m, hm⟩ := merge_some source t hplaced
  obtain ⟨m', hm'⟩ := merge_some source' t hplaced'
  rw [hm, hm'] at hmerge
  cases hmerge with
  | some hshuffled => exact ⟨m, m', hm, hm', hshuffled⟩

end

end Table

def loadInOrder [Capacity] (fileOrder addedOrder : List (String × Node) → List (String × Node))
    (read : Path → Content) (env : Environment) (path : Path) (given : Option String) :
    Except Fault Settings := do
  let file ← fileSettings read path
  let table ← orFault .noPlace (defaults.merge (fileOrder file))
  let added ← orFault .brokenVariable env.settings?
  let table ← orFault .noPlace (table.merge (addedOrder added))
  checkedTable (given.elim table table.withBase)

section
variable [Capacity] (read : Path → Content) (env : Environment) (path : Path)
  (given : Option String) (fileOrder addedOrder : List (String × Node) → List (String × Node))

theorem loadInOrder_id : loadInOrder id id read env path given = load read env path given := by
  rw [loadInOrder, load]
  cases fileSettings read path with
  | error fault => rfl
  | ok file =>
    change _ = gather file env given >>= checkedTable
    rw [gather]
    show (orFault .noPlace (defaults.merge file) >>= _) = _
    cases defaults.merge file with
    | none => rfl
    | some table =>
      cases env.settings? with
      | none => rfl
      | some added =>
        show (orFault .noPlace (table.merge added) >>= _) =
          (orFault .noPlace (table.merge added) >>= _) >>= _
        cases table.merge added <;> rfl

theorem loadInOrder_file (file : List (String × Node)) (hfile : fileSettings read path = .ok file) :
    loadInOrder fileOrder addedOrder read env path given =
      match defaults.merge (fileOrder file) with
      | none => .error .noPlace
      | some table =>
        match env.settings? with
        | none => .error .brokenVariable
        | some added =>
          match table.merge (addedOrder added) with
          | none => .error .noPlace
          | some table => checkedTable (given.elim table table.withBase) := by
  rw [loadInOrder, hfile]
  show (orFault .noPlace (defaults.merge (fileOrder file)) >>= _) = _
  cases defaults.merge (fileOrder file) with
  | none => rfl
  | some table =>
    cases env.settings? with
    | none => rfl
    | some added =>
      show (orFault .noPlace (table.merge (addedOrder added)) >>= _) = _
      dsimp only
      cases table.merge (addedOrder added) <;> rfl

/-- What is loaded does not depend on the orders of sources whose roots are apart. -/
theorem loadInOrder_perm (horder : ∀ source, (fileOrder source).Perm source)
    (horder' : ∀ source, (addedOrder source).Perm source)
    (hfiles : ∀ file, fileSettings read path = .ok file → RootsApart file)
    (hadds : ∀ added, env.settings? = some added → RootsApart added) :
    loadInOrder fileOrder addedOrder read env path given =
      loadInOrder id id read env path given := by
  cases hfile : fileSettings read path with
  | error fault =>
    rw [loadInOrder, loadInOrder, hfile]
    rfl
  | ok file =>
    rw [loadInOrder_file read env path given _ _ file hfile,
      loadInOrder_file read env path given _ _ file hfile]
    have hfirst := Table.merge_perm file (fileOrder file) (horder file).symm
      (hfiles file hfile) defaults
    rw [id_def]
    generalize defaults.merge file = first at hfirst ⊢
    generalize defaults.merge (fileOrder file) = first' at hfirst ⊢
    cases hfirst with
    | none => rfl
    | @some table table' htable =>
      cases hadded : env.settings? with
      | none => rfl
      | some added =>
        have hsecond := Table.rel_trans
          (Table.merge_perm added (addedOrder added) (horder' added).symm
            (hadds added hadded) table)
          (Table.merge_shuffled (addedOrder added) htable)
        dsimp only [id_def]
        generalize table.merge added = second at hsecond ⊢
        generalize table'.merge (addedOrder added) = second' at hsecond ⊢
        cases hsecond with
        | none => rfl
        | @some m m' hm => exact (checkedTable_same m m' given hm.same).symm

end

/-- Where no two keys of a source have one root, its entries can be added in any
order: the same table comes of it but for the order of its keys, and none at all
only if an index has no place. What is loaded, or why nothing is, does not depend
on the orders in which the file and the environment are gone through. -/
theorem order_unseen [Capacity] :
    (∀ (source source' : List (String × Node)) (t : Table), RootsApart source →
      source.Perm source' →
      Option.Rel Table.Shuffled (t.merge source) (t.merge source') ∧
      ((∀ e ∈ source, ∀ step ∈ (Key.ofText e.1).steps, step.Placed) →
        ∃ m m', t.merge source = some m ∧ t.merge source' = some m' ∧ m.Shuffled m')) ∧
    ∀ (read : Path → Content) (env : Environment) (path : Path) (given : Option String)
      (fileOrder addedOrder : List (String × Node) → List (String × Node)),
      (∀ source, (fileOrder source).Perm source) →
      (∀ source, (addedOrder source).Perm source) →
      (∀ file, fileSettings read path = .ok file → RootsApart file) →
      (∀ added, env.settings? = some added → RootsApart added) →
      loadInOrder fileOrder addedOrder read env path given = load read env path given := by
  constructor
  · intro source source' t hroots hperm
    exact ⟨Table.merge_perm source source' hperm hroots t,
      Table.merge_perm_some source source' hperm hroots t⟩
  · intro read env path given fileOrder addedOrder horder horder' hfiles hadds
    rw [← loadInOrder_id]
    exact loadInOrder_perm read env path given fileOrder addedOrder horder horder' hfiles hadds

def nestedSource : List (String × Node) :=
  [("a.b", .text "1"), ("c[1].d", .text "2"), (baseUrlKey, .table [("e", .nothing)])]

section
attribute [local instance] Capacity.usual

/-- The table tells by its order in which direction the source was gone through, and
by nothing else. -/
theorem nested_reversed :
    (∃ m m', defaults.merge nestedSource = some m ∧
      defaults.merge nestedSource.reverse = some m' ∧ m.Shuffled m' ∧
      m.map Prod.fst = [baseUrlKey, "a", "c"] ∧ m'.map Prod.fst = [baseUrlKey, "c", "a"]) ∧
    loadInOrder List.reverse List.reverse (oneFile layeredFile)
        (environmentOf orderedVariables) (.ofText "c.toml") none =
      .ok ⟨"http://[::1]:8080", some "7"⟩ := by
  have hroots : RootsApart nestedSource := by
    rw [RootsApart]
    decide
  have hsettings : (environmentOf orderedVariables).settings? =
      some [(baseUrlKey, .text "http://[::1]:8080"), ("x[1]", .text "1")] := by
    cbv
  have hvalid : isBaseUrl "http://[::1]:8080" = true := by decide +kernel
  have hload : load (oneFile layeredFile) (environmentOf orderedVariables) (.ofText "c.toml")
      none = .ok ⟨"http://[::1]:8080", some "7"⟩ :=
    load_merged_ok _ _ _ _ _ none _ _ layered_settings hsettings rfl rfl hvalid
  constructor
  · obtain ⟨m, m', hm, hm', hshuffled⟩ :=
      (order_unseen.1 nestedSource nestedSource.reverse defaults hroots
        (List.reverse_perm _).symm).2 (by decide)
    refine ⟨m, m', hm, hm', hshuffled, ?_, ?_⟩
    · have hkeys : (defaults.merge nestedSource).map (·.map Prod.fst) =
          some [baseUrlKey, "a", "c"] := by decide +kernel
      rw [hm] at hkeys
      exact Option.some.inj hkeys
    · have hkeys : (defaults.merge nestedSource.reverse).map (·.map Prod.fst) =
          some [baseUrlKey, "c", "a"] := by decide +kernel
      rw [hm'] at hkeys
      exact Option.some.inj hkeys
  · rw [← hload]
    refine order_unseen.2 (oneFile layeredFile) (environmentOf orderedVariables)
      (.ofText "c.toml") none List.reverse List.reverse List.reverse_perm List.reverse_perm ?_ ?_
    · intro file hfile
      rw [layered_settings] at hfile
      obtain rfl := Except.ok.inj hfile
      rw [RootsApart]
      decide
    · intro added hadded
      rw [hsettings] at hadded
      obtain rfl := Option.some.inj hadded
      rw [RootsApart]
      decide

end

def farVariables : List (String × String) :=
  [("HOME", "/h"), ("CHUNKFORM_X[9223372036854775807]", "1")]

theorem far_settings :
    (environmentOf farVariables).settings? = some [("x[9223372036854775807]", .text "1")] := by
  cbv

theorem far_key : Key.ofText "x[9223372036854775807]" = ⟨"x", [.element farIndex]⟩ := by cbv

theorem merge_far [Capacity] (t : Table) (value : Node) :
    t.merge [("x[9223372036854775807]", value)] = none := by
  rw [Table.merge_step, far_key, Table.set_far]
  rfl

theorem load_far [Capacity] :
    load (fun _ => .absent) (environmentOf farVariables) (.ofText "c.toml") none =
      .error .noPlace := by
  have hfile : fileSettings (fun _ => .absent) (.ofText "c.toml") = .ok [] := by
    rw [fileSettings_selected]
    rfl
  have hmerge : mergeBoth [] [("x[9223372036854775807]", .text "1")] = none :=
    merge_far defaults (.text "1")
  rw [load_merged _ _ _ _ _ _ hfile far_settings, hmerge]

/-- The index of the only entry is not negative, and no table comes of it in any
order: the load ends neither with settings nor with a fault that is reported. -/
theorem far_entry_lost :
    RootsApart [("x[9223372036854775807]", .text "1")] ∧
    (Key.ofText "x[9223372036854775807]").steps = [.element farIndex] ∧ 0 ≤ farIndex ∧
    (∀ [Capacity] (t : Table), t.merge [("x[9223372036854775807]", .text "1")] = none) ∧
    Fault.noPlace.breaksOff = true ∧
    ∀ [Capacity],
      load (fun _ => .absent) (environmentOf farVariables) (.ofText "c.toml") none =
        .error .noPlace := by
  refine ⟨List.nodup_singleton _, by rw [far_key], by decide, ?_, rfl, ?_⟩
  · intro _ t
    exact merge_far t _
  · intro _
    exact load_far

end MapClient.Settings
