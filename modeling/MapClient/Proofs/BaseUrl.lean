import MapClient.Proofs.BreakingOff
import MapClient.Proofs.Shuffling

/-!
# The base URL is never missing

The table begins with a base URL, and no entry takes it away: an entry puts its
value there, or goes through an array or a table there. So whatever is merged, in
whatever order, loading does not fail for want of a base URL.
-/

set_option autoImplicit false

namespace MapClient.Settings

open MapClient.Files

theorem Node.over_ne (value : Node) (old : Option Node) (hvalue : value ≠ .nothing)
    (hold : old ≠ some .nothing) : value.over old ≠ .nothing := by
  cases value with
  | nothing => exact absurd rfl hvalue
  | text s => simp [Node.over]
  | array origin items => simp [Node.over]
  | table es =>
    cases es with
    | cons e es => simp [Node.over]
    | nil =>
      cases old with
      | none => simp [Node.over]
      | some n => simpa [Node.over] using hold

/-- A path that goes anywhere leaves an array or a table where it begins. -/
theorem Node.place_ne [Capacity] (value : Node) (step : Step) (steps : List Step) (n m : Node)
    (h : place value (step :: steps) n = some m) : m ≠ .nothing := by
  cases step with
  | element index =>
    rw [place] at h
    obtain ⟨i, -, h⟩ := Option.bind_eq_some_iff.mp h
    obtain ⟨items, -, rfl⟩ := Option.map_eq_some_iff.mp h
    exact Node.noConfusion
  | child name =>
    cases steps with
    | nil =>
      rw [place] at h
      obtain rfl := Option.some.inj h
      exact Node.noConfusion
    | cons next steps =>
      rw [place] at h
      · obtain ⟨inner, -, rfl⟩ := Option.map_eq_some_iff.mp h
        exact Node.noConfusion
      · simp

theorem placed?_ne [Capacity] (e : String × Node) (old : Option Node) (n : Node)
    (hvalue : e.2 ≠ .nothing)
    (hold : old ≠ some .nothing) (h : placed? e old = some n) : n ≠ .nothing := by
  rw [placed?] at h
  cases hsteps : (Key.ofText e.1).steps with
  | nil =>
    rw [hsteps] at h
    obtain rfl := Option.some.inj h
    exact e.2.over_ne old hvalue hold
  | cons step steps =>
    rw [hsteps] at h
    exact Node.place_ne e.2 step steps _ n h

namespace Table

def HasBase (t : Table) : Prop := ∃ n, t.get? baseUrlKey = some n ∧ n ≠ .nothing

theorem hasBase_defaults : HasBase defaults := ⟨_, rfl, Node.noConfusion⟩

theorem hasBase_set [Capacity] (e : String × Node) (t t' : Table) (ht : t.HasBase)
    (hvalue : e.2 ≠ .nothing)
    (h : t.set (.ofText e.1) e.2 = some t') : t'.HasBase := by
  obtain ⟨old, hold, hne⟩ := ht
  rw [set_placed] at h
  obtain ⟨n, hn, rfl⟩ := Option.map_eq_some_iff.mp h
  by_cases hroot : baseUrlKey = (Key.ofText e.1).root
  · rw [← hroot, hold] at hn
    refine ⟨n, by rw [get?_insert, if_pos hroot], placed?_ne e _ n hvalue ?_ hn⟩
    simpa using hne
  · exact ⟨old, by rw [get?_insert, if_neg hroot, hold], hne⟩

theorem hasBase_merge [Capacity] (source : List (String × Node)) (t t' : Table) (ht : t.HasBase)
    (hvalues : ∀ e ∈ source, e.2 ≠ .nothing) (h : t.merge source = some t') : t'.HasBase := by
  induction source generalizing t with
  | nil =>
    obtain rfl : t = t' := Option.some.inj h
    exact ht
  | cons e source ih =>
    obtain ⟨between, hset, hrest⟩ := merge_cons e source t t' h
    have hbetween := hasBase_set e t between ht (hvalues e List.mem_cons_self) hset
    exact ih between hbetween (fun f hf => hvalues f (List.mem_cons_of_mem e hf)) hrest

/-- A source leaves a base URL where there is one, or cannot be added. -/
theorem merge_cases [Capacity] (source : List (String × Node)) (t : Table) (ht : t.HasBase)
    (hvalues : ∀ e ∈ source, e.2 ≠ .nothing) :
    (t.merge source = none ∧ ∃ text ∈ source.map Prod.fst, Misplaced text) ∨
      ∃ t', t.merge source = some t' ∧ HasBase t' := by
  cases hmerge : t.merge source with
  | none => exact .inl ⟨rfl, merge_misplaced source t hmerge⟩
  | some t' => exact .inr ⟨t', rfl, hasBase_merge source t t' ht hvalues hmerge⟩

theorem hasBase_given (t : Table) (given : Option String) (ht : t.HasBase) :
    HasBase (given.elim t t.withBase) := by
  cases given with
  | none => exact ht
  | some u => exact ⟨.text u, withBase_base t u, Node.noConfusion⟩

theorem HasBase.textAt_ne {t : Table} (ht : t.HasBase) : textAt t baseUrlKey ≠ .ok none := by
  obtain ⟨n, hn, hne⟩ := ht
  rw [textAt, hn]
  cases n with
  | nothing => exact absurd rfl hne
  | text s => simp
  | array origin items => simp
  | table es => simp

end Table

def Node.adding [Capacity] (root : Node) (e : String × Node) : Option Node :=
  Node.place e.2 (.child (Key.ofText e.1).root :: (Key.ofText e.1).steps) root

theorem Node.adding_table [Capacity] (t : Table) (e : String × Node) :
    Node.adding (.table t) e = (t.set (.ofText e.1) e.2).map .table := by
  rw [adding, Table.set]
  cases (Key.ofText e.1).steps with
  | nil =>
    rw [place]
    rfl
  | cons step steps =>
    rw [place, Option.map_map]
    · rfl
    · simp

theorem foldlM_adding [Capacity] (source : List (String × Node)) (t : Table) :
    source.foldlM Node.adding (.table t) = (t.merge source).map .table := by
  induction source generalizing t with
  | nil => rfl
  | cons e source ih =>
    rw [List.foldlM_cons, Node.adding_table, Table.merge_step]
    cases t.set (.ofText e.1) e.2 with
    | none => rfl
    | some between => exact ih between

theorem ofValue_ne (origin : String) (v : Toml.Value) : Node.ofValue origin v ≠ .nothing := by
  rcases ofValue_cases origin v with ⟨s, hs⟩ | hcontainer
  · rw [hs]
    exact Node.noConfusion
  · intro hnothing
    rw [hnothing] at hcontainer
    cases hcontainer

theorem ofEntries_ne (origin : String) (entries : Toml.Entries) :
    ∀ e ∈ Node.ofEntries origin entries, e.2 ≠ .nothing := by
  induction entries with
  | nil =>
    rw [Node.ofEntries]
    exact List.forall_mem_nil _
  | cons entry entries ih =>
    obtain ⟨k, v⟩ := entry
    rw [Node.ofEntries]
    exact List.forall_mem_cons.mpr ⟨ofValue_ne origin v, ih⟩

theorem fileSettings_ne (read : Path → Content) (path : Path) (file : List (String × Node))
    (h : fileSettings read path = .ok file) : ∀ e ∈ file, e.2 ≠ .nothing := by
  rw [fileSettings_selected] at h
  split at h
  · obtain rfl := Except.ok.inj h
    exact List.forall_mem_nil _
  · split at h
    · obtain rfl := Except.ok.inj h
      exact ofEntries_ne _ _
    · cases h

theorem settings_ne (vars : List (String × String)) :
    ∀ e ∈ vars.filterMap Environment.setting?, e.2 ≠ .nothing := by
  intro e he
  obtain ⟨value, hvalue, -⟩ := (mem_settings vars e).mp he
  rw [hvalue]
  exact Node.noConfusion

def sourceEntries (read : Path → Content) (path : Path) (vars : List (String × String)) :
    List (String × Node) :=
  (fileSettings read path).toOption.getD [] ++ vars.filterMap Environment.setting?

theorem sourceEntries_file (read : Path → Content) (path : Path) (vars : List (String × String))
    (file : List (String × Node)) (h : fileSettings read path = .ok file) :
    sourceEntries read path vars = file ++ vars.filterMap Environment.setting? := by
  rw [sourceEntries, h]
  rfl

theorem sourceEntries_ne (read : Path → Content) (path : Path) (vars : List (String × String)) :
    ∀ e ∈ sourceEntries read path vars, e.2 ≠ .nothing := by
  intro e he
  rcases List.mem_append.mp he with he | he
  · cases hfile : fileSettings read path with
    | error fault =>
      rw [hfile] at he
      cases he
    | ok file =>
      rw [hfile] at he
      exact fileSettings_ne read path file hfile e he
  · exact settings_ne vars e he

/-- The faults in which a load of entries with some keys can end: the file is broken,
one of the two values that are read has the wrong shape, or the base URL is refused.
Otherwise it breaks off, and then one of the keys is misplaced. -/
def Fault.Possible [Capacity] (keys : List String) : Fault → Prop
  | .brokenFile _ => True
  | .wrongShape _ key _ => key = baseUrlKey ∨ key = logDirectoryKey
  | .invalidBaseUrl text => isBaseUrl text = false
  | .noPlace => ∃ text ∈ keys, Misplaced text
  | .missing _ => False
  | .brokenVariable => False

theorem checkedTable_possible [Capacity] (keys : List String) (t : Table) (fault : Fault)
    (ht : t.HasBase)
    (h : checkedTable t = .error fault) : fault.Possible keys := by
  rcases checkedTable_fault t fault h with hread | ⟨s, rfl, hs⟩
  · rcases ofTable_fault t fault hread with ⟨-, hnone⟩ | ⟨shape, key, origin, rfl, hkey⟩
    · exact absurd hnone ht.textAt_ne
    · exact hkey
  · exact hs

section
variable [Capacity] (read : Path → Content) (env : Environment) (path : Path)
  (given : Option String) (vars : List (String × String)) (henv : env.texts? = some vars)
  (fileOrder addedOrder : List (String × Node) → List (String × Node))
  (horder : ∀ source, (fileOrder source).Perm source)
  (horder' : ∀ source, (addedOrder source).Perm source)
include henv horder horder'

theorem loadInOrder_possible (fault : Fault)
    (h : loadInOrder fileOrder addedOrder read env path given = .error fault) :
    fault.Possible ((sourceEntries read path vars).map Prod.fst) := by
  cases hfile : fileSettings read path with
  | error f =>
    rw [loadInOrder, hfile] at h
    obtain rfl := Except.error.inj h
    obtain ⟨p, rfl⟩ := fileSettings_fault read path _ hfile
    trivial
  | ok file =>
    have hadded := settings?_texts env vars henv
    have hsaid := sourceEntries_file read path vars file hfile
    have hfirst : fileOrder file ⊆ sourceEntries read path vars := by
      rw [hsaid]
      exact List.subset_append_of_subset_left _ (horder file).subset
    have hsecond : addedOrder (vars.filterMap Environment.setting?) ⊆
        sourceEntries read path vars := by
      rw [hsaid]
      exact List.subset_append_of_subset_right _ (horder' _).subset
    have hvalues := sourceEntries_ne read path vars
    rw [loadInOrder_file read env path given fileOrder addedOrder file hfile, hadded] at h
    rcases Table.merge_cases (fileOrder file) defaults Table.hasBase_defaults
      (fun e he => hvalues e (hfirst he)) with
      ⟨hmerge, text, htext, hmis⟩ | ⟨table, hmerge, htable⟩
    · rw [hmerge] at h
      obtain rfl := Except.error.inj h
      exact ⟨text, List.map_subset Prod.fst hfirst htext, hmis⟩
    · rw [hmerge] at h
      dsimp only at h
      rcases Table.merge_cases _ table htable (fun e he => hvalues e (hsecond he)) with
        ⟨hmerge', text, htext, hmis⟩ | ⟨t, hmerge', ht⟩
      · rw [hmerge'] at h
        obtain rfl := Except.error.inj h
        exact ⟨text, List.map_subset Prod.fst hsecond htext, hmis⟩
      · rw [hmerge'] at h
        exact checkedTable_possible _ _ fault (t.hasBase_given given ht) h

/-- Whatever entries of the file and of the environment are added to the defaults, in
whatever order, the root remains a table and something stands in it under the base
URL, unless one of the keys has an index without a place. So loading fails only
because the file is broken, a value has the wrong shape or the base URL is refused,
in whatever orders the entries of both are gone through; or it breaks off, and then
there is such a key. -/
theorem base_never_missing :
    (∀ entries, entries ⊆ sourceEntries read path vars →
      (entries.foldlM Node.adding (.table defaults) = none ∧
        ∃ text ∈ entries.map Prod.fst, Misplaced text) ∨
      ∃ t : Table, entries.foldlM Node.adding (.table defaults) = some (.table t) ∧
        defaults.merge entries = some t ∧ t.HasBase ∧
        Table.HasBase (given.elim t t.withBase)) ∧
    (∀ fault, load read env path given = .error fault →
      fault.Possible ((sourceEntries read path vars).map Prod.fst)) ∧
    ∀ fault, loadInOrder fileOrder addedOrder read env path given = .error fault →
      fault.Possible ((sourceEntries read path vars).map Prod.fst) := by
  refine ⟨?_, ?_, loadInOrder_possible read env path given vars henv fileOrder addedOrder horder
    horder'⟩
  · intro entries hentries
    rw [foldlM_adding]
    rcases Table.merge_cases entries defaults Table.hasBase_defaults
      (fun e he => sourceEntries_ne read path vars e (hentries he)) with
      ⟨hmerge, hmis⟩ | ⟨t, hmerge, ht⟩
    · rw [hmerge]
      exact .inl ⟨rfl, hmis⟩
    · rw [hmerge]
      exact .inr ⟨t, rfl, rfl, ht, t.hasBase_given given ht⟩
  · rw [← loadInOrder_id]
    exact loadInOrder_possible read env path given vars henv id id .refl .refl

end

def tangledVariables : List (String × String) :=
  [("HOME", "/h"), ("CHUNKFORM_BASE_URL[2].X", "1"), ("CHUNKFORM_", "2"),
    ("chunkform_base_url.y", "3"), ("CHUNKFORM_a[", "4")]

theorem tangled_settings :
    tangledVariables.filterMap Environment.setting? =
      [("base_url[2].x", .text "1"), ("", .text "2"), ("base_url.y", .text "3"),
        ("a[", .text "4")] := by
  cbv

theorem tangled_entries :
    sourceEntries (oneFile layeredFile) (.ofText "c.toml") tangledVariables =
      [(baseUrlKey, .array (some "c.toml") []), (logDirectoryKey, .text "7"),
        ("base_url[2].x", .text "1"), ("", .text "2"), ("base_url.y", .text "3"),
        ("a[", .text "4")] := by
  rw [sourceEntries_file _ _ _ _ layered_settings, tangled_settings]
  rfl

section
attribute [local instance] Capacity.usual

theorem tangled_merged :
    defaults.merge (Node.ofEntries "c.toml"
      [(baseUrlKey, .array []), (logDirectoryKey, .integer 7)]) =
        some [(baseUrlKey, .array (some "c.toml") []), (logDirectoryKey, .text "7")] ∧
    Table.merge [("a[", .text "4"), ("base_url.y", .text "3"), ("", .text "2"),
      ("base_url[2].x", .text "1")]
        [(baseUrlKey, .array (some "c.toml") []), (logDirectoryKey, .text "7")] =
      some [(baseUrlKey, .array none [.nothing, .nothing, .table [("x", .text "1")]]),
        (logDirectoryKey, .text "7"), ("a[", .text "4"), ("", .text "2")] := by
  constructor <;> cbv

/-- An array that is empty, a table and an array that is filled up with nothing take
turns under the base URL, which is there all the time and is refused in the end. -/
theorem tangled_base :
    (∃ t : Table, defaults.merge (sourceEntries (oneFile layeredFile) (.ofText "c.toml")
      tangledVariables).reverse = some t ∧ t.HasBase) ∧
    loadInOrder id List.reverse (oneFile layeredFile) (environmentOf tangledVariables)
      (.ofText "c.toml") none = .error (.wrongShape .array baseUrlKey none) ∧
    (Fault.wrongShape .array baseUrlKey none).Possible
      [baseUrlKey, logDirectoryKey, "base_url[2].x", "", "base_url.y", "a["] := by
  have htexts : (environmentOf tangledVariables).texts? = some tangledVariables := by cbv
  have hload : loadInOrder id List.reverse (oneFile layeredFile)
      (environmentOf tangledVariables) (.ofText "c.toml") none =
        .error (.wrongShape .array baseUrlKey none) := by
    have hsettings := settings?_texts _ tangledVariables htexts
    rw [loadInOrder_file _ _ _ _ _ _ _ layered_settings, id_def, tangled_merged.1, hsettings,
      tangled_settings]
    simp only [List.reverse_cons, List.reverse_nil, List.nil_append, List.cons_append,
      tangled_merged.2]
    rfl
  obtain ⟨hmerged, -, hfaults⟩ := base_never_missing (oneFile layeredFile)
    (environmentOf tangledVariables) (.ofText "c.toml") none tangledVariables htexts id List.reverse
    .refl List.reverse_perm
  rw [tangled_entries] at hmerged hfaults ⊢
  refine ⟨?_, hload, hfaults _ hload⟩
  have hplaced : ∀ text ∈ [baseUrlKey, logDirectoryKey, "base_url[2].x", "", "base_url.y", "a["],
      ∀ step ∈ (Key.ofText text).steps, step.Placed := by
    decide
  rcases hmerged _ (List.reverse_subset.mpr (List.Subset.refl _)) with
    ⟨-, text, htext, step, hstep, hno⟩ | ⟨t, -, hmerge, ht, -⟩
  · rw [List.map_reverse, List.mem_reverse] at htext
    exact absurd (hplaced text htext step hstep) hno
  · exact ⟨t, hmerge, ht⟩

end

/-- An index that is not negative can have no place all the same: no table comes of
its entry, and the load breaks off. -/
theorem far_element_breaks :
    Key.ofText "x[9223372036854775807]" = ⟨"x", [.element farIndex]⟩ ∧ 0 ≤ farIndex ∧
    (∀ [Capacity], defaults.merge [("x[9223372036854775807]", .text "1")] = none) ∧
    ∀ [Capacity],
      load (fun _ => .absent) (environmentOf farVariables) (.ofText "c.toml") none =
        .error .noPlace := by
  refine ⟨far_key, by decide, ?_, ?_⟩
  · intro _
    exact merge_far defaults _
  · intro _
    exact load_far

end MapClient.Settings
