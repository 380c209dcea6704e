import MapClient.Proofs.Overriding

/-!
# When loading breaks off

Loading ends with settings or with a fault that is reported, unless a variable is
no text or a key comes to an index without a place. Both break it off, whatever
the other variables and keys are; only a broken file comes first.
-/

set_option autoImplicit false

namespace MapClient.Settings

open MapClient.Files MapClient.Text

theorem changeElement_none (i : Nat) (f : Node → Option Node) (items : List Node) :
    changeElement i f items = none ↔ f (items.getD i .nothing) = none := by
  have hfilled : (items ++ List.replicate (i + 1 - items.length) Node.nothing).getD i .nothing =
      items.getD i .nothing := by
    by_cases hi : i < items.length
    · rw [List.getD_append _ _ _ _ hi]
    · rw [List.getD_append_right _ _ _ _ (by omega), List.getD_eq_default items _ (by omega),
        List.getD_replicate _ (by omega)]
  simp only [changeElement, hfilled, Option.map_eq_none_iff]

section
variable [Capacity]

/-- An index has no place before the beginning of an array and where no array
reaches. -/
theorem position?_none (length : Nat) (index : Int) :
    position? length index = none ↔
      (0 ≤ index → Capacity.elements ≤ index) ∧
      (index < 0 → length + index < 0 ∨ Capacity.elements ≤ length + index) := by
  rw [position?]
  by_cases hsign : 0 ≤ index
  · simp only [if_pos hsign]
    split_ifs <;> simp <;> omega
  · simp only [if_neg hsign]
    split_ifs <;> simp <;> omega

inductive Stuck : List Step → Node → Prop
  | here (index : Int) (steps : List Step) (n : Node)
      (h : position? n.items.2.length index = none) : Stuck (.element index :: steps) n
  | child (name : String) (steps : List Step) (n : Node)
      (h : Stuck steps (Table.entry name n.entries)) : Stuck (.child name :: steps) n
  | element (index : Int) (i : Nat) (steps : List Step) (n : Node)
      (hi : position? n.items.2.length index = some i)
      (h : Stuck steps (n.items.2.getD i .nothing)) : Stuck (.element index :: steps) n

/-- A value cannot be put at the end of a path just if the path is stuck. -/
theorem place_none_iff (value : Node) (steps : List Step) (n : Node) :
    Node.place value steps n = none ↔ Stuck steps n := by
  induction steps generalizing n with
  | nil =>
    rw [Node.place]
    constructor <;> rintro ⟨⟩
  | cons step steps ih =>
    cases step with
    | child name =>
      have hway : Stuck (.child name :: steps) n ↔ Stuck steps (Table.entry name n.entries) := by
        constructor
        · intro h
          cases h with
          | child _ _ _ h => exact h
        · exact Stuck.child name steps n
      cases steps with
      | nil =>
        rw [hway, Node.place]
        constructor <;> rintro ⟨⟩
      | cons next steps =>
        rw [hway, ← ih, Node.place, Option.map_eq_none_iff]
        simp
    | element index =>
      rw [Node.place]
      cases hi : position? n.items.2.length index with
      | none => exact ⟨fun _ => .here index steps n hi, fun _ => rfl⟩
      | some i =>
        rw [Option.bind_some, Option.map_eq_none_iff, changeElement_none, ih]
        constructor
        · exact .element index i steps n hi
        · intro h
          cases h with
          | here _ _ _ hnone =>
            rw [hi] at hnone
            cases hnone
          | element _ j _ _ hj h =>
            rw [hi] at hj
            obtain rfl := Option.some.inj hj
            exact h

theorem set_none_iff (place : Key) (value : Node) (t : Table) :
    t.set place value = none ↔ Stuck place.steps (t.entry place.root) := by
  rw [Table.set, ← place_none_iff value]
  cases place.steps with
  | nil =>
    rw [Node.place]
    constructor <;> rintro ⟨⟩
  | cons step steps => exact Option.map_eq_none_iff

def Strands (t : Table) (source : List (String × Node)) : Prop :=
  ∃ front e back between, source = front ++ e :: back ∧ t.merge front = some between ∧
    Stuck (Key.ofText e.1).steps (between.entry (Key.ofText e.1).root)

theorem merge_none_iff (t : Table) (source : List (String × Node)) :
    t.merge source = none ↔ Strands t source := by
  induction source generalizing t with
  | nil =>
    constructor
    · intro h
      cases h
    · rintro ⟨front, e, back, -, h, -, -⟩
      cases front <;> cases h
  | cons e source ih =>
    rw [Table.merge_step]
    cases hset : t.set (.ofText e.1) e.2 with
    | none =>
      have hstuck := (set_none_iff _ _ t).mp hset
      exact ⟨fun _ => ⟨[], e, source, t, rfl, rfl, hstuck⟩, fun _ => rfl⟩
    | some next =>
      rw [Option.bind_some, ih]
      constructor
      · rintro ⟨front, f, back, between, rfl, hmerge, hstuck⟩
        refine ⟨e :: front, f, back, between, rfl, ?_, hstuck⟩
        rw [Table.merge_step, hset]
        exact hmerge
      · rintro ⟨front, f, back, between, hsource, hmerge, hstuck⟩
        cases front with
        | nil =>
          obtain ⟨rfl, rfl⟩ := List.cons.inj hsource
          obtain rfl := Option.some.inj hmerge
          rw [(set_none_iff _ e.2 _).mpr hstuck] at hset
          cases hset
        | cons g front =>
          obtain ⟨rfl, rfl⟩ := List.cons.inj hsource
          obtain ⟨next', hnext, hrest⟩ := Table.merge_cons e front t between hmerge
          rw [hset] at hnext
          obtain rfl := Option.some.inj hnext
          exact ⟨front, f, back, between, rfl, hrest, hstuck⟩

end

theorem textAt_fault (t : Table) (key : String) (fault : Fault)
    (h : textAt t key = .error fault) : ∃ shape origin, fault = .wrongShape shape key origin := by
  rw [textAt] at h
  split at h
  · cases h
  · cases h
  · cases h
  · exact ⟨_, _, (Except.error.inj h).symm⟩
  · exact ⟨_, _, (Except.error.inj h).symm⟩

/-- A table is refused if it has no base URL, or for the shape of what is read. -/
theorem ofTable_fault (t : Table) (fault : Fault) (h : ofTable t = .error fault) :
    fault = .missing baseUrlKey ∧ textAt t baseUrlKey = .ok none ∨
      ∃ shape key origin, fault = .wrongShape shape key origin ∧
        (key = baseUrlKey ∨ key = logDirectoryKey) := by
  rw [ofTable] at h
  cases hbase : textAt t baseUrlKey with
  | error f =>
    rw [hbase] at h
    obtain rfl := Except.error.inj h
    obtain ⟨shape, origin, hshape⟩ := textAt_fault t _ _ hbase
    exact .inr ⟨shape, _, origin, hshape, .inl rfl⟩
  | ok base =>
    rw [hbase] at h
    cases base with
    | none => exact .inl ⟨(Except.error.inj h).symm, rfl⟩
    | some s =>
      cases hlog : textAt t logDirectoryKey with
      | error f =>
        rw [hlog] at h
        obtain rfl := Except.error.inj h
        obtain ⟨shape, origin, hshape⟩ := textAt_fault t _ _ hlog
        exact .inr ⟨shape, _, origin, hshape, .inr rfl⟩
      | ok d =>
        rw [hlog] at h
        cases h

theorem checkedTable_fault (t : Table) (fault : Fault) (h : checkedTable t = .error fault) :
    ofTable t = .error fault ∨ ∃ s, fault = .invalidBaseUrl s ∧ isBaseUrl s = false := by
  rw [checkedTable] at h
  cases hread : ofTable t with
  | error f =>
    rw [hread] at h
    obtain rfl := Except.error.inj h
    exact .inl rfl
  | ok settings =>
    rw [hread, checked] at h
    split_ifs at h with hvalid
    exact .inr ⟨_, (Except.error.inj h).symm, Bool.eq_false_of_not_eq_true hvalid⟩

theorem checkedTable_reported (t : Table) (fault : Fault) (h : checkedTable t = .error fault) :
    fault.breaksOff = false := by
  rcases checkedTable_fault t fault h with hread | ⟨s, rfl, -⟩
  · rcases ofTable_fault t fault hread with ⟨rfl, -⟩ | ⟨shape, key, origin, rfl, -⟩
    · rfl
    · rfl
  · rfl

theorem fileSettings_fault (read : Path → Content) (path : Path) (fault : Fault)
    (h : fileSettings read path = .error fault) :
    ∃ p, fault = .brokenFile p := by
  rw [fileSettings_selected] at h
  split at h
  · cases h
  · split at h
    · cases h
    · exact ⟨_, (Except.error.inj h).symm⟩

section
variable [Capacity] (read : Path → Content) (env : Environment) (path : Path)
  (given : Option String)

def BreaksOff : Prop :=
  ∃ fault, load read env path given = .error fault ∧ fault.breaksOff = true

theorem breaksOff_file (fault : Fault) (h : fileSettings read path = .error fault) :
    ¬BreaksOff read env path given := by
  rintro ⟨f, hload, hf⟩
  rw [load, h] at hload
  obtain rfl := Except.error.inj hload
  obtain ⟨p, rfl⟩ := fileSettings_fault read path _ h
  cases hf

section
variable (file : List (String × Node)) (hfile : fileSettings read path = .ok file)
include hfile

theorem load_stranded (h : defaults.merge file = none) :
    load read env path given = .error .noPlace := by
  rw [load, hfile]
  show (gather file env given >>= _) = _
  rw [gather, h]
  rfl

theorem load_textless (table : Table) (h : defaults.merge file = some table)
    (henv : env.texts? = none) : load read env path given = .error .brokenVariable := by
  rw [load, hfile]
  show (gather file env given >>= _) = _
  rw [gather, h, Environment.settings?, henv]
  rfl

theorem breaksOff_merged (table : Table) (vars : List (String × String))
    (h : defaults.merge file = some table) (henv : env.texts? = some vars) :
    BreaksOff read env path given ↔ table.merge (vars.filterMap Environment.setting?) = none := by
  have hadded := settings?_texts env vars henv
  have hload := load_merged read env path file _ given hfile hadded
  rw [mergeBoth, h, Option.bind_some] at hload
  rw [BreaksOff, hload]
  cases table.merge (vars.filterMap Environment.setting?) with
  | none => exact ⟨fun _ => rfl, fun _ => ⟨.noPlace, rfl, rfl⟩⟩
  | some t =>
    constructor
    · rintro ⟨fault, hfault, hbreaks⟩
      rw [checkedTable_reported _ fault hfault] at hbreaks
      cases hbreaks
    · intro hnone
      cases hnone

theorem breaksOff_read :
    BreaksOff read env path given ↔
      env.texts? = none ∨ Strands defaults file ∨
        ∃ table vars, defaults.merge file = some table ∧ env.texts? = some vars ∧
          Strands table (vars.filterMap Environment.setting?) := by
  simp only [← merge_none_iff]
  cases hmerge : defaults.merge file with
  | none =>
    have hload := load_stranded read env path given file hfile hmerge
    simp [BreaksOff, hload, Fault.breaksOff]
  | some table =>
    cases henv : env.texts? with
    | none =>
      have hload := load_textless read env path given file hfile table hmerge henv
      simp [BreaksOff, hload, Fault.breaksOff]
    | some vars => simp [breaksOff_merged read env path given file hfile table vars hmerge henv]

end

/-- Loading breaks off just if the file is not broken and a variable is no text or
a key comes to an index without a place. -/
theorem breaks_off_iff :
    BreaksOff read env path given ↔
      ∃ file, fileSettings read path = .ok file ∧
        (env.texts? = none ∨ Strands defaults file ∨
          ∃ table vars, defaults.merge file = some table ∧ env.texts? = some vars ∧
            Strands table (vars.filterMap Environment.setting?)) := by
  cases hfile : fileSettings read path with
  | error fault =>
    refine ⟨fun h => absurd h (breaksOff_file read env path given fault hfile), ?_⟩
    rintro ⟨file, ⟨⟩, -⟩
  | ok file =>
    rw [breaksOff_read read env path given file hfile]
    simp only [Except.ok.injEq, exists_eq_left']

/-- Where all variables are texts and all indices have places, loading ends with
settings or with a fault that is reported. -/
theorem load_reported (vars : List (String × String)) (henv : env.texts? = some vars)
    (hfile : ∀ file, fileSettings read path = .ok file → ∀ text ∈ file.map Prod.fst,
      ¬Misplaced text)
    (hvars : ∀ text ∈ (vars.filterMap Environment.setting?).map Prod.fst, ¬Misplaced text) :
    ¬BreaksOff read env path given := by
  have hplaced : ∀ (source : List (String × Node)) (t : Table),
      (∀ text ∈ source.map Prod.fst, ¬Misplaced text) → ¬Strands t source := by
    intro source t hsource hstrands
    obtain ⟨text, htext, hmis⟩ :=
      Table.merge_misplaced source t ((merge_none_iff t source).mpr hstrands)
    exact hsource text htext hmis
  cases hread : fileSettings read path with
  | error fault => exact breaksOff_file read env path given fault hread
  | ok file =>
    rw [breaksOff_read read env path given file hread]
    rintro (hnone | hstrands | ⟨table, vars', -, henv', hstrands⟩)
    · rw [henv] at hnone
      cases hnone
    · exact hplaced file defaults (hfile file hread) hstrands
    · rw [henv] at henv'
      obtain rfl := Option.some.inj henv'
      exact hplaced _ table hvars hstrands

end

def foreignBytes : Environment := ⟨[(utf8 "HOME", utf8 "/h"), (utf8 "OTHER", [0xFF])]⟩

def lostElement : Environment := environmentOf [("HOME", "/h"), ("CHUNKFORM_X[-1]", "1")]

/-- There is no file and the base URL is given, so no variable counts. -/
theorem useless_variables_break_off :
    (∀ [Capacity],
      load (fun _ => .absent) foreignBytes (.ofText "c.toml") (some "http://[::1]") =
        .error .brokenVariable) ∧
    (∀ [Capacity],
      load (fun _ => .absent) lostElement (.ofText "c.toml") (some "http://[::1]") =
        .error .noPlace) ∧
    ∀ [Capacity],
      load (fun _ => .absent) (environmentOf [("HOME", "/h")]) (.ofText "c.toml")
        (some "http://[::1]") = .ok ⟨"http://[::1]", none⟩ := by
  have hfile : fileSettings (fun _ => .absent) (.ofText "c.toml") = .ok [] := by
    rw [fileSettings_selected]
    rfl
  have hlost : lostElement.settings? = some [("x[-1]", .text "1")] := by cbv
  have hplain : (environmentOf [("HOME", "/h")]).settings? = some [] := by cbv
  have hkey : Key.ofText "x[-1]" = ⟨"x", [.element (-1)]⟩ := by cbv
  refine ⟨?_, ?_, ?_⟩
  · intro _
    exact load_textless _ _ _ _ [] hfile defaults rfl (by cbv)
  · intro _
    have hstuck : Stuck [.element (-1)] (Table.entry "x" defaults) :=
      .here _ _ _ ((position?_none _ _).mpr ⟨fun h => absurd h (by decide),
        fun _ => .inl (by decide)⟩)
    have hmerge : mergeBoth [] [("x[-1]", .text "1")] = none := by
      refine (merge_none_iff defaults _).mpr ⟨[], _, [], defaults, rfl, rfl, ?_⟩
      rw [hkey]
      exact hstuck
    rw [load_merged _ _ _ _ _ _ hfile hlost, hmerge]
  · intro _
    exact load_merged_ok _ _ _ _ _ _ _ _ hfile hplain rfl rfl loopback_valid

end MapClient.Settings
