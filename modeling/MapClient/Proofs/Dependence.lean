import MapClient.Proofs.Ordering
import MapClient.Proofs.Origins

/-!
# What loading depends on

Loading goes by the text of the file that counts, by the variables that hold
settings, in any order and under names of any letter case, and by the base URL that
is given. Nothing else makes a difference to what is loaded, and only two more
variables to where the log is written.
-/

set_option autoImplicit false

namespace MapClient.Settings

open MapClient.Files MapClient.Text

def Holds (vars : List (String × String)) (name : List Char) (value : String) : Prop :=
  ∃ v ∈ vars, lowerCase v.1.toList = Environment.settingMark ++ name ∧ v.2 = value

theorem mem_settings (vars : List (String × String)) (e : String × Node) :
    e ∈ vars.filterMap Environment.setting? ↔
      ∃ value, e.2 = .text value ∧ Holds vars e.1.toList value := by
  rw [List.mem_filterMap]
  constructor
  · rintro ⟨v, hv, hsetting⟩
    obtain ⟨hname, hvalue⟩ := (setting?_iff v e.1 e.2).mp hsetting
    exact ⟨v.2, hvalue, v, hv, hname, rfl⟩
  · rintro ⟨value, hvalue, v, hv, hname, rfl⟩
    exact ⟨v, hv, (setting?_iff v e.1 e.2).mpr ⟨hname, hvalue⟩⟩

theorem holds_iff (vars : List (String × String)) (name : List Char) (value : String) :
    Holds vars name value ↔
      (String.ofList name, Node.text value) ∈ vars.filterMap Environment.setting? := by
  rw [mem_settings]
  simp [Node.text.injEq]

theorem settings_unnamed (vars : List (String × String)) :
    Table.unnamed (vars.filterMap Environment.setting?) =
      vars.filterMap Environment.setting? := by
  have htext : ∀ e ∈ vars.filterMap Environment.setting?, (e.1, e.2.unnamed) = e := by
    intro e he
    obtain ⟨value, hvalue, -⟩ := (mem_settings vars e).mp he
    rw [hvalue, Node.unnamed_text, ← hvalue]
  rw [Table.unnamed, List.map_congr_left htext, List.map_id']

theorem rootsApart_unnamed (source : List (String × Node)) (h : RootsApart source) :
    RootsApart (Table.unnamed source) := by
  rw [RootsApart, Table.unnamed, List.map_map]
  exact h

theorem checkedTable_same (t t' : Table) (given : Option String) (h : t.Same t') :
    checkedTable (given.elim t t.withBase) = checkedTable (given.elim t' t'.withBase) := by
  have hagree : t.Agree t' := fun k _ => h k
  cases given with
  | none =>
    show checkedTable t = checkedTable t'
    rw [checkedTable, checkedTable, ofTable_eq t t' hagree (h _)]
  | some u =>
    show checkedTable (t.withBase u) = checkedTable (t'.withBase u)
    rw [checkedTable, checkedTable, ofTable_withBase t t' u hagree]

theorem fileSettings_alike (read read' : Path → Content) (path path' : Path)
    (htext : (selectedText? read path).map Prod.snd =
      (selectedText? read' path').map Prod.snd) :
    (∃ p p', fileSettings read path = .error (.brokenFile p) ∧
      fileSettings read' path' = .error (.brokenFile p')) ∨
    ∃ file file', fileSettings read path = .ok file ∧ fileSettings read' path' = .ok file' ∧
      Table.unnamed file = Table.unnamed file' := by
  rw [fileSettings_selected, fileSettings_selected]
  cases hfirst : selectedText? read path with
  | none =>
    rw [hfirst] at htext
    rw [Option.map_eq_none_iff.mp htext.symm]
    exact .inr ⟨[], [], rfl, rfl, rfl⟩
  | some found =>
    rw [hfirst] at htext
    obtain ⟨found', hsecond, hsame⟩ := Option.map_eq_some_iff.mp htext.symm
    rw [hsecond]
    dsimp only
    rw [hsame]
    cases Toml.parse? found.2 with
    | none => exact .inl ⟨_, _, rfl, rfl⟩
    | some entries => exact .inr ⟨_, _, rfl, rfl, ofEntries_unnamed _ _ entries⟩

/-- Where the log is written only depends on the settings if they say it, and else
on two variables. -/
theorem logPath?_depends (env env' : Environment) (s : Settings) :
    (∀ d, s.logDirectory = some d → s.logPath? env = some (.ofText d)) ∧
      (env.get? "HOME" = env'.get? "HOME" →
        env.get? "XDG_DATA_HOME" = env'.get? "XDG_DATA_HOME" →
        s.logPath? env = s.logPath? env') := by
  constructor
  · intro d hd
    rw [logPath?, hd]
  · intro hhome hdata
    rw [logPath?, logPath?]
    cases s.logDirectory with
    | some d => rfl
    | none =>
      simp only [defaultLogDirectory?, base?, Environment.text?, home?, hhome, hdata]

section
variable [Capacity]

theorem mergeBoth_unnamed (file added : List (String × Node)) :
    mergeBoth (Table.unnamed file) (Table.unnamed added) =
      (mergeBoth file added).map Table.unnamed := by
  have hdefaults : Table.unnamed defaults = defaults := by
    rw [defaults, Table.unnamed, List.map_singleton, Node.unnamed_text]
  rw [mergeBoth, mergeBoth, ← hdefaults, Table.merge_unnamed, hdefaults]
  cases defaults.merge file with
  | none => rfl
  | some t => exact Table.merge_unnamed added t

def settled (file added : List (String × Node)) (given : Option String) :
    Except Fault Settings :=
  match mergeBoth file added with
  | none => .error .noPlace
  | some t => checkedTable (given.elim t t.withBase)

theorem settled_unnamed (file added : List (String × Node)) (given : Option String) :
    settled (Table.unnamed file) (Table.unnamed added) given =
      (settled file added given).mapError Fault.unnamed := by
  rw [settled, settled, mergeBoth_unnamed]
  cases mergeBoth file added with
  | none => rfl
  | some t =>
    have hgiven : given.elim t.unnamed t.unnamed.withBase =
        Table.unnamed (given.elim t t.withBase) := by
      cases given with
      | none => rfl
      | some u =>
        rw [Option.elim_some, Option.elim_some, Table.withBase, Table.withBase,
          Table.assign_unnamed, Node.unnamed_text]
    rw [Option.map_some]
    show checkedTable (given.elim t.unnamed t.unnamed.withBase) = _
    rw [hgiven, checkedTable_unnamed]

theorem mergeBoth_same (file file' added added' : List (String × Node))
    (hfile : RootsApart file) (hfile' : RootsApart file') (hadded : RootsApart added)
    (hadded' : RootsApart added') (hsame : ∀ e, e ∈ file ↔ e ∈ file')
    (hsame' : ∀ e, e ∈ added ↔ e ∈ added') :
    Option.Rel Table.Same (mergeBoth file added) (mergeBoth file' added') := by
  have hfirst :=
    Table.merge_same file file' defaults defaults (fun _ => rfl) hfile hfile' hsame
  rw [mergeBoth, mergeBoth]
  generalize defaults.merge file = first at hfirst ⊢
  generalize defaults.merge file' = second at hfirst ⊢
  cases hfirst with
  | none => exact .none
  | @some t t' ht => exact Table.merge_same added added' t t' ht hadded hadded' hsame'

/-- In which order the entries of the sources come makes no difference. -/
theorem settled_same (file file' added added' : List (String × Node)) (given : Option String)
    (hfile : RootsApart file) (hfile' : RootsApart file') (hadded : RootsApart added)
    (hadded' : RootsApart added') (hsame : ∀ e, e ∈ file ↔ e ∈ file')
    (hsame' : ∀ e, e ∈ added ↔ e ∈ added') :
    settled file added given = settled file' added' given := by
  have hboth := mergeBoth_same file file' added added' hfile hfile' hadded hadded' hsame hsame'
  rw [settled, settled]
  generalize mergeBoth file added = first at hboth ⊢
  generalize mergeBoth file' added' = second at hboth ⊢
  cases hboth with
  | none => rfl
  | @some t t' ht => exact checkedTable_same t t' given ht

variable (read read' : Path → Content) (env env' : Environment) (path path' : Path)
  (given : Option String) (vars vars' : List (String × String))

theorem load_settled (file : List (String × Node)) (hfile : fileSettings read path = .ok file)
    (henv : env.texts? = some vars) :
    load read env path given = settled file (vars.filterMap Environment.setting?) given := by
  have hadded := settings?_texts env vars henv
  rw [load_merged read env path file _ given hfile hadded]
  unfold settled
  cases mergeBoth file (vars.filterMap Environment.setting?) <;> rfl

theorem load_broken (p : String) (hfile : fileSettings read path = .error (.brokenFile p)) :
    load read env path given = .error (.brokenFile p) := by
  rw [load, hfile]
  rfl

/-- Loading depends on the text of the file that counts, on the variables that hold
settings and on the base URL that is given, and on nothing else: neither on where
that file is, nor on other files and variables, nor on the order in which
entries come. -/
theorem load_depends (henv : env.texts? = some vars) (henv' : env'.texts? = some vars')
    (hvars : ∀ name value, Holds vars name value ↔ Holds vars' name value)
    (htext : (selectedText? read path).map Prod.snd = (selectedText? read' path').map Prod.snd)
    (hroots : ∀ file, fileSettings read path = .ok file → RootsApart file)
    (hadded : RootsApart (vars.filterMap Environment.setting?))
    (hadded' : RootsApart (vars'.filterMap Environment.setting?)) :
    (load read env path given).mapError Fault.unnamed =
        (load read' env' path' given).mapError Fault.unnamed ∧
      (∀ file file' added', fileSettings read path = .ok file → file'.Perm file →
        added'.Perm (vars.filterMap Environment.setting?) →
        load read env path given = settled file' added' given) ∧
      ∀ s : Settings,
        (∀ d, s.logDirectory = some d → s.logPath? env = some (.ofText d)) ∧
        (env.get? "HOME" = env'.get? "HOME" →
          env.get? "XDG_DATA_HOME" = env'.get? "XDG_DATA_HOME" →
          s.logPath? env = s.logPath? env') := by
  have hsame : ∀ e, e ∈ vars.filterMap Environment.setting? ↔
      e ∈ vars'.filterMap Environment.setting? := by
    intro e
    simp only [mem_settings, hvars]
  refine ⟨?_, ?_, logPath?_depends env env'⟩
  · rcases fileSettings_alike read read' path path' htext with
      ⟨p, p', hfile, hfile'⟩ | ⟨file, file', hfile, hfile', hunnamed⟩
    · rw [load_broken read env path given p hfile, load_broken read' env' path' given p' hfile']
      rfl
    · have hapart := rootsApart_unnamed file (hroots file hfile)
      rw [load_settled read env path given vars file hfile henv,
        load_settled read' env' path' given vars' file' hfile' henv', ← settled_unnamed,
        ← settled_unnamed, settings_unnamed, settings_unnamed, ← hunnamed]
      exact settled_same _ _ _ _ given hapart hapart hadded hadded' (fun _ => Iff.rfl) hsame
  · intro file file' added' hfile hfiles hadds
    rw [load_settled read env path given vars file hfile henv]
    have hapart := hroots file hfile
    refine settled_same file file' _ added' given hapart ?_ hadded ?_ (fun e => hfiles.mem_iff.symm)
      fun e => hadds.mem_iff.symm
    · exact (hfiles.map _).nodup_iff.mpr hapart
    · exact (hadds.map _).nodup_iff.mpr hadded

end

def renamedFile (text : String) (p : Path) : Content :=
  if p = .ofText "d.toml" then .bytes (utf8 text) else .absent

def orderedVariables : List (String × String) :=
  [("HOME", "/h"), ("CHUNKFORM_BASE_URL", "http://[::1]:8080"), ("CHUNKFORM_X[1]", "1")]

def shuffledVariables : List (String × String) :=
  [("Chunkform_x[1]", "1"), ("OTHER", "2"), ("chunkform_base_url", "http://[::1]:8080")]

section
attribute [local instance] Capacity.usual

/-- Another home, another variable, other letters, another order and another file. -/
theorem shuffled_same :
    (load (oneFile layeredFile) (environmentOf orderedVariables) (.ofText "c.toml")
        none).mapError Fault.unnamed =
      (load (renamedFile layeredFile) (environmentOf shuffledVariables) (.ofText "d")
        none).mapError Fault.unnamed ∧
    load (oneFile layeredFile) (environmentOf orderedVariables) (.ofText "c.toml") none =
      .ok ⟨"http://[::1]:8080", some "7"⟩ := by
  have hordered : (environmentOf orderedVariables).texts? = some orderedVariables := by cbv
  have hshuffled : (environmentOf shuffledVariables).texts? = some shuffledVariables := by cbv
  have hsettings : orderedVariables.filterMap Environment.setting? =
      [(baseUrlKey, .text "http://[::1]:8080"), ("x[1]", .text "1")] := by
    cbv
  have hsettings' : shuffledVariables.filterMap Environment.setting? =
      [("x[1]", .text "1"), (baseUrlKey, .text "http://[::1]:8080")] := by
    cbv
  have hselected : selectedText? (renamedFile layeredFile) (.ofText "d") =
      some (.ofText "d.toml", layeredFile) := by
    decide
  have hadded : (environmentOf orderedVariables).settings? =
      some [(baseUrlKey, .text "http://[::1]:8080"), ("x[1]", .text "1")] := by
    rw [Environment.settings?, hordered, Option.map_some, hsettings]
  have hvalid : isBaseUrl "http://[::1]:8080" = true := by decide +kernel
  refine ⟨(load_depends _ _ _ _ _ _ none _ _ hordered hshuffled ?_ ?_ ?_ ?_ ?_).1,
    load_merged_ok _ _ _ _ _ none _ _ layered_settings hadded rfl rfl hvalid⟩
  · intro name value
    rw [holds_iff, holds_iff, hsettings, hsettings']
    simp only [List.mem_cons, List.not_mem_nil, or_false]
    exact or_comm
  · rw [oneFile_selected, hselected]
    rfl
  · intro file hfile
    rw [layered_settings] at hfile
    obtain rfl := Except.ok.inj hfile
    rw [RootsApart]
    decide
  · rw [hsettings, RootsApart]
    decide
  · rw [hsettings', RootsApart]
    decide

end

end MapClient.Settings
