import MapClient.Proofs.Sources
import Mathlib

/-!
# Which settings count

The base URL is the one that is given, or else that of the environment, of the
file, or the default, and only that one is looked at. The log directory is that
of the environment or else of the file. The language of the file comes first:
where it is broken nothing else matters.
-/

set_option autoImplicit false

namespace MapClient.Settings

open MapClient.Files MapClient.Text

def Node.isContainer : Node → Bool
  | .array .. | .table _ => true
  | _ => false

inductive Node.Alike : Node → Node → Prop where
  | text (s : String) : Alike (.text s) (.text s)
  | containers (a b : Node) (ha : a.isContainer = true) (hb : b.isContainer = true) : Alike a b

theorem ofValue_cases (origin : String) (v : Toml.Value) :
    (∃ s, Node.ofValue origin v = .text s) ∨ (Node.ofValue origin v).isContainer = true := by
  cases v with
  | text s => exact .inl ⟨_, by rw [Node.ofValue]⟩
  | integer n => exact .inl ⟨_, by rw [Node.ofValue]⟩
  | real r => exact .inl ⟨_, by rw [Node.ofValue]⟩
  | boolean b => exact .inl ⟨_, by rw [Node.ofValue]⟩
  | date d => exact .inl ⟨_, by rw [Node.ofValue]⟩
  | array vs => exact .inr (by rw [Node.ofValue]; rfl)
  | table o es => exact .inr (by rw [Node.ofValue]; rfl)

/-- What a text is put over makes no difference, and a table with entries stays
one. -/
theorem over_alike (origin : String) (v : Toml.Value) (old : Option Node)
    (h : ∀ o, v ≠ .table o []) :
    ((Node.ofValue origin v).over old).Alike (Node.ofValue origin v) := by
  rcases ofValue_cases origin v with ⟨s, hs⟩ | hcontainer
  · rw [hs]
    exact .text s
  · refine .containers _ _ ?_ hcontainer
    cases v with
    | array vs => rw [Node.ofValue]; rfl
    | table o es =>
      cases es with
      | nil => exact absurd rfl (h o)
      | cons e es => rw [Node.ofValue, Node.ofEntries]; rfl
    | text s => rw [Node.ofValue] at hcontainer; cases hcontainer
    | integer n => rw [Node.ofValue] at hcontainer; cases hcontainer
    | real r => rw [Node.ofValue] at hcontainer; cases hcontainer
    | boolean b => rw [Node.ofValue] at hcontainer; cases hcontainer
    | date d => rw [Node.ofValue] at hcontainer; cases hcontainer

theorem over_empty (origin : String) (o : Bool) (old : Option Node) :
    (Node.ofValue origin (.table o [])).over old = old.getD (.table []) := by
  rw [Node.ofValue, Node.ofEntries, Node.over]

def fileBaseUrl? (origin : String) (entries : Toml.Entries) : Option Node :=
  match entries.lookup baseUrlKey with
  | none | some (.table _ []) => none
  | some v => some (Node.ofValue origin v)

theorem fileBaseUrl?_some (origin : String) (entries : Toml.Entries) (v : Toml.Value)
    (hv : entries.lookup baseUrlKey = some v) (h : ∀ o, v ≠ .table o []) :
    fileBaseUrl? origin entries = some (Node.ofValue origin v) := by
  rw [fileBaseUrl?, hv]
  split
  · next hnone => cases hnone
  · next o hempty => exact absurd (Option.some.inj hempty) (h o)
  · next v' _ hsome => rw [Option.some.inj hsome]

def fileLogDirectory? (origin : String) (entries : Toml.Entries) : Option Node :=
  (entries.lookup logDirectoryKey).map (Node.ofValue origin)

def counted (first : Option String) (second : Option Node) : Option Node :=
  (first.map .text).or second

def Plainly (keys : List String) : Prop :=
  ∀ text ∈ keys, ((Key.ofText text).root = baseUrlKey ∨ (Key.ofText text).root = logDirectoryKey) →
    (Key.ofText text).steps = []

theorem Plainly.names {source : List (String × Node)} (h : Plainly (source.map Prod.fst))
    (k : String) (hk : k = baseUrlKey ∨ k = logDirectoryKey) :
    ∀ e ∈ source, (Key.ofText e.1).root = k → (Key.ofText e.1).steps = [] := by
  rintro e he rfl
  exact h e.1 (List.mem_map_of_mem he) hk

theorem key_plain (k : String) (hk : k = baseUrlKey ∨ k = logDirectoryKey) :
    (Key.ofText k).steps = [] := by
  rcases hk with rfl | rfl <;> decide

section
variable (origin : String) (entries : Toml.Entries) (table table' : Table)
  (vars : List (String × String))

theorem log_untouched (given : Option String) :
    (given.elim table fun s => table.assign baseUrlKey (.text s)).get? logDirectoryKey =
      table.get? logDirectoryKey := by
  cases given with
  | none => rfl
  | some s => rw [Option.elim_some, Table.get?_assign, if_neg (by decide)]

theorem after_all (given : Option String) (old : Option Node)
    (hold : Option.Rel Node.Alike (table.get? baseUrlKey) old) :
    Option.Rel Node.Alike
      ((given.elim table fun s => table.assign baseUrlKey (.text s)).get? baseUrlKey)
      (counted given old) := by
  cases given with
  | none => exact hold
  | some s =>
    rw [Option.elim_some, Table.get?_assign, if_pos rfl]
    exact .some (.text s)

variable [Capacity]

theorem base_after_file (hmerge : defaults.merge (Node.ofEntries origin entries) = some table)
    (hnames : (entries.map Prod.fst).Nodup) (hplain : Plainly (entries.map Prod.fst)) :
    Option.Rel Node.Alike (table.get? baseUrlKey)
      ((fileBaseUrl? origin entries).or (some (.text defaultBaseUrl))) := by
  rw [← ofEntries_names origin] at hnames hplain
  have hdefault : defaults.get? baseUrlKey = some (.text defaultBaseUrl) := rfl
  rw [Table.get?_merge baseUrlKey _ _ _ hmerge (key_plain _ (.inl rfl)) hnames
    (hplain.names _ (.inl rfl)), get?_ofEntries, hdefault]
  cases hv : entries.lookup baseUrlKey with
  | none =>
    rw [fileBaseUrl?, hv]
    exact .some (.text _)
  | some v =>
    by_cases hempty : ∃ o, v = .table o []
    · obtain ⟨o, rfl⟩ := hempty
      rw [fileBaseUrl?, hv, Option.map_some]
      dsimp only
      rw [over_empty]
      exact .some (.text _)
    · have hne : ∀ o, v ≠ .table o [] := fun o ho => hempty ⟨o, ho⟩
      rw [fileBaseUrl?_some origin entries v hv hne]
      exact .some (over_alike origin v _ hne)

theorem log_after_file (hmerge : defaults.merge (Node.ofEntries origin entries) = some table)
    (hnames : (entries.map Prod.fst).Nodup) (hplain : Plainly (entries.map Prod.fst)) :
    Option.Rel Node.Alike (table.get? logDirectoryKey) (fileLogDirectory? origin entries) := by
  rw [← ofEntries_names origin] at hnames hplain
  have hdefault : defaults.get? logDirectoryKey = none := rfl
  rw [Table.get?_merge logDirectoryKey _ _ _ hmerge (key_plain _ (.inr rfl)) hnames
    (hplain.names _ (.inr rfl)), get?_ofEntries, hdefault, fileLogDirectory?]
  cases entries.lookup logDirectoryKey with
  | none => exact .none
  | some v =>
    rw [Option.map_some]
    refine .some ?_
    by_cases hempty : ∃ o, v = .table o []
    · obtain ⟨o, rfl⟩ := hempty
      rw [over_empty, Node.ofValue]
      exact .containers _ _ rfl rfl
    · exact over_alike origin v _ fun o ho => hempty ⟨o, ho⟩

/-- After the environment its variables count before what was there. -/
theorem after_environment (k : String) (old : Option Node)
    (hmerge : table.merge (vars.filterMap Environment.setting?) = some table')
    (hapart : StayApart vars)
    (hplain : Plainly ((vars.filterMap Environment.setting?).map Prod.fst))
    (hk : k = baseUrlKey ∨ k = logDirectoryKey)
    (hold : Option.Rel Node.Alike (table.get? k) old) :
    Option.Rel Node.Alike (table'.get? k) (counted (held? vars k) old) := by
  rw [Table.get?_merge k _ _ _ hmerge (key_plain k hk) (settings_nodup vars hapart)
    (hplain.names k hk), get?_settings, counted]
  cases held? vars k with
  | none => exact hold
  | some s => exact .some (.text s)

end

theorem textAt_container (t : Table) (key : String) (n : Node) (h : t.get? key = some n)
    (hn : n.isContainer = true) :
    ∃ shape origin, textAt t key = .error (.wrongShape shape key origin) := by
  rw [textAt, h]
  cases n with
  | nothing => cases hn
  | text s => cases hn
  | array origin items => exact ⟨.array, origin, rfl⟩
  | table es => exact ⟨.table, none, rfl⟩

def NoText (n : Option Node) : Prop :=
  ∃ container, n = some container ∧ container.isContainer = true

theorem text_not_noText (s : String) : ¬NoText (some (.text s)) := by
  rintro ⟨n, hn, hcontainer⟩
  rw [← Option.some.inj hn] at hcontainer
  cases hcontainer

theorem ofTable_cases (t : Table) (base : Node) (log : Option Node)
    (hbase : Option.Rel Node.Alike (t.get? baseUrlKey) (some base))
    (hlog : Option.Rel Node.Alike (t.get? logDirectoryKey) log) :
    ((NoText (some base) ∨ NoText log) ∧
      ∃ shape key origin, ofTable t = .error (.wrongShape shape key origin)) ∨
    ∃ s d, base = .text s ∧ log = Option.map .text d ∧ ofTable t = .ok ⟨s, d⟩ := by
  cases hb : t.get? baseUrlKey with
  | none => rw [hb] at hbase; cases hbase
  | some b =>
    rw [hb] at hbase
    obtain ⟨hbase⟩ := hbase
    cases hbase with
    | containers _ _ hb' hbase =>
      obtain ⟨shape, origin, htext⟩ := textAt_container t baseUrlKey b hb hb'
      exact .inl ⟨.inl ⟨_, rfl, hbase⟩, shape, baseUrlKey, origin, by rw [ofTable, htext]; rfl⟩
    | text s =>
      have hs : textAt t baseUrlKey = .ok (some s) := by rw [textAt, hb]
      cases hl : t.get? logDirectoryKey with
      | none =>
        rw [hl] at hlog
        cases hlog
        have hd : textAt t logDirectoryKey = .ok none := by rw [textAt, hl]
        exact .inr ⟨s, none, rfl, rfl, by rw [ofTable, hs, hd]; rfl⟩
      | some n =>
        rw [hl] at hlog
        cases hlog with
        | some hlog =>
          cases hlog with
          | containers _ _ hn hlog =>
            obtain ⟨shape, origin, htext⟩ := textAt_container t logDirectoryKey n hl hn
            exact .inl ⟨.inr ⟨_, rfl, hlog⟩, shape, logDirectoryKey, origin,
              by rw [ofTable, hs, htext]; rfl⟩
          | text d =>
            have hd : textAt t logDirectoryKey = .ok (some d) := by rw [textAt, hl]
            exact .inr ⟨s, some d, rfl, rfl, by rw [ofTable, hs, hd]; rfl⟩

def countedBaseUrl (given : Option String) (vars : List (String × String)) (origin : String)
    (entries : Toml.Entries) : Option Node :=
  counted given (counted (held? vars baseUrlKey)
    ((fileBaseUrl? origin entries).or (some (.text defaultBaseUrl))))

def countedLogDirectory (vars : List (String × String)) (origin : String)
    (entries : Toml.Entries) : Option Node :=
  counted (held? vars logDirectoryKey) (fileLogDirectory? origin entries)

def allKeys (vars : List (String × String)) (entries : Toml.Entries) : List String :=
  entries.map Prod.fst ++ (vars.filterMap Environment.setting?).map Prod.fst

theorem countedBaseUrl_some (given : Option String) (vars : List (String × String))
    (origin : String) (entries : Toml.Entries) :
    ∃ base, countedBaseUrl given vars origin entries = some base := by
  rw [countedBaseUrl, counted, counted]
  cases given with
  | some s => exact ⟨_, rfl⟩
  | none =>
    cases held? vars baseUrlKey with
    | some s => exact ⟨_, rfl⟩
    | none => cases fileBaseUrl? origin entries <;> exact ⟨_, rfl⟩

theorem checked (settings : Settings) :
    (do
      let settings ← (Except.ok settings : Except Fault Settings)
      settings.validate
      return settings) =
    if isBaseUrl settings.baseUrl then .ok settings
    else .error (.invalidBaseUrl settings.baseUrl) := by
  simp only [validate, bind, Except.bind, pure, Except.pure]
  by_cases h : isBaseUrl settings.baseUrl = true
  · rw [if_pos h, if_pos h]
  · rw [if_neg h, if_neg h]

theorem texts_not_noText (s : String) (d : Option String) :
    ¬(NoText (some (.text s)) ∨ NoText (Option.map .text d)) := by
  rintro (hno | hno)
  · exact text_not_noText s hno
  · cases d with
    | none => obtain ⟨n, hn, -⟩ := hno; cases hn
    | some d => exact text_not_noText d hno

section
variable [Capacity]

theorem gather_merged (file added : List (String × Node)) (env : Environment)
    (given : Option String) (table : Table) (hfile : defaults.merge file = some table)
    (henv : env.settings? = some added) :
    gather file env given =
      match table.merge added with
      | none => .error .noPlace
      | some t => .ok (given.elim t fun s => t.assign baseUrlKey (.text s)) := by
  rw [gather, hfile, henv]
  show (do let t ← orFault .noPlace (table.merge added); _) = _
  cases table.merge added <;> rfl

/-- All settings together hold the base URL and the log directory that count,
unless a key has no place. -/
theorem gather_cases (env : Environment) (given : Option String) (vars : List (String × String))
    (origin : String) (entries : Toml.Entries) (henv : env.texts? = some vars)
    (hapart : StayApart vars) (hnames : (entries.map Prod.fst).Nodup)
    (hplain : Plainly (allKeys vars entries)) :
    (gather (Node.ofEntries origin entries) env given = .error .noPlace ∧
      ∃ text ∈ allKeys vars entries, Misplaced text) ∨
    ∃ t, gather (Node.ofEntries origin entries) env given = .ok t ∧
      Option.Rel Node.Alike (t.get? baseUrlKey) (countedBaseUrl given vars origin entries) ∧
      Option.Rel Node.Alike (t.get? logDirectoryKey) (countedLogDirectory vars origin entries) := by
  have hsettings := settings?_texts env vars henv
  have hfile : Plainly (entries.map Prod.fst) := fun text ht =>
    hplain text (List.mem_append_left _ ht)
  have hvars : Plainly ((vars.filterMap Environment.setting?).map Prod.fst) := fun text ht =>
    hplain text (List.mem_append_right _ ht)
  cases hfirst : defaults.merge (Node.ofEntries origin entries) with
  | none =>
    obtain ⟨text, ht, hmis⟩ := Table.merge_misplaced _ _ hfirst
    rw [ofEntries_names] at ht
    exact .inl ⟨by rw [gather, hfirst]; rfl, text, List.mem_append_left _ ht, hmis⟩
  | some t₁ =>
    cases hsecond : t₁.merge (vars.filterMap Environment.setting?) with
    | none =>
      obtain ⟨text, ht, hmis⟩ := Table.merge_misplaced _ _ hsecond
      exact .inl ⟨by rw [gather_merged _ _ env given t₁ hfirst hsettings, hsecond],
        text, List.mem_append_right _ ht, hmis⟩
    | some t₂ =>
      refine .inr ⟨given.elim t₂ fun s => t₂.assign baseUrlKey (.text s), ?_, ?_, ?_⟩
      · rw [gather_merged _ _ env given t₁ hfirst hsettings, hsecond]
      · exact after_all t₂ given _ (after_environment t₁ t₂ vars _ _ hsecond hapart hvars (.inl rfl)
          (base_after_file origin entries t₁ hfirst hnames hfile))
      · rw [log_untouched]
        exact after_environment t₁ t₂ vars _ _ hsecond hapart hvars (.inr rfl)
          (log_after_file origin entries t₁ hfirst hnames hfile)

variable (read : Path → Content) (env : Environment) (path : Path) (given : Option String)

theorem load_gathered (origin : String) (entries : Toml.Entries)
    (hentries : entries? read path = some (origin, entries)) (result : Except Fault Table)
    (h : gather (Node.ofEntries origin entries) env given = result) :
    load read env path given = (do
      let table ← result
      let settings ← ofTable table
      settings.validate
      return settings) := by
  rw [load, fileSettings_entries read path origin entries hentries, ← h]
  rfl

/-- What loading comes to if the file is not broken. -/
theorem load_cases (vars : List (String × String)) (origin : String) (entries : Toml.Entries)
    (henv : env.texts? = some vars) (hapart : StayApart vars)
    (hentries : entries? read path = some (origin, entries))
    (hplain : Plainly (allKeys vars entries)) :
    (load read env path given = .error .noPlace ∧
      ∃ text ∈ allKeys vars entries, Misplaced text) ∨
    ((NoText (countedBaseUrl given vars origin entries) ∨
        NoText (countedLogDirectory vars origin entries)) ∧
      ∃ shape key from?, load read env path given = .error (.wrongShape shape key from?)) ∨
    ∃ s d, countedBaseUrl given vars origin entries = some (.text s) ∧
      countedLogDirectory vars origin entries = Option.map .text d ∧
      load read env path given =
        if isBaseUrl s then .ok ⟨s, d⟩ else .error (.invalidBaseUrl s) := by
  have hload := load_gathered read env path given origin entries hentries
  rcases gather_cases env given vars origin entries henv hapart
    (entries?_nodup read path origin entries hentries) hplain with
    ⟨hno, hmis⟩ | ⟨t, hgather, hbase, hlog⟩
  · exact .inl ⟨by rw [hload _ hno]; rfl, hmis⟩
  · refine .inr ?_
    obtain ⟨base, hsome⟩ := countedBaseUrl_some given vars origin entries
    rw [hsome] at hbase ⊢
    have hread : load read env path given = (do
        let settings ← ofTable t
        settings.validate
        return settings) := hload _ hgather
    rcases ofTable_cases t base _ hbase hlog with
      ⟨hnone, shape, key, from?, htable⟩ | ⟨s, d, rfl, hd, htable⟩
    · exact .inl ⟨hnone, shape, key, from?, by rw [hread, htable]; rfl⟩
    · refine .inr ⟨s, d, rfl, hd, ?_⟩
      rw [hread, htable, checked]

/-- Loading goes by what counts and by nothing else. A broken file is reported
whatever the environment and the given base URL are. Otherwise, where all keys have
places, the base URL and the log directory that count are refused if one is an
array or a table, then the base URL is checked, and then they are the result. -/
theorem load_decided :
    (∀ p text, selectedText? read path = some (p, text) → Toml.parse? text = none →
      load read env path given = .error (.brokenFile p.plain)) ∧
    ∀ vars origin entries, env.texts? = some vars → StayApart vars →
      entries? read path = some (origin, entries) → Plainly (allKeys vars entries) →
      (∀ text ∈ allKeys vars entries, ¬Misplaced text) →
      let base := countedBaseUrl given vars origin entries
      let log := countedLogDirectory vars origin entries
      ((∃ shape key from?, load read env path given = .error (.wrongShape shape key from?)) ↔
        NoText base ∨ NoText log) ∧
      (¬(NoText base ∨ NoText log) → ∃ s d, base = some (.text s) ∧ log = Option.map .text d ∧
        load read env path given =
          if isBaseUrl s then .ok ⟨s, d⟩ else .error (.invalidBaseUrl s)) := by
  constructor
  · intro p text hselected hbroken
    rw [load, fileSettings_selected, hselected]
    simp only [hbroken]
    rfl
  · intro vars origin entries henv hapart hentries hplain hplaced base log
    rcases load_cases read env path given vars origin entries henv hapart hentries hplain with
      ⟨-, text, htext, hmis⟩ | ⟨hnone, hshape⟩ | ⟨s, d, hs, hd, hresult⟩
    · exact absurd hmis (hplaced text htext)
    · exact ⟨⟨fun _ => hnone, fun _ => hshape⟩, fun htexts => absurd hnone htexts⟩
    · have htexts : ¬(NoText base ∨ NoText log) := by
        show ¬(NoText (countedBaseUrl given vars origin entries) ∨
          NoText (countedLogDirectory vars origin entries))
        rw [hs, hd]
        exact texts_not_noText s d
      refine ⟨⟨?_, fun hno => absurd hno htexts⟩, fun _ => ⟨s, d, hs, hd, hresult⟩⟩
      rintro ⟨shape, key, from?, hshape⟩
      rw [hresult] at hshape
      split at hshape <;> cases hshape

end

def oneFile (text : String) (p : Path) : Content :=
  if p = .ofText "c.toml" then .bytes (utf8 text) else .absent

def environmentOf (vars : List (String × String)) : Environment :=
  ⟨vars.map fun v => (utf8 v.1, utf8 v.2)⟩

def layeredVariables : List (String × String) :=
  [("HOME", "/h"), ("Chunkform_Base_Url", "http://[::1]:8080")]

def layeredFile : String := "base_url=[]\nlog_directory=7"

def holdsBoth (k l : String) (n : Int) : Option Toml.Entries → Bool
  | some [(k', .array []), (l', .integer n')] => k' == k && l' == l && n' == n
  | _ => false

theorem holdsBoth_entries (k l : String) (n : Int) (entries : Option Toml.Entries)
    (h : holdsBoth k l n entries = true) : entries = some [(k, .array []), (l, .integer n)] := by
  unfold holdsBoth at h
  split at h
  · simp only [Bool.and_eq_true, beq_iff_eq] at h
    obtain ⟨⟨rfl, rfl⟩, rfl⟩ := h
    rfl
  · cases h

theorem layeredFile_entries :
    Toml.parse? layeredFile = some [(baseUrlKey, .array []), (logDirectoryKey, .integer 7)] :=
  holdsBoth_entries _ _ _ _ (by decide +kernel)

theorem oneFile_entries (text : String) (entries : Toml.Entries)
    (htext : selectedText? (oneFile text) (.ofText "c.toml") = some (.ofText "c.toml", text))
    (h : Toml.parse? text = some entries) :
    entries? (oneFile text) (.ofText "c.toml") = some ("c.toml", entries) := by
  have hshown : (Path.ofText "c.toml").plain = "c.toml" := by decide
  rw [entries?, htext]
  simp only [h, Option.map_some, hshown]

section
attribute [local instance] Capacity.usual

/-- The base URL of the environment hides an array in the file, and nothing
hides that a file is broken. -/
theorem load_layers :
    load (oneFile layeredFile) (environmentOf layeredVariables) (.ofText "c.toml") none =
      .ok ⟨"http://[::1]:8080", some "7"⟩ ∧
    load (oneFile "base_url = ") (environmentOf layeredVariables) (.ofText "c.toml")
        (some "http://[::1]") =
      .error (.brokenFile (Path.ofText "c.toml").plain) := by
  have hbroken : Toml.parse? "base_url = " = none := by cbv
  have hfile := oneFile_entries layeredFile _ (by decide +kernel) layeredFile_entries
  have hvalid : isBaseUrl "http://[::1]:8080" = true := by decide +kernel
  have hbase : countedBaseUrl none layeredVariables "c.toml"
      [(baseUrlKey, .array []), (logDirectoryKey, .integer 7)] =
        some (.text "http://[::1]:8080") := by
    have hheld : held? layeredVariables baseUrlKey = some "http://[::1]:8080" := by decide +kernel
    rw [countedBaseUrl, hheld]
    rfl
  have hlog : countedLogDirectory layeredVariables "c.toml"
      [(baseUrlKey, .array []), (logDirectoryKey, .integer 7)] = some (.text "7") := by
    have hheld : held? layeredVariables logDirectoryKey = none := by decide +kernel
    rw [countedLogDirectory, hheld]
    rfl
  have hsteps : ∀ text ∈ allKeys layeredVariables
      [(baseUrlKey, .array []), (logDirectoryKey, .integer 7)], (Key.ofText text).steps = [] := by
    decide +kernel
  constructor
  · obtain ⟨-, hresult⟩ := (load_decided (oneFile layeredFile) (environmentOf layeredVariables)
      (.ofText "c.toml") none).2 layeredVariables "c.toml" _ (by decide +kernel)
      (by unfold StayApart; decide +kernel) hfile (by unfold Plainly; decide +kernel)
      fun text htext => plain_placed text (hsteps text htext)
    rw [hbase, hlog] at hresult
    obtain ⟨s, d, hs, hd, hload⟩ := hresult (texts_not_noText _ (some _))
    cases d with
    | none => cases hd
    | some d =>
      obtain rfl := Node.text.inj (Option.some.inj hs)
      obtain rfl := Node.text.inj (Option.some.inj hd)
      rw [hload, if_pos hvalid]
  · exact (load_decided _ _ _ _).1 (.ofText "c.toml") "base_url = " (by decide +kernel) hbroken

end

/-- A table without entries in the file is passed over, where any other table
would be refused. -/
theorem load_passes_over :
    Toml.parse? "base_url = \x7b\x7d\n" = some [(baseUrlKey, .table false [])] ∧
      ∀ [Capacity] shape key from?,
        load (oneFile "base_url = \x7b\x7d\n") (environmentOf [("HOME", "/h")])
            (.ofText "c.toml") none ≠ .error (.wrongShape shape key from?) := by
  have hparse : Toml.parse? "base_url = \x7b\x7d\n" = some [(baseUrlKey, .table false [])] := by
    cbv
  refine ⟨hparse, fun shape key from? hshape => ?_⟩
  have hentries := oneFile_entries "base_url = \x7b\x7d\n" _ (by decide +kernel) hparse
  rcases load_cases _ (environmentOf [("HOME", "/h")]) _ none [("HOME", "/h")] _ _
    (by decide +kernel) (by unfold StayApart; decide +kernel) hentries
    (by unfold Plainly; decide +kernel) with
    ⟨hno, -⟩ | ⟨hnone, -⟩ | ⟨s, d, -, -, hresult⟩
  · rw [hno] at hshape
    cases hshape
  · have hbase : countedBaseUrl none [("HOME", "/h")] "c.toml"
        [(baseUrlKey, .table false [])] = some (.text defaultBaseUrl) := by
      have hheld : held? [("HOME", "/h")] baseUrlKey = none := by decide +kernel
      rw [countedBaseUrl, hheld]
      rfl
    have hlog : countedLogDirectory [("HOME", "/h")] "c.toml"
        [(baseUrlKey, .table false [])] = none := by
      have hheld : held? [("HOME", "/h")] logDirectoryKey = none := by decide +kernel
      rw [countedLogDirectory, hheld]
      rfl
    rw [hbase, hlog] at hnone
    exact absurd hnone (texts_not_noText _ none)
  · rw [hresult] at hshape
    split at hshape <;> cases hshape

end MapClient.Settings
