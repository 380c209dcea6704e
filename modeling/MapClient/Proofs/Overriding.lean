import MapClient.Proofs.Precedence

/-!
# A base URL that is given outright

A base URL that is given is put in its place last, over whatever stands there.
Nothing is then left of what the sources say about the base URL, and the rest of
what they say comes to the same with it and without it.
-/

set_option autoImplicit false

namespace MapClient.Settings

open MapClient.Files MapClient.Text

def elsewhere (source : List (String × Node)) : List (String × Node) :=
  source.filter fun e => (Key.ofText e.1).root != baseUrlKey

theorem elsewhere_base (e : String × Node) (source : List (String × Node))
    (h : (Key.ofText e.1).root = baseUrlKey) : elsewhere (e :: source) = elsewhere source := by
  rw [elsewhere, List.filter_cons, h, bne_self_eq_false]
  rfl

theorem elsewhere_other (e : String × Node) (source : List (String × Node))
    (h : (Key.ofText e.1).root ≠ baseUrlKey) :
    elsewhere (e :: source) = e :: elsewhere source := by
  rw [elsewhere, List.filter_cons, if_pos (bne_iff_ne.mpr h)]
  rfl

theorem textAt_eq (t t' : Table) (key : String) (h : t.get? key = t'.get? key) :
    textAt t key = textAt t' key := by
  rw [textAt, textAt, h]

def BasePlaced [Capacity] (source : List (String × Node)) : Prop :=
  ∀ e ∈ source, (Key.ofText e.1).root = baseUrlKey → ¬Misplaced e.1

namespace Table

def Agree (t t' : Table) : Prop := ∀ k, k ≠ baseUrlKey → t.get? k = t'.get? k

theorem Agree.symm {t t' : Table} (h : t.Agree t') : t'.Agree t := by
  intro k hk
  exact (h k hk).symm

theorem Agree.trans {t t' t'' : Table} (h : t.Agree t') (h' : t'.Agree t'') : t.Agree t'' := by
  intro k hk
  exact (h k hk).trans (h' k hk)

theorem insert_agree (t t' : Table) (key : String) (n : Node) (h : t.Agree t') :
    (t.insert key n).Agree (t'.insert key n) := by
  intro k hk
  rw [get?_insert, get?_insert, h k hk]

section
variable [Capacity]

theorem set_agree (t t' : Table) (key : Key) (value : Node) (h : t.Agree t')
    (hroot : key.root ≠ baseUrlKey) : Option.Rel Agree (t.set key value) (t'.set key value) := by
  have hold : t.get? key.root = t'.get? key.root := h key.root hroot
  rw [set, set]
  cases key.steps with
  | nil =>
    apply Option.Rel.some
    rw [assign_over, assign_over, hold]
    exact insert_agree t t' key.root _ h
  | cons step steps =>
    have hentry : t.entry key.root = t'.entry key.root := by rw [entry, entry, hold]
    dsimp only
    rw [hentry]
    cases Node.place value (step :: steps) (t'.entry key.root) with
    | none => exact .none
    | some inner => exact .some (insert_agree t t' key.root inner h)

/-- An entry that goes to the base URL changes nothing else. -/
theorem set_base (t : Table) (text : String) (value : Node)
    (hroot : (Key.ofText text).root = baseUrlKey) (hplaced : ¬Misplaced text) :
    ∃ t', t.set (.ofText text) value = some t' ∧ t'.Agree t := by
  have hsteps : ∀ step ∈ (Key.ofText text).steps, step.Placed := by
    intro step hstep
    by_contra hno
    exact hplaced ⟨step, hstep, hno⟩
  obtain ⟨t', ht⟩ := set_some (.ofText text) value t hsteps
  refine ⟨t', ht, ?_⟩
  intro k hk
  exact get?_set t k value _ t' ht (hroot ▸ hk)

/-- Whatever a source says about the base URL can as well be left out. -/
theorem merge_elsewhere (source : List (String × Node)) (t t' : Table) (h : t.Agree t')
    (hplaced : BasePlaced source) :
    Option.Rel Agree (t.merge source) (t'.merge (elsewhere source)) := by
  -- only the first table takes the entries for the base URL, and goes on agreeing
  induction source generalizing t t' with
  | nil => exact .some h
  | cons e source ih =>
    have hrest : BasePlaced source := fun f hf => hplaced f (List.mem_cons_of_mem e hf)
    rw [merge, List.foldlM_cons]
    by_cases hroot : (Key.ofText e.1).root = baseUrlKey
    · obtain ⟨between, hset, hagree⟩ :=
        set_base t e.1 e.2 hroot (hplaced e List.mem_cons_self hroot)
      rw [elsewhere_base e source hroot, hset]
      exact ih between t' (hagree.trans h) hrest
    · have hboth := set_agree t t' (.ofText e.1) e.2 h hroot
      rw [elsewhere_other e source hroot, merge, List.foldlM_cons]
      generalize t.set (.ofText e.1) e.2 = first at hboth
      generalize t'.set (.ofText e.1) e.2 = second at hboth
      cases hboth with
      | none => exact .none
      | some hagree => exact ih _ _ hagree hrest

theorem merge_agree (source source' : List (String × Node)) (t t' : Table) (h : t.Agree t')
    (hsame : elsewhere source = elsewhere source') (hplaced : BasePlaced source)
    (hplaced' : BasePlaced source') :
    Option.Rel Agree (t.merge source) (t'.merge source') := by
  -- what both sources say elsewhere, put into the second table, stands between the two
  have hfirst := merge_elsewhere source t t' h hplaced
  have hsecond := merge_elsewhere source' t' t' (fun _ _ => rfl) hplaced'
  rw [hsame] at hfirst
  generalize t.merge source = first at hfirst ⊢
  generalize t'.merge source' = second at hsecond ⊢
  generalize t'.merge (elsewhere source') = between at hfirst hsecond
  cases hfirst with
  | none =>
    cases hsecond with
    | none => exact .none
  | some hone =>
    cases hsecond with
    | some htwo => exact .some (hone.trans htwo.symm)

end

end Table

theorem ofTable_eq (t t' : Table) (h : t.Agree t')
    (hbase : t.get? baseUrlKey = t'.get? baseUrlKey) : ofTable t = ofTable t' := by
  have hlog : t.get? logDirectoryKey = t'.get? logDirectoryKey := h _ (by decide)
  rw [ofTable, ofTable, textAt_eq t t' _ hbase, textAt_eq t t' _ hlog]

def Table.withBase (t : Table) (u : String) : Table := t.assign baseUrlKey (.text u)

theorem withBase_base (t : Table) (u : String) :
    (t.withBase u).get? baseUrlKey = some (.text u) := by
  rw [Table.withBase, Table.get?_assign, if_pos rfl]
  rfl

theorem withBase_agree (t : Table) (u : String) : (t.withBase u).Agree t := by
  intro k hk
  rw [Table.withBase, Table.get?_assign, if_neg hk]

theorem ofTable_withBase (t t' : Table) (u : String) (h : t.Agree t') :
    ofTable (t.withBase u) = ofTable (t'.withBase u) := by
  apply ofTable_eq
  · exact ((withBase_agree t u).trans h).trans (withBase_agree t' u).symm
  · rw [withBase_base, withBase_base]

theorem ofTable_given (t : Table) (u : String) (settings : Settings)
    (h : ofTable (t.withBase u) = .ok settings) : settings.baseUrl = u := by
  have hbase : textAt (t.withBase u) baseUrlKey = .ok (some u) := by rw [textAt, withBase_base]
  rw [ofTable, hbase] at h
  change (do
    let logDirectory ← textAt (t.withBase u) logDirectoryKey
    pure (⟨u, logDirectory⟩ : Settings)) = .ok settings at h
  cases hlog : textAt (t.withBase u) logDirectoryKey with
  | error fault =>
    rw [hlog] at h
    cases h
  | ok d =>
    rw [hlog] at h
    obtain rfl := Except.ok.inj h
    rfl

/-- To give the base URL that was read anyway changes nothing. -/
theorem ofTable_again (t : Table) (settings : Settings) (h : ofTable t = .ok settings) :
    ofTable (t.withBase settings.baseUrl) = .ok settings := by
  have hagree : Table.Agree (t.withBase settings.baseUrl) t := withBase_agree t _
  have hlog := textAt_eq _ _ logDirectoryKey (hagree logDirectoryKey (by decide))
  rw [ofTable, textAt, withBase_base, hlog]
  rw [ofTable] at h
  cases hbase : textAt t baseUrlKey with
  | error fault =>
    rw [hbase] at h
    cases h
  | ok b =>
    rw [hbase] at h
    cases b with
    | none => cases h
    | some s =>
      cases hd : textAt t logDirectoryKey with
      | error fault =>
        rw [hd] at h
        cases h
      | ok d =>
        rw [hd] at h
        obtain rfl := Except.ok.inj h
        rfl

def checkedTable (t : Table) : Except Fault Settings := do
  let settings ← ofTable t
  settings.validate
  return settings

theorem checkedTable_given (t : Table) (u : String) (settings : Settings)
    (h : checkedTable (t.withBase u) = .ok settings) : settings.baseUrl = u := by
  cases hread : ofTable (t.withBase u) with
  | error fault =>
    rw [checkedTable, hread] at h
    cases h
  | ok s =>
    rw [checkedTable, hread, checked] at h
    split at h
    · obtain rfl := Except.ok.inj h
      exact ofTable_given t u s hread
    · cases h

theorem checkedTable_again (t : Table) (settings : Settings)
    (h : checkedTable t = .ok settings) :
    checkedTable (t.withBase settings.baseUrl) = .ok settings := by
  cases hread : ofTable t with
  | error fault =>
    rw [checkedTable, hread] at h
    cases h
  | ok s =>
    rw [checkedTable, hread, checked] at h
    split at h
    · next hvalid =>
      obtain rfl := Except.ok.inj h
      rw [checkedTable, ofTable_again t s hread, checked, if_pos hvalid]
    · cases h

section
variable [Capacity] (read read' : Path → Content) (env env' : Environment) (path path' : Path)
  (file file' added added' : List (String × Node))

def mergeBoth (file added : List (String × Node)) : Option Table :=
  (defaults.merge file).bind fun t => t.merge added

theorem load_merged (given : Option String) (hfile : fileSettings read path = .ok file)
    (henv : env.settings? = some added) :
    load read env path given =
      match mergeBoth file added with
      | none => .error .noPlace
      | some t => checkedTable (given.elim t t.withBase) := by
  rw [load, hfile, mergeBoth]
  change (do
    let table ← gather file env given
    checkedTable table) = _
  cases hfirst : defaults.merge file with
  | none =>
    rw [gather, hfirst]
    rfl
  | some table =>
    rw [gather_merged file added env given table hfirst henv, Option.bind_some]
    cases table.merge added <;> rfl

theorem load_merged_ok (given : Option String) (t : Table) (settings : Settings)
    (hfile : fileSettings read path = .ok file) (henv : env.settings? = some added)
    (hmerge : mergeBoth file added = some t)
    (hread : ofTable (given.elim t t.withBase) = .ok settings)
    (hvalid : isBaseUrl settings.baseUrl = true) : load read env path given = .ok settings := by
  rw [load_merged read env path file added given hfile henv, hmerge]
  change checkedTable (given.elim t t.withBase) = _
  rw [checkedTable, hread, checked, if_pos hvalid]

theorem mergeBoth_agree (hfile : elsewhere file = elsewhere file')
    (hadded : elsewhere added = elsewhere added') (hplaced : BasePlaced (file ++ added))
    (hplaced' : BasePlaced (file' ++ added')) :
    Option.Rel Table.Agree (mergeBoth file added) (mergeBoth file' added') := by
  have hfirst := Table.merge_agree file file' defaults defaults (fun _ _ => rfl) hfile
    (fun e he => hplaced e (List.mem_append_left added he))
    (fun e he => hplaced' e (List.mem_append_left added' he))
  rw [mergeBoth, mergeBoth]
  generalize defaults.merge file = first at hfirst ⊢
  generalize defaults.merge file' = second at hfirst ⊢
  cases hfirst with
  | none => exact .none
  | some hagree =>
    exact Table.merge_agree added added' _ _ hagree hadded
      (fun e he => hplaced e (List.mem_append_right file he))
      (fun e he => hplaced' e (List.mem_append_right file' he))

/-- A load that succeeds has a file that is not broken and variables that are
texts. -/
theorem load_sources (given : Option String) (settings : Settings)
    (h : load read env path given = .ok settings) :
    ∃ file added, fileSettings read path = .ok file ∧ env.settings? = some added := by
  rw [load] at h
  cases hfile : fileSettings read path with
  | error fault =>
    rw [hfile] at h
    cases h
  | ok file =>
    rw [hfile] at h
    cases henv : env.settings? with
    | some added => exact ⟨file, added, rfl, rfl⟩
    | none =>
      change (do
        let table ← gather file env given
        checkedTable table) = .ok settings at h
      rw [gather, henv] at h
      cases hfirst : defaults.merge file <;> rw [hfirst] at h <;> cases h

/-- A base URL that is given makes what the sources say about the base URL
irrelevant: two loads of sources that say the same elsewhere come to the same
settings or to the same fault. And to give the base URL that is loaded without
one changes nothing. -/
theorem load_outright (u : String) :
    (fileSettings read path = .ok file → fileSettings read' path' = .ok file' →
      env.settings? = some added → env'.settings? = some added' →
      elsewhere file = elsewhere file' → elsewhere added = elsewhere added' →
      BasePlaced (file ++ added) → BasePlaced (file' ++ added') →
      load read env path (some u) = load read' env' path' (some u) ∧
        ∀ settings, load read env path (some u) = .ok settings → settings.baseUrl = u) ∧
    ∀ settings, load read env path none = .ok settings →
      load read env path (some settings.baseUrl) = .ok settings := by
  constructor
  · intro hfile hfile' henv henv' hsame hsame' hplaced hplaced'
    have hboth := mergeBoth_agree file file' added added' hsame hsame' hplaced hplaced'
    rw [load_merged read env path file added (some u) hfile henv,
      load_merged read' env' path' file' added' (some u) hfile' henv']
    generalize mergeBoth file added = first at hboth ⊢
    generalize mergeBoth file' added' = second at hboth ⊢
    cases hboth with
    | none => exact ⟨rfl, fun _ h => by cases h⟩
    | @some t t' hagree =>
      refine ⟨?_, fun settings h => checkedTable_given t u settings h⟩
      change checkedTable (t.withBase u) = checkedTable (t'.withBase u)
      rw [checkedTable, checkedTable, ofTable_withBase t t' u hagree]
  · intro settings h
    obtain ⟨file, added, hfile, henv⟩ := load_sources read env path none settings h
    rw [load_merged read env path file added none hfile henv] at h
    rw [load_merged read env path file added (some settings.baseUrl) hfile henv]
    cases hmerge : mergeBoth file added with
    | none =>
      rw [hmerge] at h
      cases h
    | some t =>
      rw [hmerge] at h
      exact checkedTable_again t settings h

end

def strayVariables : List (String × String) := [("HOME", "/h"), ("CHUNKFORM_BASE_URL.X", "1")]

def plainVariables : List (String × String) :=
  [("HOME", "/h"), ("CHUNKFORM_BASE_URL", "http://[::1]")]

theorem oneFile_selected (text : String) :
    selectedText? (oneFile text) (.ofText "c.toml") = some (.ofText "c.toml", text) := by
  have hread : oneFile text (.ofText "c.toml") = .bytes (utf8 text) := if_pos rfl
  have hselected : selected? (oneFile text) (.ofText "c.toml") = some (.ofText "c.toml") := by
    rw [selected?, hread, if_neg Content.noConfusion]
  rw [selectedText?, hselected, Option.bind_some, hread]
  simp only [ofUtf8?_utf8, Option.map_some]

theorem loopback_valid : isBaseUrl "http://[::1]" = true := by decide +kernel

theorem layered_settings :
    fileSettings (oneFile layeredFile) (.ofText "c.toml") = .ok (Node.ofEntries "c.toml"
      [(baseUrlKey, .array []), (logDirectoryKey, .integer 7)]) := by
  apply fileSettings_entries
  exact oneFile_entries layeredFile _ (oneFile_selected _) layeredFile_entries

theorem basePlaced_names [Capacity] (source : List (String × Node))
    (h : ∀ text ∈ source.map Prod.fst, ∀ step ∈ (Key.ofText text).steps, ∃ name,
      step = .child name) : BasePlaced source := by
  rintro e he - ⟨step, hstep, hno⟩
  obtain ⟨name, rfl⟩ := h e.1 (List.mem_map_of_mem he) step hstep
  exact hno trivial

theorem child_names : ∀ text ∈ [baseUrlKey, logDirectoryKey, "base_url.x"],
    ∀ step ∈ (Key.ofText text).steps, ∃ name, step = .child name := by
  have hsteps : ∀ text ∈ [baseUrlKey, logDirectoryKey, "base_url.x"],
      (Key.ofText text).steps = [] ∨ (Key.ofText text).steps = [.child "x"] := by
    decide
  intro text htext step hstep
  rcases hsteps text htext with hnone | hone
  · simp [hnone] at hstep
  · exact ⟨"x", by simpa [hone] using hstep⟩

section
attribute [local instance] Capacity.usual

/-- The array and the table are both gone, and a base URL that was loaded can be
given again. -/
theorem stray_overridden :
    load (oneFile layeredFile) (environmentOf strayVariables) (.ofText "c.toml")
        (some "http://[::2]") =
      load (oneFile layeredFile) (environmentOf plainVariables) (.ofText "c.toml")
        (some "http://[::2]") ∧
    load (oneFile layeredFile) (environmentOf plainVariables) (.ofText "c.toml")
        (some "http://[::1]") = .ok ⟨"http://[::1]", some "7"⟩ := by
  have hstray : (environmentOf strayVariables).settings? = some [("base_url.x", .text "1")] := by
    cbv
  have hplain : (environmentOf plainVariables).settings? =
      some [(baseUrlKey, .text "http://[::1]")] := by
    cbv
  constructor
  · apply ((load_outright (oneFile layeredFile) (oneFile layeredFile)
      (environmentOf strayVariables) (environmentOf plainVariables) (.ofText "c.toml")
      (.ofText "c.toml") _ _ _ _ "http://[::2]").1 layered_settings layered_settings hstray
      hplain rfl rfl ?_ ?_).1
    · apply basePlaced_names
      intro text htext
      apply child_names
      simpa [Node.ofEntries] using htext
    · apply basePlaced_names
      intro text htext
      apply child_names
      have hnames : text = baseUrlKey ∨ text = logDirectoryKey := by
        simpa [Node.ofEntries, or_comm] using htext
      rcases hnames with rfl | rfl <;> simp
  · apply (load_outright (oneFile layeredFile) (oneFile layeredFile)
      (environmentOf plainVariables) (environmentOf plainVariables) (.ofText "c.toml")
      (.ofText "c.toml") [] [] [] [] "http://[::1]").2 ⟨"http://[::1]", some "7"⟩
    exact load_merged_ok _ _ _ _ _ none _ _ layered_settings hplain rfl rfl loopback_valid

end

def farBaseUrl : List (String × String) :=
  [("HOME", "/h"), ("CHUNKFORM_BASE_URL[9223372036854775807]", "1")]

/-- An index without a place breaks a load off, although it belongs to the base
URL and another one is given. -/
theorem load_outright_breaks :
    Key.ofText "base_url[9223372036854775807]" =
      ⟨baseUrlKey, [.element farIndex]⟩ ∧
    (environmentOf farBaseUrl).settings? =
      some [("base_url[9223372036854775807]", .text "1")] ∧
    (environmentOf [("HOME", "/h")]).settings? = some [] ∧
    (∀ [Capacity],
      load (oneFile "") (environmentOf farBaseUrl) (.ofText "c.toml") (some "http://[::1]") =
        .error .noPlace) ∧
    ∀ [Capacity],
      load (oneFile "") (environmentOf [("HOME", "/h")]) (.ofText "c.toml")
        (some "http://[::1]") = .ok ⟨"http://[::1]", none⟩ := by
  have hfile : fileSettings (oneFile "") (.ofText "c.toml") = .ok (Node.ofEntries "c.toml" []) := by
    apply fileSettings_entries
    exact oneFile_entries "" _ (oneFile_selected _) (by cbv)
  have hfar : (environmentOf farBaseUrl).settings? =
      some [("base_url[9223372036854775807]", .text "1")] := by
    cbv
  have hplain : (environmentOf [("HOME", "/h")]).settings? = some [] := by cbv
  have hkey : Key.ofText "base_url[9223372036854775807]" = ⟨baseUrlKey, [.element farIndex]⟩ := by
    cbv
  refine ⟨hkey, hfar, hplain, ?_, ?_⟩
  · intro _
    have hmerge : defaults.merge [("base_url[9223372036854775807]", .text "1")] = none := by
      rw [Table.merge_step, hkey, Table.set_far]
      rfl
    rw [load_merged _ _ _ _ _ _ hfile hfar]
    have hboth : mergeBoth (Node.ofEntries "c.toml" [])
        [("base_url[9223372036854775807]", .text "1")] = none := hmerge
    rw [hboth]
  · intro _
    exact load_merged_ok _ _ _ _ _ _ _ _ hfile hplain rfl rfl loopback_valid

end MapClient.Settings
