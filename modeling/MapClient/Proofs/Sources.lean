import MapClient.Proofs.Merging
import MapClient.Proofs.WellFormed
import MapClient.Settings.Load

/-!
# What the sources say

The file that counts is found by its path, and has each key once. The variables
of the environment are settings by their names in small letters, and have each
key once if those names stay apart.
-/

set_option autoImplicit false

namespace MapClient.Settings

open MapClient.Files MapClient.Text

def selected? (read : Path → Content) (path : Path) : Option Path :=
  if read path = .absent then (path.withEnding? ".toml").filter fun p => read p != .absent
  else some path

def selectedText? (read : Path → Content) (path : Path) : Option (Path × String) :=
  (selected? read path).bind fun p =>
    match read p with
    | .bytes content => (ofUtf8? content).map fun text => (p, text)
    | .absent | .unreadable => none

/-- The entries of the file that counts, and how its path is shown. Without a
text there are no entries, and in a broken file they are not known. -/
def entries? (read : Path → Content) (path : Path) : Option (String × Toml.Entries) :=
  match selectedText? read path with
  | none => some ("", [])
  | some (p, text) => (Toml.parse? text).map fun entries => (p.plain, entries)

theorem findSource_selected (read : Path → Content) (path : Path) :
    (findSource read path).bind (fun source => source.text.map fun text => (source.path, text)) =
      selectedText? read path := by
  rw [findSource, candidates, List.findSome?_cons, selectedText?, selected?]
  cases hpath : read path with
  | bytes content => simp [Source.of?, hpath]
  | unreadable => simp [Source.of?, hpath]
  | absent =>
    rw [if_pos rfl]
    cases path.withEnding? ".toml" with
    | none => rfl
    | some p => cases hp : read p <;> simp [Source.of?, Option.filter, hp]

/-- The settings of the file that counts, or that it is broken. -/
theorem fileSettings_selected (read : Path → Content) (path : Path) :
    fileSettings read path =
      match selectedText? read path with
      | none => .ok []
      | some (p, text) =>
        match Toml.parse? text with
        | some entries => .ok (Node.ofEntries p.plain entries)
        | none => .error (.brokenFile p.plain) := by
  rw [← findSource_selected, fileSettings]
  cases findSource read path with
  | none => rfl
  | some source =>
    rw [Option.bind_some]
    dsimp only
    rw [Source.settings]
    cases source.text <;> rfl

theorem entries?_cases (read : Path → Content) (path : Path) (origin : String)
    (entries : Toml.Entries) (h : entries? read path = some (origin, entries)) :
    (selectedText? read path = none ∧ entries = []) ∨
    ∃ p text, selectedText? read path = some (p, text) ∧ Toml.parse? text = some entries ∧
      origin = p.plain := by
  rw [entries?] at h
  cases hs : selectedText? read path with
  | none =>
    rw [hs] at h
    exact .inl ⟨rfl, (Prod.mk.inj (Option.some.inj h)).2.symm⟩
  | some found =>
    rw [hs] at h
    obtain ⟨es, hparse, heq⟩ := Option.map_eq_some_iff.mp h
    obtain ⟨rfl, rfl⟩ := Prod.mk.inj heq
    exact .inr ⟨found.1, found.2, rfl, hparse, rfl⟩

theorem fileSettings_entries (read : Path → Content) (path : Path) (origin : String)
    (entries : Toml.Entries) (h : entries? read path = some (origin, entries)) :
    fileSettings read path = .ok (Node.ofEntries origin entries) := by
  rw [fileSettings_selected]
  rcases entries?_cases read path origin entries h with ⟨hs, rfl⟩ | ⟨p, text, hs, hparse, rfl⟩
  · rw [hs]
    rfl
  · rw [hs]
    simp only [hparse]

theorem distinctKeys_nodup (entries : Toml.Entries) (h : Toml.distinctKeys entries = true) :
    (entries.map Prod.fst).Nodup := by
  induction entries with
  | nil => exact List.nodup_nil
  | cons e entries ih =>
    simp only [Toml.distinctKeys, Bool.and_eq_true, Bool.not_eq_true'] at h
    refine List.nodup_cons.mpr ⟨fun hin => ?_, ih h.2⟩
    obtain ⟨f, hf, hkey⟩ := List.mem_map.mp hin
    have hany : entries.any (·.1 == e.1) = true := List.any_eq_true.mpr ⟨f, hf, by simp [hkey]⟩
    rw [h.1] at hany
    exact absurd hany (by decide)

/-- No key stands twice at the top of a file. -/
theorem parse?_nodup (text : String) (entries : Toml.Entries)
    (h : Toml.parse? text = some entries) : (entries.map Prod.fst).Nodup := by
  simp only [Toml.parse?, Option.bind_eq_bind, Option.bind_eq_some_iff] at h
  obtain ⟨ts, -, bs, -, es, -, hsound⟩ := h
  split at hsound
  · next hs =>
    obtain rfl := Option.some.inj hsound
    rw [Toml.Value.isSound, Bool.and_eq_true] at hs
    exact distinctKeys_nodup es hs.1
  · cases hsound

theorem entries?_nodup (read : Path → Content) (path : Path) (origin : String)
    (entries : Toml.Entries) (h : entries? read path = some (origin, entries)) :
    (entries.map Prod.fst).Nodup := by
  rcases entries?_cases read path origin entries h with ⟨-, rfl⟩ | ⟨p, text, -, hparse, -⟩
  · exact List.nodup_nil
  · exact parse?_nodup text entries hparse

theorem ofEntries_names (origin : String) (entries : Toml.Entries) :
    (Node.ofEntries origin entries).map Prod.fst = entries.map Prod.fst := by
  induction entries with
  | nil => rfl
  | cons e entries ih => rw [Node.ofEntries, List.map_cons, List.map_cons, ih]

theorem get?_ofEntries (origin k : String) (entries : Toml.Entries) :
    Table.get? k (Node.ofEntries origin entries) =
      (entries.lookup k).map (Node.ofValue origin) := by
  induction entries with
  | nil => rfl
  | cons e entries ih =>
    rw [Node.ofEntries, Table.get?_cons, ih, List.lookup_cons]
    by_cases hk : k = e.1
    · rw [if_pos hk, hk, beq_self_eq_true]
      rfl
    · rw [if_neg hk, beq_false_of_ne hk]

def held? (vars : List (String × String)) (key : String) : Option String :=
  (vars.find? fun v => lowerCase v.1.toList == Environment.settingMark ++ key.toList).map (·.2)

def StayApart (vars : List (String × String)) : Prop :=
  (vars.map fun v => lowerCase v.1.toList).Nodup

theorem settings?_texts (env : Environment) (vars : List (String × String))
    (h : env.texts? = some vars) :
    env.settings? = some (vars.filterMap Environment.setting?) := by
  rw [Environment.settings?, h, Option.map_some]

theorem setting?_iff (v : String × String) (key : String) (n : Node) :
    Environment.setting? v = some (key, n) ↔
      lowerCase v.1.toList = Environment.settingMark ++ key.toList ∧ n = .text v.2 := by
  rw [Environment.setting?, Option.map_eq_some_iff]
  constructor
  · rintro ⟨cs, hafter, heq⟩
    obtain ⟨rfl, rfl⟩ := Prod.mk.inj heq
    exact ⟨by rw [(after?_iff _ _ _).mp hafter, String.toList_ofList], rfl⟩
  · rintro ⟨hname, rfl⟩
    exact ⟨key.toList, (after?_iff _ _ _).mpr hname, by rw [String.ofList_toList]⟩

/-- The settings of the environment are found by their names. -/
theorem get?_settings (vars : List (String × String)) (key : String) :
    Table.get? key (vars.filterMap Environment.setting?) = (held? vars key).map .text := by
  induction vars with
  | nil => rfl
  | cons v vars ih =>
    rw [held?] at ih
    rw [held?, List.find?_cons]
    by_cases hname : lowerCase v.1.toList = Environment.settingMark ++ key.toList
    · have hsetting := (setting?_iff v key _).mpr ⟨hname, rfl⟩
      rw [List.filterMap_cons_some hsetting, Table.get?_cons, if_pos rfl, hname, beq_self_eq_true]
      rfl
    · rw [beq_false_of_ne hname, ← ih]
      cases hsetting : Environment.setting? v with
      | none => rw [List.filterMap_cons_none hsetting]
      | some e =>
        have hother : key ≠ e.1 := by
          rintro rfl
          exact hname ((setting?_iff v e.1 e.2).mp hsetting).1
        rw [List.filterMap_cons_some hsetting, Table.get?_cons, if_neg hother]

theorem settings_nodup (vars : List (String × String)) (h : StayApart vars) :
    ((vars.filterMap Environment.setting?).map Prod.fst).Nodup := by
  induction vars with
  | nil => exact List.nodup_nil
  | cons v vars ih =>
    obtain ⟨hnew, hrest⟩ := List.nodup_cons.mp h
    cases hsetting : Environment.setting? v with
    | none =>
      rw [List.filterMap_cons_none hsetting]
      exact ih hrest
    | some e =>
      rw [List.filterMap_cons_some hsetting, List.map_cons]
      refine List.nodup_cons.mpr ⟨fun hin => ?_, ih hrest⟩
      obtain ⟨f, hf, hkey⟩ := List.mem_map.mp hin
      obtain ⟨u, hu, husetting⟩ := List.mem_filterMap.mp hf
      have hv := ((setting?_iff v e.1 e.2).mp hsetting).1
      have hu' := ((setting?_iff u f.1 f.2).mp husetting).1
      exact hnew (List.mem_map.mpr ⟨u, hu, hu'.trans (hkey ▸ hv.symm)⟩)

end MapClient.Settings
