import MapClient.Proofs.Endpoints
import MapClient.Proofs.Targets

/-!
# Which base URLs are valid

A URL of the web names a host, however its authority is written: slashes are
passed over, a user or a port cannot stand alone, and a name of which nothing is
left is refused. So the scheme alone decides which URLs can be a base, and what
is no base comes back in the fault as it was given.
-/

set_option autoImplicit false

namespace MapClient

namespace Url

theorem Host.Sound.written {host : Host} (h : host.Sound) : host.render ≠ [] := by
  cases host with
  | name text => exact h.1
  | ipv4 address => simp [Host.render, Ipv4.render]
  | ipv6 numbers => exact List.cons_ne_nil _ _

/-- Reading the host of a web URL refuses an empty text and every text that
comes to an empty name. -/
theorem readHost_sound (cs : List Char) (host : Host) (h : readHost .web cs = .ok host) :
    host.Sound := by
  by_cases hnone : cs = []
  · rw [hnone] at h
    cases h
  · rw [readHost_web cs hnone] at h
    exact netHost_sound cs host h

theorem readAfterSlashes_host (scheme cs : List Char) (u : Url)
    (hkind : SchemeKind.of scheme = .web) (h : readAfterSlashes scheme cs = .ok u) :
    ∃ a, u.authority = some a ∧ a.host.Sound := by
  rw [readAfterSlashes, stages_ok] at h
  obtain ⟨⟨authority, left⟩, hread, h⟩ := h
  obtain rfl := Except.ok.inj h
  have hhost := ((readAuthority_iff scheme _ _ authority left).mp hread).2.1
  rw [hkind] at hhost
  exact ⟨authority, rfl, readHost_sound _ _ hhost⟩

theorem parse_host (s : String) (u : Url) (h : parse s = .ok u)
    (hkind : SchemeKind.of u.scheme = .web) : ∃ a, u.authority = some a ∧ a.host.Sound := by
  unfold parse at h
  split at h
  · cases h
  · rename_i scheme rest hscheme
    obtain rfl := readAfterScheme_scheme scheme rest u h
    rw [readAfterScheme, hkind] at h
    exact readAfterSlashes_host u.scheme _ u hkind h

theorem parse_names (s : String) (u : Url) (h : parse s = .ok u) (hhttp : u.isHttp = true) :
    ∃ host, u.host? = some host ∧ host.render ≠ [] := by
  obtain ⟨a, ha, hsound⟩ := parse_host s u h (isHttp_web u hhttp)
  refine ⟨a.host, ?_, hsound.written⟩
  rw [host?, ha, Option.map_some, Option.filter_some]
  simp [host_nonempty a.host hsound]

end Url

namespace Settings

theorem isBaseUrl_iff (s : String) :
    isBaseUrl s = true ↔ ∃ u, Url.parse s = .ok u ∧ u.isHttp = true := by
  constructor
  · intro h
    obtain ⟨u, -, hparse, hhttp, -⟩ := Url.isBaseUrl_read s h
    exact ⟨u, hparse, hhttp⟩
  · rintro ⟨u, hparse, hhttp⟩
    obtain ⟨a, ha, hsound⟩ := Url.parse_host s u hparse (Url.isHttp_web u hhttp)
    rw [isBaseUrl, hparse]
    simp [hhttp, hasHost, ha, Url.host_nonempty a.host hsound]

theorem validate_ok (s : Settings) : s.validate = .ok () ↔ isBaseUrl s.baseUrl = true := by
  rw [validate]
  split <;> simp_all

/-- What is loaded was checked. -/
theorem load_validated [Capacity] (read : Files.Path → Files.Content) (env : Environment)
    (path : Files.Path) (given : Option String) (settings : Settings)
    (h : load read env path given = .ok settings) : settings.validate = .ok () := by
  rw [load] at h
  obtain ⟨file, -, h⟩ := (stages_ok _ _ _).mp h
  obtain ⟨table, -, h⟩ := (stages_ok _ _ _).mp h
  obtain ⟨found, -, h⟩ := (stages_ok _ _ _).mp h
  obtain ⟨⟨⟩, hvalid, h⟩ := (stages_ok _ _ _).mp h
  obtain rfl := Except.ok.inj h
  exact hvalid

/-- Settings are valid just if their base URL is a URL with the scheme `http` or
`https`, which then has a host that is not empty; all others are refused with the
base URL as it stands in them. So what is loaded has such a base URL. -/
theorem validity_by_scheme (s : Settings) :
    (s.validate = .ok () ↔ ∃ u, Url.parse s.baseUrl = .ok u ∧
      (u.scheme = "http".toList ∨ u.scheme = "https".toList)) ∧
    (∀ u, Url.parse s.baseUrl = .ok u →
      (u.scheme = "http".toList ∨ u.scheme = "https".toList) →
        hasHost u = true ∧ ∃ host, u.host? = some host ∧ host.render ≠ []) ∧
    (s.validate ≠ .ok () → s.validate = .error (.invalidBaseUrl s.baseUrl)) ∧
    ∀ [Capacity] (read : Files.Path → Files.Content) (env : Environment) (path : Files.Path)
      (given : Option String), load read env path given = .ok s →
        ∃ u host, Url.parse s.baseUrl = .ok u ∧
          (u.scheme = "http".toList ∨ u.scheme = "https".toList) ∧
          u.host? = some host ∧ host.render ≠ [] := by
  have hhttp (u : Url) :
      (u.scheme = "http".toList ∨ u.scheme = "https".toList) ↔ u.isHttp = true := by
    simp [Url.isHttp]
  simp only [hhttp]
  have hvalid : s.validate = .ok () ↔ ∃ u, Url.parse s.baseUrl = .ok u ∧ u.isHttp = true :=
    (validate_ok s).trans (isBaseUrl_iff s.baseUrl)
  refine ⟨hvalid, ?_, ?_, ?_⟩
  · intro u hparse hu
    refine ⟨?_, Url.parse_names s.baseUrl u hparse hu⟩
    obtain ⟨a, ha, hsound⟩ := Url.parse_host s.baseUrl u hparse (Url.isHttp_web u hu)
    simp [hasHost, ha, Url.host_nonempty a.host hsound]
  · intro h
    rw [validate, if_neg]
    exact fun hbase => h ((validate_ok s).mpr hbase)
  · intro _ read env path given hload
    obtain ⟨u, hparse, hu⟩ := hvalid.mp (load_validated read env path given s hload)
    obtain ⟨host, hhost, hwritten⟩ := Url.parse_names s.baseUrl u hparse hu
    exact ⟨u, host, hparse, hu, hhost, hwritten⟩

end Settings

end MapClient
