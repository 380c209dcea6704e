import MapClient.Proofs.ApiPaths
import MapClient.Proofs.Loading
import MapClient.Proofs.Targets

/-!
# Bases that cannot be used

A base that is a URL can still be one that nothing is requested from: blanks
that were trimmed come to stand behind an authority, a name holds characters
that a request cannot, or the URL is too long. Every other base can be used,
and only a redirect can then lead to a URL that cannot.
-/

set_option autoImplicit false

namespace MapClient

open MapClient.Http MapClient.Text MapClient.Transport

namespace Url

theorem isTarget_web (u : Url) (a : Authority) (hhttp : u.isHttp = true)
    (ha : u.authority = some a) (hinfo : a.Encoded) (hhost : a.host.Sound) :
    u.isTarget = true ↔ u.toChars.length ≤ lengthLimit ∧ a.host.isNameable = true := by
  have hscheme : u.scheme.length ≤ 64 := by
    simp only [isHttp, Bool.or_eq_true, beq_iff_eq] at hhttp
    rcases hhttp with h | h <;> rw [h] <;> decide
  simp [isTarget, ha, host_nonempty a.host hhost, hscheme, authority_accepted a hinfo hhost]

namespace Joint

variable {base : String} (j : Joint base)

theorem host_sound : j.authority.host.Sound := by
  have hkind : SchemeKind.of j.scheme = .web := by
    rcases j.http with h | h <;> rw [h] <;> decide
  have hhost := ((readAuthority_iff _ _ _ _ _).mp j.read).2.1
  rw [hkind] at hhost
  by_cases hnone : (splitPort false (splitUserInfo j.text).2).1 = []
  · rw [hnone] at hhost
    cases hhost
  · rw [readHost_web _ hnone] at hhost
    exact netHost_sound _ _ hhost

theorem encoded : j.authority.Encoded := by
  obtain ⟨-, -, -, -, -, hinfo⟩ := (readAuthority_iff _ _ _ _ _).mp j.read
  obtain ⟨huser, hpassword⟩ := Prod.mk.inj hinfo
  exact ⟨huser ▸ encode_userInfo _, hpassword ▸ encode_userInfo _⟩

end Joint

end Url

namespace Transport

theorem takeCredentials_authority (u : Url) (a : Url.Authority) (ha : u.authority = some a)
    (hinfo : a.Encoded) :
    ∃ b, (takeCredentials u).1.authority = some b ∧ b.host = a.host ∧ b.Encoded := by
  simp only [takeCredentials, ha]
  split
  · exact ⟨a, ha, rfl, hinfo⟩
  · exact ⟨_, rfl, rfl, by simp [Url.Authority.Encoded]⟩

def Nameable (u : Url) (a : Url.Authority) : Prop :=
  (takeCredentials u).1.toChars.length ≤ Url.lengthLimit ∧ a.host.isNameable = true

/-- There is a request for a web URL if and only if it can be named. -/
theorem prepare_web (client : Client) (text : String) (payload : Option Payload) (u : Url)
    (a : Url.Authority) (hu : Url.parse text = .ok u) (hhttp : u.isHttp = true)
    (ha : u.authority = some a) (hinfo : a.Encoded) (hhost : a.host.Sound) :
    (Nameable u a → ∃ request, prepare client text payload = .ok request) ∧
    (¬Nameable u a →
      prepare client text payload = .error (.untargetable (takeCredentials u).1.render)) := by
  obtain ⟨b, hb, hsame, hencoded⟩ := takeCredentials_authority u a ha hinfo
  have hhttp' : (takeCredentials u).1.isHttp = true := by
    rw [Url.isHttp, (takeCredentials_server u).1]
    exact hhttp
  have htarget : (takeCredentials u).1.isTarget = true ↔ Nameable u a := by
    rw [Url.isTarget_web _ b hhttp' hb hencoded (hsame ▸ hhost), hsame, Nameable]
  have hnamed : u.host? ≠ none := by
    simp [Url.host?, ha, Url.host_nonempty a.host hhost]
  rw [← htarget]
  simp only [prepare, hu, if_neg hnamed, hhttp']
  constructor
  · intro h
    rw [h]
    exact ⟨_, rfl⟩
  · intro h
    rw [Bool.eq_false_of_not_eq_true h]
    rfl

end Transport

inductive Unusable (base path : String) : Prop
  | apart (hblank : Url.endsBlank base = true) (hbare : Url.bareAuthority base = true)
  | unnameable (u : Url) (host : Url.Host) (hu : Url.parse base = .ok u)
      (hhost : u.host? = some host) (h : host.isNameable = false)
  | long (v : Url) (hv : Url.parse (Submitter.trimSlashes base ++ path) = .ok v)
      (h : Url.lengthLimit < (takeCredentials v).1.toChars.length)

def Transport.Failure.IsBuilder (f : Failure) : Prop := Flag.builder ∈ f.flags

instance (f : Failure) : Decidable f.IsBuilder :=
  inferInstanceAs (Decidable (Flag.builder ∈ f.flags))

@[simp]
theorem Transport.Failure.isBuilder_iff (f : Failure) :
    f.IsBuilder ↔ (∃ fault, f = .malformedUrl fault) ∨ (∃ url, f = .refusedScheme url) ∨
      ∃ url, f = .untargetable url := by
  cases f <;> simp [IsBuilder, flags]

namespace Url.Joint

variable {base : String} (j : Joint base) (c : Collection)

theorem isHttp : (j.joined c).isHttp = true := by
  show (j.scheme == "http".toList || j.scheme == "https".toList) = true
  simpa using j.http

theorem unusable_iff (htogether : j.tail = [] → j.spare = [])
    (hv : parse (Submitter.trimSlashes base ++ c.path) = .ok (j.joined c)) :
    Unusable base c.path ↔ ¬Nameable (j.joined c) j.authority := by
  have hhost : j.alone.host? = some j.authority.host := by
    show (some j.authority.host).filter (fun h => !h.isEmpty) = _
    simp [host_nonempty _ j.host_sound]
  constructor
  · rintro (⟨hblank, hbare⟩ | ⟨u, host, hu, hname, h⟩ | ⟨v, hv', h⟩) ⟨hshort, hnameable⟩
    · exact j.spare_iff.mpr hblank (htogether (j.bare_iff.mp hbare).1)
    · obtain rfl : j.alone = u := Except.ok.inj (j.parsed.symm.trans hu)
      obtain rfl := Option.some.inj (hhost.symm.trans hname)
      rw [hnameable] at h
      cases h
    · obtain rfl := Except.ok.inj (hv.symm.trans hv')
      omega
  · intro h
    by_cases hshort : (takeCredentials (j.joined c)).1.toChars.length ≤ lengthLimit
    · exact .unnameable j.alone j.authority.host j.parsed hhost
        (by simpa using fun hnameable => h ⟨hshort, hnameable⟩)
    · exact .long (j.joined c) hv (by omega)

end Url.Joint

namespace Submitter

/-- A base URL can be used unless it is one of those named above. -/
theorem prepare_base (client : Client) (base : String) (c : Collection)
    (payload : Option Payload) (hbase : Settings.isBaseUrl base = true) :
    (Unusable base c.path → ∃ failure, failure.IsBuilder ∧
      prepare client (trimSlashes base ++ c.path) payload = .error failure) ∧
    (¬Unusable base c.path → ∃ request,
      prepare client (trimSlashes base ++ c.path) payload = .ok request) := by
  obtain ⟨j⟩ := Url.joint base hbase
  cases hv : Url.parse (trimSlashes base ++ c.path) with
  | error fault =>
    have hspare : j.tail = [] ∧ j.spare ≠ [] := by
      by_contra hnot
      have hpath : c.path = .ofList ('/' :: c.path.toList.tail) := by cases c <;> rfl
      rw [hpath, j.before (fun hnone => by simpa [hnone] using hnot)] at hv
      cases hv
    have hunusable : Unusable base c.path := .apart (j.spare_iff.mp hspare.2)
      (j.bare_iff.mpr ⟨hspare.1, j.bare hspare.2⟩)
    refine ⟨fun _ => ⟨.malformedUrl fault, by simp, ?_⟩,
      fun h => absurd hunusable h⟩
    simp only [prepare, hv]
  | ok v =>
    obtain ⟨htogether, rfl⟩ := j.joined_read c v hv
    have hprepare := prepare_web client _ payload _ j.authority hv (j.isHttp c) rfl j.encoded
      j.host_sound
    rw [j.unusable_iff c htogether hv, not_not]
    exact ⟨fun h => ⟨_, by simp, hprepare.2 h⟩, hprepare.1⟩

end Submitter

namespace Transport

theorem turn_over_builder (client : Client) (request : Request) (bytes : List UInt8)
    (failure : Failure) (h : turn client request bytes = .over (.error failure)) :
    ¬failure.IsBuilder := by
  have hbody : ∀ answer : Answer,
      answer.load client.reader = .error failure → ¬failure.IsBuilder := by
    intro answer hload
    unfold Answer.load at hload
    split at hload
    · obtain rfl := Except.error.inj hload
      simp
    · cases hload
  unfold turn at h
  rcases readAnswer_cases client.reader request bytes with ⟨fault, hread⟩ | ⟨answer, hread⟩
  · rw [hread] at h
    obtain rfl := Except.error.inj (Turn.over.inj h)
    simp
  · rw [hread] at h
    dsimp only at h
    split at h
    · exact hbody answer (Turn.over.inj h)
    · cases h

theorem course_unsent (client : Client) (unreached : Network) (redirects : Nat)
    (request : Request) (script : Script)
    (h : (course client unreached redirects request script).sent = []) :
    ∃ fault, (course client unreached redirects request script).result =
      .error (.unconnected request.url.render fault) := by
  cases hu : unreached request.url with
  | none =>
    have hfirst := course_first client unreached redirects request script hu
    rw [h] at hfirst
    cases hfirst
  | some fault =>
    exact ⟨fault, by rw [course_unreached client unreached redirects request script fault hu]⟩

def SentAway (client : Client) (requests : List Request) (script : Script) : Prop :=
  ∃ request head rest how url, requests.getLast? = some request ∧
    requests.length ≤ redirectLimit ∧
    Announced client.reader.headRoom (script.getD (requests.length - 1) World.blankAnswer) head
      rest ∧
    framing head = .ok how ∧ redirection? client request head = some url ∧ url.isHttp = false

end Transport

namespace Submitter

/-- The answer to the last request decides the result. -/
theorem last_turn (s : Submitter) (env : Surroundings) (o : Operation) (w : World) (r : Request)
    (hlast : (s.courseIn env o w).sent.getLast? = some r) :
    let bytes := w.script.getD ((s.courseIn env o w).sent.length - 1) World.blankAnswer
    (∀ result, turn s.client r bytes = .over result → (s.courseIn env o w).result = result) ∧
    ∀ url, turn s.client r bytes = .elsewhere url →
      ∃ failure, (s.courseIn env o w).result = .error failure ∧
        Declined env.unreached redirectLimit ((s.courseIn env o w).sent.length - 1) r url
          failure := by
  intro bytes
  have hlength : 0 < (s.courseIn env o w).sent.length :=
    List.length_pos_of_mem (List.mem_of_getLast? hlast)
  have hgoes := s.courseIn_continues env o w _ r (List.getLast?_eq_getElem? ▸ hlast)
  constructor
  · intro result hturn
    rw [hturn] at hgoes
    exact hgoes.2
  · intro url hturn
    rw [hturn] at hgoes
    rcases hgoes with hnext | ⟨-, hdeclined⟩
    · obtain ⟨hpast, -⟩ := List.getElem?_eq_some_iff.mp hnext
      omega
    · exact hdeclined

/-- A prepared operation fails for its URL only if it is sent to one. -/
theorem builder_iff (s : Submitter) (env : Surroundings) (o : Operation) (w : World)
    (request : Request)
    (hp : prepare s.client (s.endpoint o.path) (o.payload (env.boundaries w.drawn)) =
      .ok request) :
    (∃ failure, failure.IsBuilder ∧ (s.courseIn env o w).result = .error failure) ↔
      SentAway s.client (s.courseIn env o w).sent w.script := by
  -- either way the answer to the last request decides
  constructor
  · rintro ⟨failure, hbuilder, hresult⟩
    cases hlast : (s.courseIn env o w).sent.getLast? with
    | none =>
      have hnone := List.getLast?_eq_none_iff.mp hlast
      rw [courseIn, course, hp] at hnone hresult
      obtain ⟨fault, hfault⟩ := course_unsent _ _ _ _ _ hnone
      obtain rfl := Except.error.inj (hresult.symm.trans hfault)
      simp at hbuilder
    | some r =>
      obtain ⟨hover, helse⟩ := s.last_turn env o w r hlast
      have hlength := List.length_pos_of_mem (List.mem_of_getLast? hlast)
      cases hturn : turn s.client r (w.script.getD ((s.courseIn env o w).sent.length - 1)
          World.blankAnswer) with
      | «over» result =>
        obtain rfl := (hover result hturn).symm.trans hresult
        exact absurd hbuilder (turn_over_builder _ _ _ failure hturn)
      | elsewhere url =>
        obtain ⟨head, rest, how, hhead, hhow, hgo⟩ := (turn_elsewhere _ _ _ url).mp hturn
        obtain ⟨failure', hresult', hwhy⟩ := helse url hturn
        obtain rfl := Except.error.inj (hresult'.symm.trans hresult)
        cases hwhy with
        | limit h => simp at hbuilder
        | scheme hi h => exact ⟨r, head, rest, how, url, hlast, by omega, hhead, hhow, hgo, h⟩
        | unconnected hi h fault hfault => simp at hbuilder
  · rintro ⟨r, head, rest, how, url, hlast, hroom, hhead, hhow, hgo, haway⟩
    have hlength := List.length_pos_of_mem (List.mem_of_getLast? hlast)
    obtain ⟨failure, hresult, hwhy⟩ := (s.last_turn env o w r hlast).2 url
      ((turn_elsewhere _ _ _ url).mpr ⟨head, rest, how, hhead, hhow, hgo⟩)
    cases hwhy with
    | limit h => omega
    | scheme hi h => exact ⟨_, by simp, hresult⟩
    | unconnected hi h fault hfault =>
      rw [haway] at h
      cases h

end Submitter

def Ending.IsBuilder (ending : Ending) : Prop :=
  ∃ failure, failure.IsBuilder ∧ ending = .error (.transport failure)

theorem endingOf_builder (result : Except Failure Response) :
    (endingOf result).IsBuilder ↔ ∃ failure, failure.IsBuilder ∧ result = .error failure := by
  cases result <;> simp [endingOf, Ending.IsBuilder]

namespace Submitter

theorem outcomeIn_unusable (client : Client) (base : String) (o : Operation) (c : Collection)
    (env : Surroundings) (w : World) (hbase : Settings.isBaseUrl base = true)
    (hpath : o.path = c.path) (h : Unusable base c.path) :
    ((ofBase client base).courseIn env o w).sent = [] ∧
      ((ofBase client base).outcomeIn env o w).ending.IsBuilder := by
  obtain ⟨failure, hbuilder, hp⟩ :=
    (prepare_base client base c (o.payload (env.boundaries w.drawn)) hbase).1 h
  have hcourse : (ofBase client base).courseIn env o w = ⟨[], .error failure⟩ := by
    rw [← hpath] at hp
    simp only [courseIn, course, endpoint, ofBase, hp]
  rw [outcomeIn, hcourse]
  exact ⟨rfl, failure, hbuilder, rfl⟩

end Submitter

namespace Session

/-- At a base URL that cannot be used every operation fails for its URL, and
nothing is sent. At every other one an operation fails for a URL only if it is
sent to one that is not of the web. -/
theorem builder_errors (client : Client) (base : String) (o : Operation) (c : Collection)
    (env : Surroundings) (w : World) (hbase : Settings.isBaseUrl base = true)
    (hpath : o.path = c.path) :
    let s := Submitter.ofBase client base
    let a := (answer env s (.await o) w).1
    ∃ outcome, a.result = .awaited outcome ∧
      (answer env s (.dispatch ⟨o, .collect, false⟩) w).1.result = .finished ⟨.ok, [outcome]⟩ ∧
      (Unusable base c.path → a.requests = [] ∧ outcome.ending.IsBuilder) ∧
      (¬Unusable base c.path →
        (outcome.ending.IsBuilder ↔ SentAway client a.requests w.script)) := by
  intro s
  simp only [answer_await, answer_dispatch]
  refine ⟨s.outcomeIn env o w, rfl, rfl, fun h => ?_, fun h => ?_⟩
  · exact Submitter.outcomeIn_unusable client base o c env w hbase hpath h
  · obtain ⟨request, hp⟩ := (Submitter.prepare_base client base c
      (o.payload (env.boundaries w.drawn)) hbase).2 h
    rw [← hpath] at hp
    exact (endingOf_builder _).trans (s.builder_iff env o w request hp)

attribute [local instance] Transport.Reader.usual

def askedAt (base : String) (bytes : List UInt8) : Answer :=
  (answer ⟨fun _ => ⟨0, 0⟩, fun _ => "", fun _ => none⟩ (.ofBase {} base)
    (.await (.list .servers)) (.start [bytes])).1

theorem local_usable : ¬Unusable "http://[::1]:8080" Collection.servers.path := by
  have hbase : Url.parse "http://[::1]:8080" = .ok ⟨"http".toList,
      some ⟨[], [], .ipv6 [0, 0, 0, 0, 0, 0, 0, 1], some 8080⟩, .rooted [[]], none, none⟩ := by
    decide +kernel
  have hjoined : Url.parse (Submitter.trimSlashes "http://[::1]:8080" ++ "/api/servers") =
      .ok ⟨"http".toList, some ⟨[], [], .ipv6 [0, 0, 0, 0, 0, 0, 0, 1], some 8080⟩,
        .rooted ["api".toList, "servers".toList], none, none⟩ := by
    decide +kernel
  rintro (⟨hblank, -⟩ | ⟨u, host, hu, hhost, h⟩ | ⟨v, hv, h⟩)
  · exact absurd hblank (by decide +kernel)
  · obtain rfl := Except.ok.inj (hbase.symm.trans hu)
    obtain rfl := Option.some.inj hhost
    cases h
  · obtain rfl := Except.ok.inj (hjoined.symm.trans hv)
    exact absurd h (by decide +kernel)

/-- A blank at the end is enough for a base that cannot be used. -/
theorem blank_base_errors :
    (∃ outcome, (askedAt "http://[::1]:8080 " []).result = .awaited outcome ∧
      (askedAt "http://[::1]:8080 " []).requests = [] ∧ outcome.ending.IsBuilder) ∧
    ∃ outcome, (askedAt "http://[::1]:8080" []).result = .awaited outcome ∧
      (outcome.ending.IsBuilder ↔
        SentAway {} (askedAt "http://[::1]:8080" []).requests [[]]) := by
  constructor
  · obtain ⟨outcome, hresult, -, hunusable, -⟩ := builder_errors {} "http://[::1]:8080 "
      (.list .servers) .servers ⟨fun _ => ⟨0, 0⟩, fun _ => "", fun _ => none⟩ (.start [[]])
      (by decide +kernel) rfl
    exact ⟨outcome, hresult, hunusable (.apart (by decide +kernel) (by decide +kernel))⟩
  · obtain ⟨outcome, hresult, -, -, husable⟩ := builder_errors {} "http://[::1]:8080"
      (.list .servers) .servers ⟨fun _ => ⟨0, 0⟩, fun _ => "", fun _ => none⟩ (.start [[]])
      (by decide +kernel) rfl
    exact ⟨outcome, hresult, husable local_usable⟩

def tickUrl : Url :=
  ⟨"http".toList, some ⟨[], [], .name "a\x60b".toList, none⟩, .rooted [[]], none, none⟩

theorem tick_ascii : Domain.toAscii? "a\x60b".toList = some "a\x60b".toList := by
  have hspelt : Domain.replaceAll "a\x60b".toList = some "a\x60b".toList := by decide
  have hcompose : Text.Composition.compose "a\x60b".toList = "a\x60b".toList := by
    decide
  have hlabels : (Text.pieces (· = '.') "a\x60b".toList).mapM Domain.decodeLabel? =
      some ["a\x60b".toList] := by decide
  have hallowed : ([("a\x60b".toList)].all Domain.labelAllowed &&
      Domain.directionsAllowed ["a\x60b".toList]) = true := by decide
  have hcoded : ["a\x60b".toList].mapM Domain.encodeLabel? = some ["a\x60b".toList] := by
    decide
  have hkept : (Domain.joinLabels ["a\x60b".toList]).any Domain.refusedInName = false := by
    show (Domain.refusedInName 'a' || (Domain.refusedInName '\x60' ||
      (Domain.refusedInName 'b' || false))) = false
    simp only [Domain.refusedInName, String.contains_char_eq]
    decide
  simp only [Domain.toAscii?, hspelt, bind, Option.bind_some, hcompose, hlabels, hallowed,
    hcoded, hkept]
  rfl

theorem tick_host : Url.netHost "a\x60b".toList = .ok (.name "a\x60b".toList) := by
  have hnone : Url.bracketed? "a\x60b".toList = none := by decide
  have htext : Text.Utf8.decode? (Url.decode "a\x60b".toList) = some "a\x60b".toList := by
    decide
  simp only [Url.netHost, hnone, htext, Option.bind_some, tick_ascii, Option.getD_none]
  decide

theorem tick_parsed : Url.parse "http://a\x60b" = .ok tickUrl := by
  have hauthority : Url.readAuthority "http".toList "a\x60b".toList false =
      .ok (⟨[], [], .name "a\x60b".toList, none⟩, []) :=
    (Url.readAuthority_iff _ _ _ _ _).mpr
      ⟨by decide, tick_host, by decide, rfl, by decide, rfl⟩
  have hkind : Url.SchemeKind.of "http".toList = .web := by decide
  have hspan : ("//a\x60b".toList.dropWhile Url.isSlash).span
      (fun c => !Url.endsAuthority true c) = ("a\x60b".toList, []) := by decide
  rw [Url.parse_web _ "http".toList "http".toList "//a\x60b".toList hkind (by decide)
    (by decide)]
  simp only [Url.readAfterSlashes, hkind, Url.SchemeKind.isSpecial, hspan, List.isEmpty_nil,
    Bool.not_true, hauthority]
  rfl

theorem tick_base : Settings.isBaseUrl "http://a\x60b" = true := by
  rw [Settings.isBaseUrl, tick_parsed]
  decide

/-- Two bases that are URLs, and that nothing can be requested from, and an
answer that leads away from the web. -/
theorem accepted_bases_err :
    (Settings.isBaseUrl "http://[::1]:8080 " = true ∧
      (askedAt "http://[::1]:8080 " []).requests = [] ∧
      ∃ outcome, (askedAt "http://[::1]:8080 " []).result = .awaited outcome ∧
        outcome.ending.IsBuilder) ∧
    (Settings.isBaseUrl "http://a\x60b" = true ∧
      (askedAt "http://a\x60b" []).requests = [] ∧
      ∃ outcome, (askedAt "http://a\x60b" []).result = .awaited outcome ∧
        outcome.ending.IsBuilder) ∧
    (Settings.isBaseUrl "http://[::1]:8080" = true ∧
      ∃ outcome, (askedAt "http://[::1]:8080" strayAnswer).result = .awaited outcome ∧
        outcome.ending.IsBuilder) := by
  have hblank : (askedAt "http://[::1]:8080 " []).result =
      .awaited ⟨"http://[::1]:8080 /api/servers",
        .error (.transport (.malformedUrl .invalidPort)), ⟨0, 0⟩, ⟨0, 0⟩⟩ := by decide +kernel
  have haway : (askedAt "http://[::1]:8080" strayAnswer).result =
      .awaited ⟨"http://[::1]:8080/api/servers",
        .error (.transport (.refusedScheme "data:x")), ⟨0, 0⟩, ⟨0, 0⟩⟩ := by decide +kernel
  have htick : Unusable "http://a\x60b" Collection.servers.path :=
    .unnameable tickUrl (.name "a\x60b".toList) tick_parsed rfl (by decide)
  obtain ⟨hnone, hbuilder⟩ := Submitter.outcomeIn_unusable {} "http://a\x60b"
    (.list .servers) .servers ⟨fun _ => ⟨0, 0⟩, fun _ => "", fun _ => none⟩ (.start [[]])
    tick_base rfl htick
  refine ⟨⟨by decide +kernel, by decide +kernel, _, hblank, _, by decide, rfl⟩,
    ⟨tick_base, ?_, ?_⟩, by decide +kernel, _, haway, _, by decide, rfl⟩
  · rw [askedAt, answer_await]
    exact hnone
  · exact ⟨_, by rw [askedAt, answer_await], hbuilder⟩

end Session

end MapClient
