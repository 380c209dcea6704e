import MapClient.Proofs.Endpoints
import MapClient.Proofs.Performing

/-!
# Where requests go first

Joining a path to a base changes nothing about the server that is asked. If the
joined text is a URL at all, it has the scheme and the authority of the base,
and the first request of an operation goes there.
-/

set_option autoImplicit false

namespace MapClient

open MapClient.Transport

namespace Transport

theorem takeCredentials_server (u : Url) :
    (takeCredentials u).1.scheme = u.scheme ∧ (takeCredentials u).1.host? = u.host? ∧
      (takeCredentials u).1.effectivePort? = u.effectivePort? := by
  unfold takeCredentials
  split
  · exact ⟨rfl, rfl, rfl⟩
  · rename_i a ha
    split
    · exact ⟨rfl, rfl, rfl⟩
    · refine ⟨rfl, ?_, ?_⟩
      · simp only [Url.host?, ha, Option.map_some]
      · simp only [Url.effectivePort?, ha, Option.bind_some]

theorem takeCredentials_rest (u : Url) :
    (takeCredentials u).1.path = u.path ∧ (takeCredentials u).1.query = u.query ∧
      (takeCredentials u).1.fragment = u.fragment := by
  unfold takeCredentials
  split
  · exact ⟨rfl, rfl, rfl⟩
  · split <;> exact ⟨rfl, rfl, rfl⟩

end Transport

namespace Session

def Opens (s : Submitter) (o : Operation) (request : Request) : Prop :=
  ∃ env w step,
    (step = .await o ∨ ∃ reporter calledOff, step = .dispatch ⟨o, reporter, calledOff⟩) ∧
    (answer env s step w).1.requests.head? = some request

theorem Opens.url {s : Submitter} {o : Operation} {request : Request} (h : Opens s o request) :
    ∃ full, Url.parse (s.endpoint o.path) = .ok full ∧
      request.url = (takeCredentials full).1 := by
  obtain ⟨env, w, step, hstep, hfirst⟩ := h
  have hsent : (s.courseIn env o w).sent.head? = some request := by
    rcases hstep with rfl | ⟨reporter, calledOff, rfl⟩
    · rw [answer_await] at hfirst
      exact hfirst
    · cases calledOff with
      | true =>
        rw [answer_called_off] at hfirst
        cases hfirst
      | false =>
        rw [answer_dispatch] at hfirst
        exact hfirst
  rcases s.sent_cases env o w with hnone | ⟨full, first, later, hall, hparse, hurl, -, -⟩
  · rw [hnone] at hsent
    cases hsent
  · rw [hall] at hsent
    obtain rfl := Option.some.inj hsent
    exact ⟨full, hparse, hurl⟩

end Session

namespace Url

/-- A path joined to a base goes to the authority of the base. -/
theorem joined_origin (base path : String) (u v : Url) (hbase : Settings.isBaseUrl base = true)
    (hpath : path.toList.head? = some '/') (hu : parse base = .ok u)
    (hv : parse (Submitter.trimSlashes base ++ path) = .ok v) :
    v.scheme = u.scheme ∧ v.authority = u.authority := by
  obtain ⟨j⟩ := joint base hbase
  obtain ⟨rest, hrest⟩ := List.head?_eq_some_iff.mp hpath
  obtain rfl := Except.ok.inj (hu.symm.trans j.parsed)
  rw [← String.ofList_toList (s := path), hrest] at hv
  by_cases hapart : j.tail = [] ∧ j.spare ≠ []
  · obtain ⟨fault, hfault⟩ := j.apart hapart.1 hapart.2 rest
    rw [hfault] at hv
    cases hv
  · rw [j.before (fun hnone => by simpa [hnone] using hapart) rest] at hv
    obtain rfl := Except.ok.inj hv
    exact ⟨rfl, rfl⟩

end Url

namespace Session

/-- Neither the slashes that a base loses nor the path that is put behind it
change the scheme, the user, the host or the port. So the first request of an
operation goes to the server of the base. -/
theorem origin_kept (client : Client) (base : String) (o : Operation) (u v : Url)
    (hbase : Settings.isBaseUrl base = true) (hpath : o.path.toList.head? = some '/')
    (hu : Url.parse base = .ok u)
    (hv : Url.parse ((Submitter.ofBase client base).endpoint o.path) = .ok v) :
    v.scheme = u.scheme ∧ v.authority = u.authority ∧
      ∀ request, Opens (.ofBase client base) o request →
        request.url.scheme = u.scheme ∧ request.url.host? = u.host? ∧
          request.url.effectivePort? = u.effectivePort? := by
  obtain ⟨hscheme, hauthority⟩ := Url.joined_origin base o.path u v hbase hpath hu hv
  refine ⟨hscheme, hauthority, fun request h => ?_⟩
  obtain ⟨full, hfull, hurl⟩ := h.url
  obtain rfl := Except.ok.inj (hv.symm.trans hfull)
  obtain ⟨hscheme', hhost, hport⟩ := takeCredentials_server v
  rw [hurl, hscheme', hhost, hport]
  refine ⟨hscheme, ?_, ?_⟩
  · simp only [Url.host?, hauthority]
  · simp only [Url.effectivePort?, hscheme, hauthority]

def guestUrl (segments : List (List Char)) : Url :=
  ⟨"http".toList, some ⟨"guest".toList, "key".toList, .ipv6 [0, 0, 0, 0, 0, 0, 0, 1], some 8080⟩,
    .rooted segments, none, none⟩

attribute [local instance] Transport.Reader.usual

theorem guest_origin_kept :
    let base := "http://guest:key@[::1]:8080/maps//"
    let u := guestUrl ["maps".toList, [], []]
    let v := guestUrl ["maps".toList, "api".toList, "servers".toList]
    Url.parse base = .ok u ∧ v.scheme = u.scheme ∧ v.authority = u.authority ∧
      ∀ request, Opens (.ofBase {} base) (.list .servers) request →
        request.url.scheme = u.scheme ∧ request.url.host? = u.host? ∧
          request.url.effectivePort? = u.effectivePort? :=
  ⟨by decide +kernel, origin_kept {} _ (.list .servers) _ _ (by decide +kernel) (by decide)
    (by decide +kernel) (by decide +kernel)⟩

end Session

end MapClient
