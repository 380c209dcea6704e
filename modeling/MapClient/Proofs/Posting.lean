import MapClient.Proofs.Parts
import MapClient.Proofs.Performing

/-!
# What is sent, and how often

The first request of a chain is the only one that can have a form, so a record
is posted once or not at all. A redirect can lengthen the chain, up to its
limit, but what it adds are requests for documents.
-/

set_option autoImplicit false

namespace MapClient

open MapClient.Http MapClient.Transport

namespace Transport

def Request.SendsNothing (r : Request) : Prop :=
  r.method = .get ∧ r.body = [] ∧
    ∀ h ∈ r.headers, h.1 ≠ "content-type" ∧ h.1 ≠ "content-length"

theorem Request.sends_nothing (r : Request) (h : r.payload = none) : r.SendsNothing := by
  refine ⟨by simp [Request.method, h], by simp [Request.body, h], ?_⟩
  intro line hline
  have hnames : line.1 ∈ ["accept", "authorization", "host", "referer", "user-agent"] := by
    simp only [Request.headers, Request.header, h, Option.map_none, Option.toList_none,
      List.map_nil, List.append_nil, List.mem_append, List.mem_singleton, List.mem_map] at hline
    rcases hline with (((rfl | ⟨_, _, rfl⟩) | rfl) | ⟨_, _, rfl⟩) | ⟨_, _, rfl⟩ <;> simp
  constructor <;> rintro heq <;> rw [heq] at hnames <;> simp at hnames

theorem Status.repeats_not_sees (status : Status) (h : status.repeatsElsewhere = true) :
    status.seesOther = false := by
  simp only [Status.repeatsElsewhere, Status.seesOther, Bool.or_eq_true, beq_iff_eq] at h ⊢
  rcases h with h | h <;> simp [h]

/-- The answer to a form that asks for the same form elsewhere is the last. -/
theorem redirection_repeats (client : Client) (request : Request) (head : Head)
    (hform : request.payload.isSome = true) (hstatus : head.status.repeatsElsewhere = true) :
    redirection? client request head = none := by
  have hsees := Status.repeats_not_sees head.status hstatus
  have hnone : request.payload.isNone = false := by simpa using hform
  simp [redirection?, asksElsewhere, hsees, hnone]

theorem redirection_still (client : Client) (request : Request) (head : Head)
    (h : client.followsRedirects = false) : redirection? client request head = none := by
  simp [redirection?, h]

/-- A chain has at most one request more than there are redirects. -/
theorem course_length (client : Client) (unreached : Network) (redirects : Nat)
    (request : Request) (script : Script) :
    (course client unreached redirects request script).sent.length ≤ redirects + 1 := by
  fun_induction course client unreached redirects request script with
  | case1 => simp
  | case2 => simp
  | case3 => simp
  | case4 request script hu url ht redirects hh ih =>
    simp only [Course.behind, List.length_cons]
    omega
  | case5 => simp

theorem course_reached (client : Client) (unreached : Network) (redirects : Nat)
    (request : Request) (script : Script)
    (h : (course client unreached redirects request script).sent ≠ []) :
    unreached request.url = none := by
  cases hu : unreached request.url with
  | none => rfl
  | some fault =>
    rw [course_unreached client unreached redirects request script fault hu] at h
    exact absurd rfl h

theorem load_complete (reader : Reader) (answer : Answer) (bytes : List UInt8)
    (h : readBody reader.extensionRoom answer.framing answer.rest = .ok bytes) :
    ∃ body, answer.load reader = .ok ⟨answer.head.status, body⟩ := by
  rw [Answer.load, h]
  exact ⟨_, rfl⟩

theorem turn_over (client : Client) (request : Request) (bytes : List UInt8) (answer : Answer)
    (hread : readAnswer client.reader request (.ok bytes) = .ok answer)
    (hstay : redirection? client request answer.head = none) :
    turn client request bytes = .over (answer.load client.reader) := by
  simp only [turn, hread, hstay]

theorem turn_still (client : Client) (request : Request) (bytes : List UInt8)
    (h : client.followsRedirects = false) :
    ∃ result, turn client request bytes = .over result := by
  cases hread : readAnswer client.reader request (.ok bytes) with
  | error failure => exact ⟨.error failure, by simp only [turn, hread]⟩
  | ok answer =>
    exact ⟨_, turn_over client request bytes answer hread
      (redirection_still client request answer.head h)⟩

theorem course_still (client : Client) (unreached : Network) (redirects : Nat)
    (request : Request) (script : Script) (h : client.followsRedirects = false) :
    (course client unreached redirects request script).sent.length ≤ 1 := by
  cases hu : unreached request.url with
  | some fault => simp [course_unreached client unreached redirects request script fault hu]
  | none =>
    obtain ⟨result, ht⟩ := turn_still client request (script.headD World.blankAnswer) h
    simp [course_over client unreached redirects request script hu result ht]

def SendsOn (client : Client) (unreached : Network) (request : Request)
    (bytes : List UInt8) : Prop :=
  ∃ answer url, readAnswer client.reader request (.ok bytes) = .ok answer ∧
    redirection? client request answer.head = some url ∧ url.isHttp = true ∧
    unreached url = none

theorem turn_on (client : Client) (unreached : Network) (request : Request)
    (bytes : List UInt8) (h : SendsOn client unreached request bytes) :
    ∃ url, turn client request bytes = .elsewhere url ∧ url.isHttp = true ∧
      unreached url = none := by
  obtain ⟨answer, url, hread, hgo, hhttp, hreached⟩ := h
  exact ⟨url, by simp only [turn, hread, hgo], hhttp, hreached⟩

theorem course_redirected (client : Client) (unreached : Network) (redirects : Nat)
    (request : Request) (script : Script) (hreached : unreached request.url = none)
    (h : ∀ i r, (course client unreached redirects request script).sent[i]? = some r →
      SendsOn client unreached r (script.getD i World.blankAnswer)) :
    (course client unreached redirects request script).sent.length = redirects + 1 ∧
      ∃ url, (course client unreached redirects request script).result =
        .error (.tooManyRedirects url) := by
  fun_induction course client unreached redirects request script with
  | case1 redirects request script fault hu => simp [hu] at hreached
  | case2 redirects request script hu result ht =>
    have hon := h 0 request rfl
    rw [← List.headD_eq_getD] at hon
    obtain ⟨url, hgo, -⟩ := turn_on client unreached request _ hon
    rw [ht] at hgo
    cases hgo
  | case3 request script hu url ht => exact ⟨rfl, request.url.render, rfl⟩
  | case4 request script hu url ht redirects hh ih =>
    have hon := h 0 request rfl
    rw [← List.headD_eq_getD] at hon
    obtain ⟨url', hgo, -, hnext⟩ := turn_on client unreached request _ hon
    rw [ht] at hgo
    obtain rfl := Turn.elsewhere.inj hgo
    have hrest := ih hnext fun i r hr => by
      have htail : script.tail.getD i World.blankAnswer =
          script.getD (i + 1) World.blankAnswer := by cases script <;> simp
      rw [htail]
      exact h (i + 1) r hr
    exact ⟨by simp [Course.behind, hrest.1], hrest.2⟩
  | case5 request script hu url ht redirects hh =>
    have hon := h 0 request rfl
    rw [← List.headD_eq_getD] at hon
    obtain ⟨url', hgo, hhttp, -⟩ := turn_on client unreached request _ hon
    rw [ht] at hgo
    obtain rfl := Turn.elsewhere.inj hgo
    exact absurd hhttp hh

end Transport

namespace Submitter

variable (s : Submitter) (env : Surroundings) (o : Operation) (w : World)

theorem sent_length : (s.courseIn env o w).sent.length ≤ redirectLimit + 1 := by
  rcases s.courseIn_cases env o w with ⟨failure, hcourse⟩ | ⟨request, -, hcourse⟩
  · simp [hcourse]
  · rw [hcourse]
    exact course_length s.client env.unreached redirectLimit request w.script

theorem sent_still (h : s.client.followsRedirects = false) :
    (s.courseIn env o w).sent.length ≤ 1 := by
  rcases s.courseIn_cases env o w with ⟨failure, hcourse⟩ | ⟨request, -, hcourse⟩
  · simp [hcourse]
  · rw [hcourse]
    exact course_still s.client env.unreached redirectLimit request w.script h

/-- A record is posted by the first request or not at all. -/
theorem posts_at_most_one :
    ((s.courseIn env o w).sent.filter (·.method = .post)).length ≤ 1 := by
  rcases s.sent_cases env o w with hnone | ⟨full, first, later, hsent, -, -, -, hplain⟩
  · simp [hnone]
  · have hlater : later.filter (·.method = .post) = [] := by
      refine List.filter_eq_nil_iff.mpr fun r hr => ?_
      simp [Request.method, hplain r hr]
    rw [hsent, List.filter_cons, hlater]
    split <;> simp

theorem form_not_repeated (record : Record) (first : Request) (later : List Request)
    (answer : Answer) (hsent : (s.courseIn env (.submit record) w).sent = first :: later)
    (hread : readAnswer s.client.reader first (.ok (w.script.headD World.blankAnswer)) =
      .ok answer)
    (hstatus : answer.head.status.repeatsElsewhere = true) :
    s.courseIn env (.submit record) w = ⟨[first], answer.load s.client.reader⟩ := by
  rcases s.courseIn_cases env (.submit record) w with ⟨failure, hcourse⟩ | ⟨request, hp, hcourse⟩
  · simp [hcourse] at hsent
  · rw [hcourse] at hsent ⊢
    have hu := course_reached s.client env.unreached redirectLimit request w.script
      (by simp [hsent])
    obtain rfl : request = first := by
      rcases course_sent s.client env.unreached redirectLimit request w.script with
        hnone | ⟨more, hmore, -⟩
      · simp [hnone] at hsent
      · exact (List.cons.inj (hmore.symm.trans hsent)).1
    obtain ⟨full, -, -, -, -, hrequest⟩ := prepare_ok _ _ _ _ hp
    have hform : request.payload.isSome = true := by rw [hrequest]; rfl
    exact course_over s.client env.unreached redirectLimit request w.script hu _
      (turn_over s.client request _ answer hread
        (redirection_repeats s.client request answer.head hform hstatus))

/-- Answers that always send the client on lead to a failure. -/
theorem redirected_fails (hsent : (s.courseIn env o w).sent ≠ [])
    (h : ∀ i r, (s.courseIn env o w).sent[i]? = some r →
      SendsOn s.client env.unreached r (w.script.getD i World.blankAnswer)) :
    (s.courseIn env o w).sent.length = redirectLimit + 1 ∧
      ∃ url, (s.courseIn env o w).result = .error (.tooManyRedirects url) := by
  rcases s.courseIn_cases env o w with ⟨failure, hcourse⟩ | ⟨request, -, hcourse⟩
  · simp [hcourse] at hsent
  · rw [hcourse] at hsent h ⊢
    exact course_redirected s.client env.unreached redirectLimit request w.script
      (course_reached s.client env.unreached redirectLimit request w.script hsent) h

end Submitter

namespace Session

/-- An operation posts its record at most once, with its first request and to
its endpoint; nothing is sent with any other request. A 307 or 308 that answers
the form is not followed, and whatever the answers are, there are at most ten
requests: as many answers that all send the client on end in a failure. -/
theorem posted_once (client : Client) (base : String) (o : Operation) (env : Surroundings)
    (w : World) :
    let s := Submitter.ofBase client base
    let a := (answer env s (.await o) w).1
    (∀ d : Dispatch, d.operation = o →
      (answer env s (.dispatch d) w).1.requests = if d.calledOff then [] else a.requests) ∧
    (∃ outcome, a.result = .awaited outcome) ∧
    (a.requests.filter (·.method = .post)).length ≤ 1 ∧
    (∀ first later, a.requests = first :: later →
      (∃ full, Url.parse (s.endpoint o.path) = .ok full ∧
        first.url = (takeCredentials full).1 ∧
        first.payload = o.payload (env.boundaries w.drawn)) ∧
      ∀ r ∈ later, r.SendsNothing) ∧
    (∀ path, o = .fetch path → ∀ r ∈ a.requests, r.SendsNothing) ∧
    (∀ record first later reply, o = .submit record → a.requests = first :: later →
      readAnswer client.reader first (.ok (w.script.headD World.blankAnswer)) = .ok reply →
      reply.head.status.repeatsElsewhere = true →
      later = [] ∧ ∀ bytes,
        readBody client.reader.extensionRoom reply.framing reply.rest = .ok bytes →
        ∃ outcome body, a.result = .awaited outcome ∧
          outcome.ending = .load reply.head.status body) ∧
    a.requests.length ≤ 10 ∧
    (client.followsRedirects = false → a.requests.length ≤ 1) ∧
    (a.requests ≠ [] →
      (∀ i r, a.requests[i]? = some r →
        SendsOn client env.unreached r (w.script.getD i World.blankAnswer)) →
      a.requests.length = 10 ∧ ∃ outcome url, a.result = .awaited outcome ∧
        outcome.ending = .error (.transport (.tooManyRedirects url))) := by
  intro s
  simp only [answer_await]
  refine ⟨?_, ⟨_, rfl⟩, s.posts_at_most_one env o w, ?_, ?_, ?_, s.sent_length env o w,
    s.sent_still env o w, ?_⟩
  · rintro ⟨_, reporter, calledOff⟩ rfl
    cases calledOff with
    | true => rfl
    | false => rw [answer_dispatch]; rfl
  · intro first later hsent
    rcases s.sent_cases env o w with
      hnone | ⟨full, request, more, hmore, hparse, hurl, hform, hplain⟩
    · simp [hnone] at hsent
    · obtain ⟨rfl, rfl⟩ := List.cons.inj (hmore.symm.trans hsent)
      exact ⟨⟨full, hparse, hurl, hform⟩, fun r hr => r.sends_nothing (hplain r hr)⟩
  · rintro path rfl r hr
    rcases s.course_forms env (.fetch path) w r hr with h | h
    · exact r.sends_nothing h
    · exact r.sends_nothing h
  · rintro record first later reply rfl hsent hread hstatus
    have hcourse := s.form_not_repeated env w record first later reply hsent hread hstatus
    rw [hcourse] at hsent
    refine ⟨(List.cons.inj hsent).2.symm, fun bytes hbody => ?_⟩
    obtain ⟨body, hload⟩ := load_complete client.reader reply bytes hbody
    refine ⟨s.outcomeIn env (.submit record) w, body, rfl, ?_⟩
    rw [Submitter.outcomeIn, hcourse, show s.client = client from rfl, hload]
    rfl
  · intro hsent h
    obtain ⟨hlength, url, hresult⟩ := s.redirected_fails env o w hsent h
    refine ⟨hlength, s.outcomeIn env o w, url, rfl, ?_⟩
    rw [Submitter.outcomeIn, hresult]
    rfl

attribute [local instance] Transport.Reader.usual

def elsewhereAnswer (status : String) : List UInt8 :=
  Text.utf8 ("HTTP/1.1 " ++ status ++ " x\r\nlocation: http://[::1]/b\r\ncontent-length: 0\r\n\r\n")

def elsewhereHead (status : Status) : Head :=
  ⟨.http11, status,
    [⟨"location", Text.utf8 "http://[::1]/b"⟩, ⟨"content-length", Text.utf8 "0"⟩]⟩

def addedWith (status : String) (times : Nat) : Session.Answer :=
  (answer .still (.ofBase {} "http://[::1]:8080") (.await (.submit (.server "A" "1.2.3.4")))
    (.start (List.replicate times (elsewhereAnswer status)))).1

def loopbackUrl (port : Option Nat) (segments : List String) : Url :=
  ⟨"http".toList, some ⟨[], [], .ipv6 [0, 0, 0, 0, 0, 0, 0, 1], port⟩,
    .rooted (segments.map String.toList), none, none⟩

def addedPost : Request :=
  ⟨loopbackUrl (some 8080) ["api", "servers"], none, none, none,
    (Operation.submit (.server "A" "1.2.3.4")).payload "x"⟩

def addedGet (referer : String) : Request :=
  ⟨loopbackUrl none ["b"], none, none, some referer, none⟩

theorem elsewhere_read (request : Request) (status : String) (found : Status)
    (hread : Head.readFinal Reader.usual.headRoom ((elsewhereAnswer status).length + 1)
      (elsewhereAnswer status) = .ok (elsewhereHead found, []))
    (hhow : framing (elsewhereHead found) = .ok (.length 0)) :
    readAnswer Reader.usual request (.ok (elsewhereAnswer status)) =
      .ok ⟨elsewhereHead found, .length 0, []⟩ := by
  simp only [readAnswer, hread, hhow]

/-- The form is sent once, whether a document is asked for elsewhere or the form is, and
answers that always name another URL end in a failure. -/
theorem added_once :
    (∃ post get, (addedWith "302" 1).requests = [post, get] ∧ post.method = .post ∧
      post.payload = (Operation.submit (.server "A" "1.2.3.4")).payload "x" ∧ get.SendsNothing) ∧
    (∃ post outcome status body, (addedWith "307" 1).requests = [post] ∧ post.method = .post ∧
      (addedWith "307" 1).result = .awaited outcome ∧ status.code = 307 ∧
      outcome.ending = .load status body) ∧
    (addedWith "303" 10).requests.length = 10 ∧
    ∃ outcome url, (addedWith "303" 10).result = .awaited outcome ∧
      outcome.ending = .error (.transport (.tooManyRedirects url)) := by
  have hposted (status : String) (times : Nat) := posted_once {} "http://[::1]:8080"
    (.submit (.server "A" "1.2.3.4")) .still
      (.start (List.replicate times (elsewhereAnswer status)))
  refine ⟨?_, ?_, ?_⟩
  · have htwo : (addedWith "302" 1).requests =
        [addedPost, addedGet "http://[::1]:8080/api/servers"] := by decide +kernel
    obtain ⟨-, -, -, hlater, -⟩ := hposted "302" 1
    obtain ⟨⟨-, -, -, hform⟩, hnothing⟩ := hlater _ _ htwo
    exact ⟨_, _, htwo, by decide, hform, hnothing _ (List.mem_singleton.mpr rfl)⟩
  · have hone : (addedWith "307" 1).requests = [addedPost] := by decide +kernel
    obtain ⟨-, -, -, -, -, hrepeated, -⟩ := hposted "307" 1
    obtain ⟨-, hload⟩ := hrepeated _ _ _ _ rfl hone
      (elsewhere_read addedPost "307" ⟨307, by decide⟩ (by decide +kernel) (by decide +kernel))
      (by decide)
    obtain ⟨outcome, body, hresult, hending⟩ := hload [] (by decide)
    exact ⟨_, outcome, _, body, hone, by decide, hresult, rfl, hending⟩
  · have hten : (addedWith "303" 10).requests = addedPost ::
        addedGet "http://[::1]:8080/api/servers" ::
          List.replicate 8 (addedGet "http://[::1]/b") := by decide +kernel
    have hon (request : Request) (hgo : redirection? {} request (elsewhereHead ⟨303, by decide⟩) =
        some (loopbackUrl none ["b"])) :
        SendsOn {} (fun _ => none) request (elsewhereAnswer "303") :=
      ⟨_, _, elsewhere_read request "303" ⟨303, by decide⟩ (by decide +kernel)
        (by decide +kernel), hgo, by decide, rfl⟩
    have hall : ∀ r ∈ (addedWith "303" 10).requests,
        redirection? {} r (elsewhereHead ⟨303, by decide⟩) = some (loopbackUrl none ["b"]) := by
      rw [hten]
      decide +kernel
    obtain ⟨-, -, -, -, -, -, -, -, hends⟩ := hposted "303" 10
    have hsome : (addedWith "303" 10).requests ≠ [] := by
      rw [hten]
      exact List.cons_ne_nil _ _
    refine hends hsome fun i r hr => ?_
    have hi : i < (addedWith "303" 10).requests.length := (List.getElem?_eq_some_iff.mp hr).1
    rw [hten] at hi
    have hscript : (List.replicate 10 (elsewhereAnswer "303")).getD i World.blankAnswer =
        elsewhereAnswer "303" := by
      rw [List.getD_eq_getElem?_getD, List.getElem?_replicate, if_pos (by simpa using hi),
        Option.getD_some]
    change SendsOn {} _ r ((List.replicate 10 (elsewhereAnswer "303")).getD i World.blankAnswer)
    rw [hscript]
    exact hon r (hall r (List.mem_of_getElem? hr))

end Session

end MapClient
