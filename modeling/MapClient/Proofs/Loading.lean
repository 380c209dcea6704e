import MapClient.Proofs.Bodies
import MapClient.Proofs.Heads
import MapClient.Proofs.Performing

/-!
# What counts as a response

An answer that is not followed ends the chain, and it is a response if and only
if it is whole: a head that can be read, and all of the body that the head
announces. Everything else is an error that says which of the two is missing.
-/

set_option autoImplicit false

namespace MapClient

open MapClient.Http MapClient.Text MapClient.Transport

namespace Transport

def Whole (reader : Reader) (bytes : List UInt8) (head : Head) (data : List UInt8) : Prop :=
  ∃ rest how, Announced reader.headRoom bytes head rest ∧ framing head = .ok how ∧
    Delivered reader.extensionRoom how rest data

def decoded (reader : Reader) (head : Head) (data : List UInt8) : String :=
  (ContentType.encoding (head.values "content-type")).decodeMarked reader.multiByte data

def Stays (client : Client) (request : Request) (bytes : List UInt8) : Prop :=
  ∀ head rest how, Announced client.reader.headRoom bytes head rest → framing head = .ok how →
    redirection? client request head = none

section
variable (reader : Reader) (request : Request) (bytes : List UInt8)

theorem readAnswer_iff (head : Head) (how : Framing) (rest : List UInt8) :
    readAnswer reader request (.ok bytes) = .ok ⟨head, how, rest⟩ ↔
      Announced reader.headRoom bytes head rest ∧ framing head = .ok how := by
  rw [← Head.readFinal_iff, readAnswer]
  cases Head.readFinal reader.headRoom (bytes.length + 1) bytes with
  | error fault => simp
  | ok read =>
    obtain ⟨head', rest'⟩ := read
    dsimp only
    cases hhow : framing head' with
    | error fault =>
      refine ⟨nofun, fun ⟨h, hframing⟩ => ?_⟩
      obtain ⟨rfl, rfl⟩ := Prod.mk.inj (Except.ok.inj h)
      rw [hhow] at hframing
      cases hframing
    | ok how' =>
      constructor
      · intro h
        cases h
        exact ⟨rfl, hhow⟩
      · rintro ⟨h, hframing⟩
        obtain ⟨rfl, rfl⟩ := Prod.mk.inj (Except.ok.inj h)
        rw [hhow] at hframing
        rw [Except.ok.inj hframing]

theorem readAnswer_headless (h : ∀ head rest, ¬Announced reader.headRoom bytes head rest) :
    ∃ fault, readAnswer reader request (.ok bytes) =
      .error (.unanswered request.url.render fault) := by
  rw [readAnswer]
  cases hread : Head.readFinal reader.headRoom (bytes.length + 1) bytes with
  | error fault => exact ⟨fault, rfl⟩
  | ok read =>
    exact absurd ((Head.readFinal_iff reader.headRoom bytes read.2 read.1).mp hread) (h _ _)

theorem readAnswer_unframed (head : Head) (rest : List UInt8) (fault : HeadFault)
    (hhead : Announced reader.headRoom bytes head rest) (hhow : framing head = .error fault) :
    readAnswer reader request (.ok bytes) = .error (.unanswered request.url.render fault) := by
  simp only [readAnswer, (Head.readFinal_iff reader.headRoom bytes rest head).mpr hhead, hhow]

theorem load_iff (answer : Answer) (response : Response) :
    answer.load reader = .ok response ↔
      ∃ data, Delivered reader.extensionRoom answer.framing answer.rest data ∧
      response = ⟨answer.head.status, decoded reader answer.head data⟩ := by
  simp only [← readBody_iff]
  rw [Answer.load]
  cases readBody reader.extensionRoom answer.framing answer.rest with
  | error fault => simp
  | ok data => simp [decoded, eq_comm]

theorem load_partial (answer : Answer)
    (h : ∀ data, ¬Delivered reader.extensionRoom answer.framing answer.rest data) :
    ∃ fault, answer.load reader = .error (.partialBody fault) := by
  rw [Answer.load]
  cases hbody : readBody reader.extensionRoom answer.framing answer.rest with
  | error fault => exact ⟨fault, rfl⟩
  | ok data => exact absurd ((readBody_iff _ _ _ _).mp hbody) (h data)

structure Settled (result : Except Failure Response) : Prop where
  whole : ∀ response, result = .ok response ↔
    ∃ head data, Whole reader bytes head data ∧ response = ⟨head.status, decoded reader head data⟩
  headless : (∀ head rest, ¬Announced reader.headRoom bytes head rest) →
    ∃ fault, result = .error (.unanswered request.url.render fault)
  unframed : ∀ head rest fault, Announced reader.headRoom bytes head rest →
    framing head = .error fault →
    result = .error (.unanswered request.url.render fault)
  cut : ∀ head rest how, Announced reader.headRoom bytes head rest → framing head = .ok how →
    (∀ data, ¬Delivered reader.extensionRoom how rest data) →
    ∃ fault, result = .error (.partialBody fault)

theorem settled_unread (fault : HeadFault)
    (h : readAnswer reader request (.ok bytes) = .error (.unanswered request.url.render fault)) :
    Settled reader request bytes (.error (.unanswered request.url.render fault)) where
  whole response := by
    refine ⟨nofun, ?_⟩
    rintro ⟨head, data, ⟨rest, how, hhead, hhow, -⟩, -⟩
    have hread := (readAnswer_iff reader request bytes head how rest).mpr ⟨hhead, hhow⟩
    rw [h] at hread
    cases hread
  headless _ := ⟨fault, rfl⟩
  unframed head rest fault' hhead hhow := by
    have hread := readAnswer_unframed reader request bytes head rest fault' hhead hhow
    rw [Except.error.inj (h.symm.trans hread)]
  cut head rest how hhead hhow _ := by
    have hread := (readAnswer_iff reader request bytes head how rest).mpr ⟨hhead, hhow⟩
    rw [h] at hread
    cases hread

theorem settled_read (answer : Answer) (h : readAnswer reader request (.ok bytes) = .ok answer) :
    Settled reader request bytes (answer.load reader) where
  whole response := by
    rw [load_iff]
    constructor
    · rintro ⟨data, hbody, rfl⟩
      obtain ⟨hhead, hhow⟩ := (readAnswer_iff reader request bytes _ _ _).mp h
      exact ⟨answer.head, data, ⟨answer.rest, answer.framing, hhead, hhow, hbody⟩, rfl⟩
    · rintro ⟨head, data, ⟨rest, how, hhead, hhow, hbody⟩, rfl⟩
      have hread := (readAnswer_iff reader request bytes head how rest).mpr ⟨hhead, hhow⟩
      obtain rfl := Except.ok.inj (h.symm.trans hread)
      exact ⟨data, hbody, rfl⟩
  headless hnone := by
    obtain ⟨hhead, -⟩ := (readAnswer_iff reader request bytes _ _ _).mp h
    exact absurd hhead (hnone _ _)
  unframed head rest fault hhead hhow := by
    have hread := readAnswer_unframed reader request bytes head rest fault hhead hhow
    rw [h] at hread
    cases hread
  cut head rest how hhead hhow hpartial := by
    have hread := (readAnswer_iff reader request bytes head how rest).mpr ⟨hhead, hhow⟩
    obtain rfl := Except.ok.inj (h.symm.trans hread)
    exact load_partial reader _ hpartial

/-- Every answer can be read or is none. -/
theorem readAnswer_cases :
    (∃ fault, readAnswer reader request (.ok bytes) =
      .error (.unanswered request.url.render fault)) ∨
      ∃ answer, readAnswer reader request (.ok bytes) = .ok answer := by
  cases hread : readAnswer reader request (.ok bytes) with
  | ok answer => exact .inr ⟨answer, rfl⟩
  | error failure =>
    refine .inl ?_
    by_cases hnone : ∀ head rest, ¬Announced reader.headRoom bytes head rest
    · rw [← hread]
      exact readAnswer_headless reader request bytes hnone
    · push Not at hnone
      obtain ⟨head, rest, hhead⟩ := hnone
      cases hhow : framing head with
      | error fault =>
        exact ⟨fault, hread.symm.trans
          (readAnswer_unframed reader request bytes head rest fault hhead hhow)⟩
      | ok how =>
        have := (readAnswer_iff reader request bytes head how rest).mpr ⟨hhead, hhow⟩
        rw [hread] at this
        cases this

end

section
variable (client : Client) (request : Request) (bytes : List UInt8)

theorem turn_stays (h : Stays client request bytes) :
    ∃ result, turn client request bytes = .over result ∧
      Settled client.reader request bytes result := by
  rcases readAnswer_cases client.reader request bytes with ⟨fault, hread⟩ | ⟨answer, hread⟩
  · exact ⟨_, by rw [turn, hread], settled_unread client.reader request bytes fault hread⟩
  · obtain ⟨hhead, hhow⟩ := (readAnswer_iff client.reader request bytes _ _ _).mp hread
    exact ⟨answer.load client.reader, by simp only [turn, hread, h _ _ _ hhead hhow],
      settled_read client.reader request bytes answer hread⟩

/-- An answer that does not stay names the URL that comes next. -/
theorem turn_elsewhere (url : Url) :
    turn client request bytes = .elsewhere url ↔
      ∃ head rest how, Announced client.reader.headRoom bytes head rest ∧ framing head = .ok how ∧
        redirection? client request head = some url := by
  constructor
  · intro h
    unfold turn at h
    split at h
    · cases h
    · rename_i answer hread
      split at h
      · cases h
      · rename_i url' hgo
        obtain rfl := Turn.elsewhere.inj h
        obtain ⟨hhead, hhow⟩ := (readAnswer_iff client.reader request bytes _ _ _).mp hread
        exact ⟨_, _, _, hhead, hhow, hgo⟩
  · rintro ⟨head, rest, how, hhead, hhow, hgo⟩
    have hread := (readAnswer_iff client.reader request bytes head how rest).mpr ⟨hhead, hhow⟩
    simp only [turn, hread, hgo]

end

inductive Declined (unreached : Network) (redirects i : Nat) (request : Request) (url : Url) :
    Failure → Prop
  | limit (h : i = redirects) :
      Declined unreached redirects i request url (.tooManyRedirects request.url.render)
  | scheme (hi : i < redirects) (h : url.isHttp = false) :
      Declined unreached redirects i request url (.refusedScheme url.render)
  | unconnected (hi : i < redirects) (h : url.isHttp = true) (fault : ConnectFault)
      (hfault : unreached url = some fault) :
      Declined unreached redirects i request url (.unconnected url.render fault)

def Turn.Continues (unreached : Network) (redirects : Nat) (c : Course) (i : Nat)
    (request : Request) : Turn → Prop
  | .over result => c.sent.length = i + 1 ∧ c.result = result
  | .elsewhere url =>
    c.sent[i + 1]? = some (request.follow url) ∨
      c.sent.length = i + 1 ∧ ∃ failure, c.result = .error failure ∧
        Declined unreached redirects i request url failure

theorem Declined.later (unreached : Network) (redirects i : Nat) (request : Request) (url : Url)
    (failure : Failure) (h : Declined unreached redirects i request url failure) :
    Declined unreached (redirects + 1) (i + 1) request url failure := by
  cases h with
  | limit h => exact .limit (by omega)
  | scheme hi h => exact .scheme (by omega) h
  | unconnected hi h fault hfault => exact .unconnected (by omega) h fault hfault

theorem Turn.Continues.behind (unreached : Network) (redirects : Nat) (c : Course) (i : Nat)
    (first request : Request) (t : Turn) (h : t.Continues unreached redirects c i request) :
    t.Continues unreached (redirects + 1) (c.behind first) (i + 1) request := by
  cases t with
  | «over» result => exact ⟨by simp [Course.behind, h.1], h.2⟩
  | elsewhere url =>
    rcases h with hnext | ⟨hlength, failure, hresult, hwhy⟩
    · exact .inl (by simpa [Course.behind] using hnext)
    · exact .inr ⟨by simp [Course.behind, hlength], failure, hresult,
        hwhy.later unreached redirects i request url failure⟩

theorem course_next (client : Client) (unreached : Network) (redirects : Nat)
    (request : Request) (script : Script) (url : Url) :
    (course client unreached redirects (request.follow url) script).sent[0]? =
        some (request.follow url) ∨
      ∃ fault, unreached url = some fault ∧
        course client unreached redirects (request.follow url) script =
          ⟨[], .error (.unconnected url.render fault)⟩ := by
  cases hu : unreached url with
  | some fault =>
    exact .inr ⟨fault, rfl, course_unreached client unreached redirects (request.follow url)
      script fault hu⟩
  | none =>
    refine .inl ?_
    have hfirst := course_first client unreached redirects (request.follow url) script hu
    rcases course_sent client unreached redirects (request.follow url) script with
      hnone | ⟨later, hsent, -⟩
    · simp [hnone] at hfirst
    · simp [hsent]

theorem course_continues (client : Client) (unreached : Network) (redirects : Nat)
    (request : Request) (script : Script) (i : Nat) (r : Request)
    (h : (course client unreached redirects request script).sent[i]? = some r) :
    (turn client r (script.getD i World.blankAnswer)).Continues unreached redirects
      (course client unreached redirects request script) i r := by
  -- a course ends where it cannot begin, with its answer, at the limit and where
  -- the URL is not of the web; in between it goes on as a course of its own
  fun_induction course client unreached redirects request script generalizing i with
  | case1 => simp at h
  | case2 redirects request script hu result ht =>
    obtain ⟨rfl, rfl⟩ : i = 0 ∧ request = r := by simpa [List.getElem?_singleton] using h
    rw [← List.headD_eq_getD, ht]
    exact ⟨rfl, rfl⟩
  | case3 request script hu url ht =>
    obtain ⟨rfl, rfl⟩ : i = 0 ∧ request = r := by simpa [List.getElem?_singleton] using h
    rw [← List.headD_eq_getD, ht]
    exact .inr ⟨rfl, _, rfl, .limit rfl⟩
  | case4 request script hu url ht redirects hh ih =>
    cases i with
    | zero =>
      obtain rfl : request = r := by simpa [Course.behind] using h
      rw [← List.headD_eq_getD, ht]
      rcases course_next client unreached redirects request script.tail url with
        hnext | ⟨fault, hfault, hcourse⟩
      · exact .inl (by simpa [Course.behind] using hnext)
      · rw [hcourse]
        exact .inr ⟨rfl, _, rfl, .unconnected (Nat.succ_pos _) hh fault hfault⟩
    | succ i =>
      have hrest := ih i (by simpa [Course.behind] using h)
      have htail : script.tail.getD i World.blankAnswer =
          script.getD (i + 1) World.blankAnswer := by cases script <;> simp
      rw [htail] at hrest
      exact hrest.behind unreached redirects _ i request r _
  | case5 request script hu url ht redirects hh =>
    obtain ⟨rfl, rfl⟩ : i = 0 ∧ request = r := by simpa [List.getElem?_singleton] using h
    rw [← List.headD_eq_getD, ht]
    exact .inr ⟨rfl, _, rfl, .scheme (Nat.succ_pos _) (by simpa using hh)⟩

end Transport

namespace Submitter

/-- What comes after each request of an operation. -/
theorem courseIn_continues (s : Submitter) (env : Surroundings) (o : Operation) (w : World)
    (i : Nat) (r : Request) (h : (s.courseIn env o w).sent[i]? = some r) :
    (turn s.client r (w.script.getD i World.blankAnswer)).Continues env.unreached redirectLimit
      (s.courseIn env o w) i r := by
  rcases s.courseIn_cases env o w with ⟨failure, hcourse⟩ | ⟨request, -, hcourse⟩
  · simp [hcourse] at h
  · rw [hcourse] at h ⊢
    exact course_continues s.client env.unreached redirectLimit request w.script i r h

end Submitter

theorem endingOf_load (result : Except Failure Response) (status : Status) (body : String) :
    endingOf result = .load status body ↔ result = .ok ⟨status, body⟩ := by
  rcases result with failure | ⟨status', body'⟩ <;> simp [endingOf]

/-- What an outcome says of an answer that decides it: a response if the answer
is whole, and else that there is no head or not all of the body. -/
structure Ending.Tells (ending : Ending) (reader : Reader) (request : Request)
    (bytes : List UInt8) : Prop where
  load : ∀ status body, ending = .load status body ↔ ∃ head data,
    Whole reader bytes head data ∧ status = head.status ∧ body = decoded reader head data
  headless : (∀ head rest, ¬Announced reader.headRoom bytes head rest) →
    ∃ fault, ending = .error (.transport (.unanswered request.url.render fault))
  unframed : ∀ head rest fault, Announced reader.headRoom bytes head rest →
    framing head = .error fault →
    ending = .error (.transport (.unanswered request.url.render fault))
  cut : ∀ head rest how, Announced reader.headRoom bytes head rest → framing head = .ok how →
    (∀ data, ¬Delivered reader.extensionRoom how rest data) →
    ∃ fault, ending = .error (.transport (.partialBody fault))

theorem endingOf_tells (result : Except Failure Response) (reader : Reader) (request : Request)
    (bytes : List UInt8) (h : Settled reader request bytes result) :
    (endingOf result).Tells reader request bytes where
  load status body := by
    rw [endingOf_load, h.whole]
    simp only [Response.mk.injEq]
  headless hnone := by
    obtain ⟨fault, rfl⟩ := h.headless hnone
    exact ⟨fault, rfl⟩
  unframed head rest fault hhead hhow := by
    rw [h.unframed head rest fault hhead hhow]
    rfl
  cut head rest how hhead hhow hpartial := by
    obtain ⟨fault, rfl⟩ := h.cut head rest how hhead hhow hpartial
    exact ⟨fault, rfl⟩

namespace Session

/-- An answer that sends the client nowhere else is the last, and the outcome
is a response if and only if that answer is whole. An answer that names a URL
is followed, or the outcome is a failure: the limit is reached, the URL is not
one that can be requested, or there is no connection. -/
theorem loads_whole_answers (client : Client) (base : String) (o : Operation)
    (env : Surroundings) (w : World) :
    let s := Submitter.ofBase client base
    let a := (answer env s (.await o) w).1
    ∃ outcome, a.result = .awaited outcome ∧
      ∀ i request, a.requests[i]? = some request →
        let bytes := w.script.getD i World.blankAnswer
        (Stays client request bytes →
          a.requests.length = i + 1 ∧ outcome.ending.Tells client.reader request bytes) ∧
        (∀ head rest how url, Announced client.reader.headRoom bytes head rest →
          framing head = .ok how → redirection? client request head = some url →
          a.requests[i + 1]? = some (request.follow url) ∨
            a.requests.length = i + 1 ∧ ∃ failure, outcome.ending = .error (.transport failure) ∧
              Declined env.unreached redirectLimit i request url failure) := by
  intro s
  simp only [answer_await]
  refine ⟨s.outcomeIn env o w, rfl, fun i request hi => ?_⟩
  have hgoes := s.courseIn_continues env o w i request hi
  constructor
  · intro hstays
    obtain ⟨result, hturn, hsettled⟩ := turn_stays client request _ hstays
    rw [show s.client = client from rfl, hturn] at hgoes
    obtain ⟨hlast, rfl⟩ := hgoes
    exact ⟨hlast, endingOf_tells _ client.reader request _ hsettled⟩
  · intro head rest how url hhead hhow hgo
    have hturn := (turn_elsewhere client request _ url).mpr
      ⟨head, rest, how, hhead, hhow, hgo⟩
    rw [show s.client = client from rfl, hturn] at hgoes
    rcases hgoes with hnext | ⟨hlast, failure, hresult, hwhy⟩
    · exact .inl hnext
    · refine .inr ⟨hlast, failure, ?_, hwhy⟩
      rw [Submitter.outcomeIn, hresult]
      rfl

def askedTwice [Reader] (first second : List UInt8) : Answer :=
  (answer .still (.ofBase {} "http://[::1]:8080") (.await (.list .servers))
    (.start [first, second])).1

attribute [local instance] Transport.Reader.usual

def awayAnswer : List UInt8 :=
  utf8 "HTTP/1.1 302 x\r\nlocation: /b\r\ncontent-length: 0\r\n\r\n"

def goneAnswer (length : String) : List UInt8 :=
  utf8 ("HTTP/1.1 404 x\r\ncontent-length: " ++ length ++ "\r\n\r\ngone")

def goneHead (length : String) : Head :=
  ⟨.http11, ⟨404, by decide⟩, [⟨"content-length", utf8 length⟩]⟩

/-- After a redirect, an answer that is whole and one that is cut short. -/
theorem gone_loaded :
    (∃ outcome status, (askedTwice awayAnswer (goneAnswer "4")).result = .awaited outcome ∧
      (askedTwice awayAnswer (goneAnswer "4")).requests.length = 2 ∧ status.code = 404 ∧
      outcome.ending = .load status "gone") ∧
    ∃ outcome fault, (askedTwice awayAnswer (goneAnswer "10")).result = .awaited outcome ∧
      (askedTwice awayAnswer (goneAnswer "10")).requests.length = 2 ∧
      outcome.ending = .error (.transport (.partialBody fault)) := by
  have hanswered (length : String)
      (hread : Head.readFinal headLimit ((goneAnswer length).length + 1) (goneAnswer length) =
        .ok (goneHead length, utf8 "gone"))
      (htwo : (askedTwice awayAnswer (goneAnswer length)).requests.length = 2) :
      ∃ outcome request, (askedTwice awayAnswer (goneAnswer length)).result = .awaited outcome ∧
        outcome.ending.Tells Reader.usual request (goneAnswer length) := by
    obtain ⟨outcome, hresult, hgoes⟩ := loads_whole_answers {} "http://[::1]:8080"
      (.list .servers) .still (.start [awayAnswer, goneAnswer length])
    have hstays (request : Request) : Stays {} request (goneAnswer length) := by
      intro head rest how hhead hhow
      have hsame := ((Head.readFinal_iff _ _ _ _).mpr hhead).symm.trans hread
      obtain ⟨rfl, -⟩ := Prod.mk.inj (Except.ok.inj hsame)
      rfl
    obtain ⟨-, htells⟩ := (hgoes 1 _ (List.getElem?_eq_getElem (by
      show 1 < (askedTwice awayAnswer (goneAnswer length)).requests.length
      omega))).1 (hstays _)
    exact ⟨outcome, _, hresult, htells⟩
  have htwo : (askedTwice awayAnswer (goneAnswer "4")).requests.length = 2 := by decide +kernel
  have htwo' : (askedTwice awayAnswer (goneAnswer "10")).requests.length = 2 := by decide +kernel
  have hread : Head.readFinal headLimit ((goneAnswer "4").length + 1) (goneAnswer "4") =
      .ok (goneHead "4", utf8 "gone") := by decide +kernel
  have hread' : Head.readFinal headLimit ((goneAnswer "10").length + 1) (goneAnswer "10") =
      .ok (goneHead "10", utf8 "gone") := by decide +kernel
  constructor
  · obtain ⟨outcome, request, hresult, htells⟩ := hanswered "4" hread htwo
    refine ⟨outcome, ⟨404, by decide⟩, hresult, htwo, rfl, (htells.load _ _).mpr
      ⟨goneHead "4", utf8 "gone", ?_, rfl, by decide +kernel⟩⟩
    exact ⟨_, .length 4, (Head.readFinal_iff _ _ _ _).mp hread, by decide +kernel,
      (readBody_iff _ _ _ _).mp (by decide)⟩
  · obtain ⟨outcome, request, hresult, htells⟩ := hanswered "10" hread' htwo'
    have hhow : framing (goneHead "10") = .ok (.length 10) := by decide +kernel
    obtain ⟨fault, hending⟩ := htells.cut _ _ _ ((Head.readFinal_iff _ _ _ _).mp hread') hhow
      fun data hdata => by
        have := (readBody_iff _ _ _ _).mpr hdata
        rw [readBody, if_pos (by decide)] at this
        cases this
    exact ⟨outcome, fault, hresult, htwo', hending⟩

def strayAnswer : List UInt8 :=
  utf8 "HTTP/1.1 302 x\r\nlocation: data:x\r\ncontent-length: 0\r\n\r\n"

def crowdedAnswer : List UInt8 :=
  utf8 "HTTP/1.1 200 x\r\n" ++ (List.replicate 101 (utf8 "a:\r\n")).flatten ++ utf8 "\r\n"

def asked [Reader] (bytes : List UInt8) : Result × Nat :=
  let a := (answer ⟨fun _ => ⟨0, 0⟩, fun _ => "", fun _ => none⟩
    (.ofBase {} "http://[::1]:8080") (.await (.list .servers)) (.start [bytes])).1
  (a.result, a.requests.length)

def strayHead : Head :=
  ⟨.http11, ⟨302, by decide⟩, [⟨"location", utf8 "data:x"⟩, ⟨"content-length", utf8 "0"⟩]⟩

def crowdedHead : Head := ⟨.http11, .ok, List.replicate 101 ⟨"a", []⟩⟩

theorem stray_whole : Whole Reader.usual strayAnswer strayHead [] := by
  have hread : Head.readFinal headLimit (strayAnswer.length + 1) strayAnswer =
      .ok (strayHead, []) := by
    decide +kernel
  have hhow : framing strayHead = .ok (.length 0) := by decide +kernel
  exact ⟨[], .length 0, (Head.readFinal_iff _ _ _ _).mp hread, hhow, .length [] []⟩

theorem headerLines_replicate (n : Nat) (line text : List UInt8) (header : Header)
    (headers : List Header) (hline : HeaderLine line header) (hrest : HeaderLines text headers) :
    HeaderLines ((List.replicate n line).flatten ++ text)
      (List.replicate n header ++ headers) := by
  induction n with
  | zero => exact hrest
  | succ n ih =>
    simp only [List.replicate_succ, List.flatten_cons, List.append_assoc, List.cons_append]
    exact .more line _ header _ hline ih

theorem crowded_head : HeadText crowdedAnswer crowdedHead := by
  have hline : HeaderLine (utf8 "a:\r\n") ⟨"a", []⟩ :=
    .mk [0x61] [] [] [] [0x0D, 0x0A] (by simp) (by decide +kernel) (by simp) (by simp) (by simp)
      (by simp) .long
  have hlines := headerLines_replicate 101 _ _ _ _ hline (.done _ .long)
  rw [List.append_nil] at hlines
  exact .mk [] .http11 (utf8 "200") (utf8 " x") [0x0D, 0x0A] _ .ok _ (by simp) (by decide +kernel)
    (by decide +kernel) (by decide +kernel) (.some [0x78] (by decide +kernel)) .long hlines

/-- Two answers that end the chain without a redirect too many, and are no
responses although the one is whole and the other has a head and goes on until
the connection is closed. -/
theorem complete_answers_refused :
    (Whole Reader.usual strayAnswer strayHead [] ∧
      asked strayAnswer = (.awaited ⟨"http://[::1]:8080/api/servers",
        .error (.transport (.refusedScheme "data:x")), ⟨0, 0⟩, ⟨0, 0⟩⟩, 1)) ∧
    (HeadText crowdedAnswer crowdedHead ∧ framing crowdedHead = .ok .untilClose ∧
      Delivered Reader.usual.extensionRoom .untilClose [] [] ∧
      asked crowdedAnswer = (.awaited ⟨"http://[::1]:8080/api/servers",
        .error (.transport (.unanswered "http://[::1]:8080/api/servers" .tooLarge)),
        ⟨0, 0⟩, ⟨0, 0⟩⟩, 1)) :=
  ⟨⟨stray_whole, by decide +kernel⟩, crowded_head, by decide +kernel, .untilClose [],
    by decide +kernel⟩

end Session

end MapClient
