import MapClient.Submitter

/-!
# The course of an exchange

A run asks its surroundings again and again. What an exchange comes to is
fixed by the URLs that cannot be reached and by what the backend will send, so
it can be told beforehand: the requests that the backend gets, first first, and
the result. Nothing else of the surroundings matters, and of a form only that
there is one.
-/

set_option autoImplicit false

namespace MapClient

namespace Task

variable {α β : Type}

theorem run_bind (env : Surroundings) (t : Task α) (f : α → Task β) (w : World) :
    (t.bind f).run env w = (f (t.run env w).1).run env (t.run env w).2 := by
  induction t generalizing w with
  | done a => rfl
  | now next ih => exact ih _ _
  | boundary next ih => exact ih _ _
  | log event next ih => exact ih _
  | ask request next ih => exact ih _ _

theorem run_seq (env : Surroundings) (t : Task α) (f : α → Task β) (w : World) :
    (t >>= f).run env w = (f (t.run env w).1).run env (t.run env w).2 :=
  run_bind env t f w

theorem run_pure (env : Surroundings) (a : α) (w : World) :
    (pure a : Task α).run env w = (a, w) := rfl

theorem run_write (env : Surroundings) (event : Log.Event) (w : World) :
    (write event).run env w = ((), { w with logged := event :: w.logged }) := rfl

theorem run_time (env : Surroundings) (w : World) :
    time.run env w = (env.clock w.readings, { w with readings := w.readings + 1 }) := rfl

end Task

namespace World

def after (w : World) (sent : List Transport.Request) : World :=
  { w with script := w.script.drop sent.length, received := sent.reverse ++ w.received }

theorem after_append (w : World) (sent more : List Transport.Request) :
    (w.after sent).after more = w.after (sent ++ more) := by
  simp [after]

theorem reply_unreached (env : Surroundings) (w : World) (request : Transport.Request)
    (fault : Http.ConnectFault) (h : env.unreached request.url = some fault) :
    w.reply env request = (.error fault, w) := by
  simp [reply, h]

theorem reply_reached (env : Surroundings) (w : World) (request : Transport.Request)
    (h : env.unreached request.url = none) :
    w.reply env request = (.ok (w.script.headD blankAnswer), w.after [request]) := by
  simp only [reply, h, answer, after, List.length_singleton, List.drop_one,
    List.reverse_singleton, List.singleton_append]

end World

namespace Transport

abbrev Script := List (List UInt8)

abbrev Network := Url → Option Http.ConnectFault

inductive Turn where
  | over (result : Except Failure Response)
  | elsewhere (url : Url)

def turn (client : Client) (request : Request) (bytes : List UInt8) : Turn :=
  match readAnswer client.reader request (.ok bytes) with
  | .error failure => .over (.error failure)
  | .ok answer =>
    match redirection? client request answer.head with
    | none => .over (answer.load client.reader)
    | some url => .elsewhere url

/-- The requests that the backend gets, in order, and what comes of them. -/
structure Course where
  sent : List Request
  result : Except Failure Response

def Course.behind (request : Request) (c : Course) : Course := ⟨request :: c.sent, c.result⟩

def course (client : Client) (unreached : Network) : Nat → Request → Script → Course
  | redirects, request, script =>
    match unreached request.url with
    | some fault => ⟨[], .error (.unconnected request.url.render fault)⟩
    | none =>
      match turn client request (script.headD World.blankAnswer) with
      | .over result => ⟨[request], result⟩
      | .elsewhere url =>
        match redirects with
        | 0 => ⟨[request], .error (.tooManyRedirects request.url.render)⟩
        | redirects + 1 =>
          if url.isHttp then
            (course client unreached redirects (request.follow url) script.tail).behind request
          else ⟨[request], .error (.refusedScheme url.render)⟩

section
variable (client : Client) (unreached : Network) (redirects : Nat) (request : Request)
  (script : Script)

theorem course_unfold :
    course client unreached redirects request script =
      match unreached request.url with
      | some fault => ⟨[], .error (.unconnected request.url.render fault)⟩
      | none =>
        match turn client request (script.headD World.blankAnswer) with
        | .over result => ⟨[request], result⟩
        | .elsewhere url =>
          match redirects with
          | 0 => ⟨[request], .error (.tooManyRedirects request.url.render)⟩
          | redirects + 1 =>
            if url.isHttp then
              (course client unreached redirects (request.follow url) script.tail).behind request
            else ⟨[request], .error (.refusedScheme url.render)⟩ := by
  rw [course.eq_def]

theorem course_unreached (fault : Http.ConnectFault) (hu : unreached request.url = some fault) :
    course client unreached redirects request script =
      ⟨[], .error (.unconnected request.url.render fault)⟩ := by
  rw [course_unfold]
  simp only [hu]

theorem course_over (hu : unreached request.url = none) (result : Except Failure Response)
    (ht : turn client request (script.headD World.blankAnswer) = .over result) :
    course client unreached redirects request script = ⟨[request], result⟩ := by
  rw [course_unfold]
  simp only [hu, ht]

theorem course_limit (hu : unreached request.url = none) (url : Url)
    (ht : turn client request (script.headD World.blankAnswer) = .elsewhere url) :
    course client unreached 0 request script =
      ⟨[request], .error (.tooManyRedirects request.url.render)⟩ := by
  rw [course_unfold]
  simp only [hu, ht]

theorem course_follow (hu : unreached request.url = none) (url : Url)
    (ht : turn client request (script.headD World.blankAnswer) = .elsewhere url)
    (hh : url.isHttp = true) :
    course client unreached (redirects + 1) request script =
      (course client unreached redirects (request.follow url) script.tail).behind request := by
  rw [course_unfold]
  simp only [hu, ht, hh, if_true]

theorem course_refused (hu : unreached request.url = none) (url : Url)
    (ht : turn client request (script.headD World.blankAnswer) = .elsewhere url)
    (hh : ¬url.isHttp = true) :
    course client unreached (redirects + 1) request script =
      ⟨[request], .error (.refusedScheme url.render)⟩ := by
  rw [course_unfold]
  simp only [hu, ht, if_neg hh]

end

/-- What an exchange does with a reply, by the turn that the reply leads to. -/
theorem exchange_ask (client : Client) (redirects : Nat) (request : Request) :
    exchange client redirects request = .ask request fun
      | .error fault => .done (.error (.unconnected request.url.render fault))
      | .ok bytes =>
        match turn client request bytes with
        | .over result => .done result
        | .elsewhere url =>
          match redirects with
          | 0 => .done (.error (.tooManyRedirects request.url.render))
          | redirects + 1 =>
            if url.isHttp then exchange client redirects (request.follow url)
            else .done (.error (.refusedScheme url.render)) := by
  rw [exchange.eq_def]
  dsimp only
  congr 1
  funext reply
  cases reply with
  | error fault => rfl
  | ok bytes =>
    simp only [turn]
    cases readAnswer client.reader request (.ok bytes) with
    | error failure => rfl
    | ok answer =>
      dsimp only
      cases redirection? client request answer.head <;> rfl

/-- An exchange takes the course that is told beforehand. -/
theorem exchange_run (client : Client) (env : Surroundings) (redirects : Nat)
    (request : Request) (w : World) :
    (exchange client redirects request).run env w =
      ((course client env.unreached redirects request w.script).result,
        w.after (course client env.unreached redirects request w.script).sent) := by
  generalize hs : w.script = script
  fun_induction course client env.unreached redirects request script generalizing w with
  | case1 redirects request script fault hu =>
    rw [exchange_ask, Task.run, World.reply_unreached env w request fault hu]
    rfl
  | case2 redirects request script hu result ht =>
    rw [exchange_ask, Task.run, World.reply_reached env w request hu, hs]
    simp only [ht, Task.run]
  | case3 request script hu url ht =>
    rw [exchange_ask, Task.run, World.reply_reached env w request hu, hs]
    simp only [ht, Task.run]
  | case4 request script hu url ht redirects hh ih =>
    rw [exchange_ask, Task.run, World.reply_reached env w request hu, hs]
    simp only [ht, hh, if_true]
    rw [ih (w.after [request]) (by simp [World.after, hs]), World.after_append]
    rfl
  | case5 request script hu url ht redirects hh =>
    rw [exchange_ask, Task.run, World.reply_reached env w request hu, hs]
    simp only [ht, hh]
    rfl

theorem follow_payload (r : Request) (url : Url) : (r.follow url).payload = none := rfl

theorem course_plain (client : Client) (unreached : Network) (redirects : Nat)
    (request : Request) (script : Script) (h : request.payload = none) :
    ∀ r ∈ (course client unreached redirects request script).sent, r.payload = none := by
  fun_induction course client unreached redirects request script with
  | case1 => simp
  | case2 => simpa using h
  | case3 => simpa using h
  | case4 request script hu url ht redirects hh ih =>
    intro r hr
    rcases List.mem_cons.mp hr with rfl | hr
    · exact h
    · exact ih (follow_payload request url) r hr
  | case5 => simpa using h

/-- The first request of a course is the one it begins with, and only that one
has a form. -/
theorem course_sent (client : Client) (unreached : Network) (redirects : Nat)
    (request : Request) (script : Script) :
    (course client unreached redirects request script).sent = [] ∨
      ∃ later, (course client unreached redirects request script).sent = request :: later ∧
        ∀ r ∈ later, r.payload = none := by
  fun_induction course client unreached redirects request script with
  | case1 => exact .inl rfl
  | case2 => exact .inr ⟨[], rfl, by simp⟩
  | case3 => exact .inr ⟨[], rfl, by simp⟩
  | case4 request script hu url ht redirects hh ih =>
    exact .inr ⟨_, rfl, course_plain client unreached redirects (request.follow url) script.tail
      (follow_payload request url)⟩
  | case5 => exact .inr ⟨[], rfl, by simp⟩

theorem course_first (client : Client) (unreached : Network) (redirects : Nat)
    (request : Request) (script : Script) (h : unreached request.url = none) :
    request ∈ (course client unreached redirects request script).sent := by
  fun_cases course client unreached redirects request script with
  | case1 redirects request script fault hu => simp [h] at hu
  | case2 => exact List.mem_cons_self
  | case3 => exact List.mem_cons_self
  | case4 => exact List.mem_cons_self
  | case5 => exact List.mem_cons_self

def Request.reform (payload : Option Payload) (r : Request) : Request :=
  { r with payload := r.payload.bind fun _ => payload }

theorem Request.reform_plain (payload : Option Payload) (r : Request) (h : r.payload = none) :
    r.reform payload = r := by
  cases r
  simp_all [Request.reform]

def Course.reform (payload : Option Payload) (c : Course) : Course :=
  ⟨c.sent.map (Request.reform payload), c.result⟩

theorem Course.reform_sent (payload : Option Payload) (c : Course) :
    (c.reform payload).sent = c.sent.map (Request.reform payload) := rfl

theorem Course.reform_plain (payload : Option Payload) (c : Course)
    (h : ∀ r ∈ c.sent, r.payload = none) : c.reform payload = c := by
  have hmap : c.sent.map (Request.reform payload) = c.sent.map id :=
    List.map_congr_left fun r hr => Request.reform_plain payload r (h r hr)
  rw [Course.reform, hmap, List.map_id]

/-- Of a form only that there is one decides what an answer leads to. -/
theorem turn_reform (client : Client) (request : Request) (payload : Option Payload)
    (bytes : List UInt8) (h : payload.isSome = request.payload.isSome) :
    turn client (request.reform payload) bytes = turn client request bytes := by
  have hn : (request.reform payload).payload.isNone = request.payload.isNone := by
    cases hp : request.payload <;> cases payload <;> simp_all [Request.reform]
  simp only [turn, redirection?, asksElsewhere, hn]
  rfl

/-- With another form the course is the same, but for that form. -/
theorem course_reform (client : Client) (unreached : Network) (redirects : Nat)
    (request : Request) (payload : Option Payload) (script : Script)
    (h : payload.isSome = request.payload.isSome) :
    course client unreached redirects (request.reform payload) script =
      (course client unreached redirects request script).reform payload := by
  have hturn := turn_reform client request payload (script.headD World.blankAnswer) h
  fun_induction course client unreached redirects request script with
  | case1 redirects request script fault hu =>
    exact course_unreached client unreached redirects (request.reform payload) script fault hu
  | case2 redirects request script hu result ht =>
    exact course_over client unreached redirects (request.reform payload) script hu result
      (hturn.trans ht)
  | case3 request script hu url ht =>
    exact course_limit client unreached (request.reform payload) script hu url (hturn.trans ht)
  | case4 request script hu url ht redirects hh ih =>
    rw [course_follow client unreached redirects (request.reform payload) script hu url
      (hturn.trans ht) hh]
    have hplain := Course.reform_plain payload _ (course_plain client unreached redirects
      (request.follow url) script.tail (follow_payload request url))
    exact congrArg (Course.behind (request.reform payload)) hplain.symm
  | case5 request script hu url ht redirects hh =>
    exact course_refused client unreached redirects (request.reform payload) script hu url
      (hturn.trans ht) hh

end Transport

end MapClient
