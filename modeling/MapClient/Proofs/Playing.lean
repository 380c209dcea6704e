import MapClient.Proofs.Likeness

/-!
# What a task makes of its answers

The task of an operation sends and comes to what the course of the operation
says for the answers that it gets. When it gets them, and what happens between
them, shows in the times and the boundary alone.
-/

set_option autoImplicit false

namespace MapClient

open MapClient.Transport

namespace Task

section
variable (unreached : Network)

theorem runs_done {α : Type} (a b : α) (ds : List Delivery)
    (h : Runs unreached (.done a) ds b) : ds = [] ∧ b = a := by
  cases h with
  | done => exact ⟨rfl, rfl⟩

theorem runs_write (event : Log.Event) (u : Unit) (ds : List Delivery)
    (h : Runs unreached (write event) ds u) : ds = [] := by
  cases h with
  | log event next ds u h => exact (runs_done unreached () u ds h).1

theorem runs_time (t : Instant) (ds : List Delivery) (h : Runs unreached time ds t) :
    ds = [] := by
  cases h with
  | now next now ds t h => exact (runs_done unreached now t ds h).1

theorem runs_payload (o : Operation) (payload : Option Payload) (ds : List Delivery)
    (h : Runs unreached (Submitter.payload o) ds payload) :
    ds = [] ∧ ∃ boundary, payload = o.payload boundary := by
  cases o with
  | fetch path =>
    obtain ⟨hds, hpayload⟩ := runs_done unreached _ payload ds h
    exact ⟨hds, "", hpayload⟩
  | submit record =>
    cases h with
    | boundary next name ds payload h =>
      obtain ⟨hds, hpayload⟩ := runs_done unreached _ payload ds h
      exact ⟨hds, name, hpayload⟩

theorem runs_exchange (client : Client) (redirects : Nat) (request : Request)
    (result : Except Failure Response) (ds : List Delivery)
    (h : Runs unreached (exchange client redirects request) ds result) :
    course client unreached redirects request (ds.map (·.answer)) =
      ⟨ds.map (·.request), result⟩ := by
  -- an answer that is followed leaves fewer answers to get
  induction ds generalizing redirects request with
  | nil =>
    rw [exchange_ask] at h
    cases h with
    | lost request next fault ds result hu h =>
      obtain ⟨-, rfl⟩ := runs_done unreached _ _ _ h
      exact course_unreached client unreached redirects request _ fault hu
  | cons x ds ih =>
    rw [exchange_ask] at h
    cases h with
    | lost request next fault ds result hu h =>
      obtain ⟨hnil, -⟩ := runs_done unreached _ _ _ h
      cases hnil
    | answered request next bytes ds result hu h =>
      rcases ht : turn client request bytes with final | url
      · simp only [ht] at h
        obtain ⟨rfl, rfl⟩ := runs_done unreached _ _ _ h
        exact course_over client unreached redirects request _ hu _ ht
      · simp only [ht] at h
        cases redirects with
        | zero =>
          obtain ⟨rfl, rfl⟩ := runs_done unreached _ _ _ h
          exact course_limit client unreached request _ hu url ht
        | succ redirects =>
          by_cases hh : url.isHttp = true
          · simp only [if_pos hh] at h
            have hrest := ih redirects (request.follow url) h
            rw [List.map_cons, course_follow client unreached redirects request
              (bytes :: ds.map (·.answer)) hu url ht hh]
            exact congrArg (Course.behind request) hrest
          · simp only [if_neg hh] at h
            obtain ⟨rfl, rfl⟩ := runs_done unreached _ _ _ h
            exact course_refused client unreached redirects request _ hu url ht hh

theorem runs_sending (s : Submitter) (o : Operation) (boundary : String)
    (result : Except Failure Response) (ds : List Delivery)
    (h : Runs unreached (Transport.perform s.client
      (prepare s.client (s.endpoint o.path) (o.payload boundary))) ds result) :
    s.course unreached boundary o (ds.map (·.answer)) = ⟨ds.map (·.request), result⟩ := by
  rw [Submitter.course]
  cases hp : prepare s.client (s.endpoint o.path) (o.payload boundary) with
  | error failure =>
    rw [hp] at h
    obtain ⟨rfl, rfl⟩ := runs_done unreached _ _ _ h
    rfl
  | ok request =>
    rw [hp] at h
    exact runs_exchange unreached s.client redirectLimit request result ds h

/-- An operation takes the course that its own answers lead it on. -/
theorem runs_perform (s : Submitter) (o : Operation) (outcome : Outcome) (ds : List Delivery)
    (h : Runs unreached (s.perform o) ds outcome) :
    ∃ boundary result, s.course unreached boundary o (ds.map (·.answer)) =
        ⟨ds.map (·.request), result⟩ ∧
      outcome.url = s.endpoint o.path ∧ outcome.ending = endingOf result := by
  simp only [Submitter.perform] at h
  obtain ⟨begun, rest, _, rfl, hwrite, hprepare⟩ := runs_seq unreached _ _ ds outcome h
  obtain ⟨drawn, rest, payload, rfl, hpayload, hdispatch⟩ :=
    runs_seq unreached _ _ rest outcome hprepare
  obtain ⟨read, rest, _, rfl, htime, hsend⟩ := runs_seq unreached _ _ rest outcome hdispatch
  obtain ⟨asked, rest, result, rfl, hexchange, hconclude⟩ :=
    runs_seq unreached _ _ rest outcome hsend
  obtain ⟨ended, rest, _, rfl, hwrite', hcomplete⟩ :=
    runs_seq unreached _ _ rest outcome hconclude
  obtain ⟨read', rest, _, rfl, htime', hreturn⟩ := runs_seq unreached _ _ rest outcome hcomplete
  obtain ⟨rfl, boundary, rfl⟩ := runs_payload unreached o payload drawn hpayload
  obtain rfl := runs_write unreached _ _ begun hwrite
  obtain rfl := runs_time unreached _ read htime
  obtain rfl := runs_write unreached _ _ ended hwrite'
  obtain rfl := runs_time unreached _ read' htime'
  obtain ⟨rfl, rfl⟩ := runs_done unreached _ _ _ hreturn
  refine ⟨boundary, result, ?_, rfl, rfl⟩
  simp only [List.nil_append, List.append_nil]
  exact runs_sending unreached s o boundary result asked hexchange

end

end Task

/-- A chain ends with the first answer that sends no one on. -/
theorem Transport.course_over_once (client : Client) (unreached : Network) (redirects : Nat)
    (request : Request) (script : Script)
    (h : ∀ r ∈ (course client unreached redirects request script).sent,
      ∃ result, turn client r (script.headD World.blankAnswer) = .over result) :
    (course client unreached redirects request script).sent.length ≤ 1 := by
  cases hu : unreached request.url with
  | some fault => simp [course_unreached client unreached redirects request script fault hu]
  | none =>
    obtain ⟨result, ht⟩ :=
      h request (course_first client unreached redirects request script hu)
    simp [course_over client unreached redirects request script hu result ht]

theorem Submitter.course_over_once (s : Submitter) (unreached : Network) (boundary : String)
    (o : Operation) (script : Script)
    (h : ∀ r ∈ (s.course unreached boundary o script).sent,
      ∃ result, turn s.client r (script.headD World.blankAnswer) = .over result) :
    (s.course unreached boundary o script).sent.length ≤ 1 := by
  rw [course] at h ⊢
  cases hp : prepare s.client (s.endpoint o.path) (o.payload boundary) with
  | error failure => exact Nat.zero_le 1
  | ok request =>
    rw [hp] at h
    exact Transport.course_over_once s.client unreached redirectLimit request script h

namespace Session

inductive Played (s : Submitter) (unreached : Network) :
    Dispatch → List Delivery → Finished → Prop
  | calledOff (o : Operation) (reporter : Reporter) :
    Played s unreached ⟨o, reporter, true⟩ [] ⟨.cancelled, []⟩
  | performed (o : Operation) (reporter : Reporter) (boundary : String)
    (result : Except Failure Response) (outcome : Outcome) (ds : List Delivery)
    (hcourse : s.course unreached boundary o (ds.map (·.answer)) = ⟨ds.map (·.request), result⟩)
    (hurl : outcome.url = s.endpoint o.path) (hending : outcome.ending = endingOf result) :
    Played s unreached ⟨o, reporter, false⟩ ds (reporter.finish outcome)

section
variable {s : Submitter} {unreached : Network} {d : Dispatch} {ds ds' : List Delivery}
  {f f' : Finished}

theorem runs_deliver (reporter : Reporter) (outcome : Outcome)
    (h : Task.Runs unreached (deliver reporter outcome) ds f) :
    ds = [] ∧ f = reporter.finish outcome := by
  cases reporter with
  | collect => exact Task.runs_done unreached _ _ _ h
  | panic => exact Task.runs_done unreached _ _ _ h
  | log =>
    cases h with
    | log event next ds f h => exact Task.runs_done unreached _ _ _ h

theorem runs_task (h : Task.Runs unreached (task s d) ds f) : Played s unreached d ds f := by
  obtain ⟨o, reporter, calledOff⟩ := d
  cases calledOff with
  | true =>
    obtain ⟨rfl, rfl⟩ := Task.runs_done unreached _ _ _ h
    exact .calledOff o reporter
  | false =>
    obtain ⟨first, later, outcome, rfl, hperform, hdeliver⟩ :=
      Task.runs_bind unreached _ _ ds f h
    obtain ⟨rfl, rfl⟩ := runs_deliver reporter outcome hdeliver
    obtain ⟨boundary, result, hcourse, hurl, hending⟩ :=
      Task.runs_perform unreached s o outcome first hperform
    rw [List.append_nil]
    exact .performed o reporter boundary result outcome first hcourse hurl hending

theorem Played.first (h : Played s unreached d ds f) (h' : Played s unreached d ds' f') :
    Option.Rel Request.Like (ds.map (·.request)).head? (ds'.map (·.request)).head? := by
  cases h with
  | calledOff o reporter =>
    cases h' with
    | calledOff => exact .none
  | performed o reporter boundary result outcome ds hcourse hurl hending =>
    cases h' with
    | performed _ _ boundary' result' outcome' ds' hcourse' hurl' hending' =>
      have hfirst := s.first_alike unreached boundary boundary' o (ds.map (·.answer))
        (ds'.map (·.answer))
      rwa [hcourse, hcourse'] at hfirst

/-- Tasks that get the same answers send the same and come to the same. -/
theorem Played.alike (h : Played s unreached d ds f) (h' : Played s unreached d ds' f')
    (hsame : handed ds.length (ds'.map (·.answer)) = handed ds.length (ds.map (·.answer))) :
    List.Forall₂ Request.Like (ds.map (·.request)) (ds'.map (·.request)) ∧ f.Like f' := by
  cases h with
  | calledOff o reporter =>
    cases h' with
    | calledOff => exact ⟨.nil, rfl, .nil⟩
  | performed o reporter boundary result outcome ds hcourse hurl hending =>
    cases h' with
    | performed _ _ boundary' result' outcome' ds' hcourse' hurl' hending' =>
      have hlike := s.course_alike unreached boundary boundary' o (ds.map (·.answer))
        (ds'.map (·.answer)) (by rw [hcourse, List.length_map]; exact hsame)
      rw [hcourse, hcourse'] at hlike
      refine ⟨hlike.sent, reporter.finish_like outcome outcome' ⟨hurl.trans hurl'.symm, ?_⟩⟩
      rw [hending, hending']
      exact congrArg endingOf hlike.result

theorem Played.once (h : Played s unreached d ds f) (bytes : List UInt8)
    (hbytes : ∀ x ∈ ds, x.answer = bytes)
    (hover : ∀ x ∈ ds, ∃ result, turn s.client x.request bytes = .over result) :
    ds.length ≤ 1 := by
  cases h with
  | calledOff o reporter => exact Nat.zero_le 1
  | performed o reporter boundary result outcome ds hcourse hurl hending =>
    have hlength := s.course_over_once unreached boundary o (ds.map (·.answer)) fun r hr => by
      rw [hcourse] at hr
      obtain ⟨x, hx, rfl⟩ := List.mem_map.mp hr
      have hhead : (ds.map (·.answer)).headD World.blankAnswer = bytes := by
        cases ds with
        | nil => cases hx
        | cons y ds => exact hbytes y List.mem_cons_self
      rw [hhead]
      exact hover x hx
    rwa [hcourse, List.length_map] at hlength

end

end Session

end MapClient
