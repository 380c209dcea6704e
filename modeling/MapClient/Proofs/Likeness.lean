import MapClient.Proofs.Dispatch
import MapClient.Proofs.Turns
import Mathlib.Data.List.Forall2
import Mathlib.Data.Option.Basic

/-!
# Answers that are alike

Two steps can be compared only up to the times of their outcomes and the
boundaries of their forms, which no step chooses. Up to these an operation is
decided by the answers that it uses, one for each request it sends, and its first
request by no answer at all.
-/

set_option autoImplicit false

namespace MapClient

open MapClient.Transport

inductive Transport.Request.Like : Request → Request → Prop
  | same (r : Request) : Like r r
  | form (r : Request) (record : Record) (boundary boundary' : String) :
    Like { r with payload := (Operation.submit record).payload boundary }
      { r with payload := (Operation.submit record).payload boundary' }

theorem Transport.Request.like_reform (r : Request) (o : Operation) (boundary boundary' : String)
    (h : r.payload = none ∨ r.payload = o.payload boundary) :
    r.Like (r.reform (o.payload boundary')) := by
  by_cases hplain : r.payload = none
  · rw [reform_plain (o.payload boundary') r hplain]
    exact .same r
  · have hform := h.resolve_left hplain
    cases o with
    | fetch path => exact absurd hform hplain
    | submit record =>
      have hr : r = { r with payload := (Operation.submit record).payload boundary } := by
        rw [← hform]
      have hother : r.reform ((Operation.submit record).payload boundary') =
          { r with payload := (Operation.submit record).payload boundary' } := by
        rw [reform, hform]
        rfl
      rw [hother]
      rw [hr]
      exact .form r record boundary boundary'

structure Transport.Course.Like (c c' : Course) : Prop where
  sent : List.Forall₂ Request.Like c.sent c'.sent
  result : c.result = c'.result

namespace Transport

section
variable (client : Client) (unreached : Network)

/-- A course is decided by the answers that it uses. -/
theorem course_used (redirects : Nat) (request : Request) (script script' : Script)
    (h : handed (course client unreached redirects request script).sent.length script' =
      handed (course client unreached redirects request script).sent.length script) :
    course client unreached redirects request script' =
      course client unreached redirects request script := by
  -- each request that is sent uses the head of both scripts, which `h` makes the same
  fun_induction course client unreached redirects request script generalizing script' with
  | case1 redirects request script fault hu =>
    exact course_unreached client unreached redirects request script' fault hu
  | case2 redirects request script hu result ht =>
    have hhead := (List.cons.inj h).1
    exact course_over client unreached redirects request script' hu result (hhead ▸ ht)
  | case3 request script hu url ht =>
    have hhead := (List.cons.inj h).1
    exact course_limit client unreached request script' hu url (hhead ▸ ht)
  | case4 request script hu url ht redirects hh ih =>
    obtain ⟨hhead, htail⟩ := List.cons.inj h
    rw [course_follow client unreached redirects request script' hu url (hhead ▸ ht) hh,
      ih script'.tail htail]
  | case5 request script hu url ht redirects hh =>
    have hhead := (List.cons.inj h).1
    exact course_refused client unreached redirects request script' hu url (hhead ▸ ht) hh

theorem course_head (redirects : Nat) (request : Request) (script : Script) :
    (course client unreached redirects request script).sent.head? =
      if (unreached request.url).isNone then some request else none := by
  fun_cases course client unreached redirects request script with
  | case1 redirects request script fault hu => simp [hu]
  | case2 redirects request script hu result ht => simp [hu]
  | case3 request script hu url ht => simp [hu]
  | case4 request script hu url ht redirects hh => simp [hu, Course.behind]
  | case5 request script hu url ht redirects hh => simp [hu]

end

end Transport

namespace Submitter

section
variable (s : Submitter) (unreached : Network) (boundary boundary' : String) (o : Operation)
  (script script' : Script)

theorem forms_of_course : ∀ r ∈ (s.course unreached boundary o script).sent,
    r.payload = none ∨ r.payload = o.payload boundary := by
  have h := s.course_forms ⟨fun _ => ⟨0, 0⟩, fun _ => boundary, unreached⟩ o (.start script)
  rw [courseIn] at h
  exact h

theorem course_reformed : (s.course unreached boundary o script).Like
    (s.course unreached boundary' o script) := by
  rw [course_boundary s unreached boundary boundary' o script]
  constructor
  · rw [Course.reform_sent, List.forall₂_map_right_iff, List.forall₂_same]
    intro r hr
    exact r.like_reform o boundary boundary'
      (s.forms_of_course unreached boundary o script r hr)
  · rw [Course.reform]

/-- An operation is decided by the answers that it uses. -/
theorem course_alike
    (h : handed (s.course unreached boundary o script).sent.length script' =
      handed (s.course unreached boundary o script).sent.length script) :
    (s.course unreached boundary o script).Like (s.course unreached boundary' o script') := by
  have hused : s.course unreached boundary o script' = s.course unreached boundary o script := by
    rw [course] at h ⊢
    cases hp : prepare s.client (s.endpoint o.path) (o.payload boundary) with
    | error failure => rw [course, hp]
    | ok request =>
      rw [hp] at h
      rw [course, hp]
      exact Transport.course_used s.client unreached redirectLimit request script script' h
  rw [← hused]
  exact s.course_reformed unreached boundary boundary' o script'

theorem first_alike : Option.Rel Request.Like (s.course unreached boundary o script).sent.head?
    (s.course unreached boundary' o script').sent.head? := by
  have hhead : (s.course unreached boundary o script).sent.head? =
      (s.course unreached boundary o script').sent.head? := by
    rw [course, course]
    cases prepare s.client (s.endpoint o.path) (o.payload boundary) with
    | error failure => rfl
    | ok request => rw [course_head, course_head]
  have hlike := (s.course_reformed unreached boundary boundary' o script').sent
  rw [hhead]
  generalize (s.course unreached boundary o script').sent = sent at hlike ⊢
  generalize (s.course unreached boundary' o script').sent = sent' at hlike ⊢
  cases hlike with
  | nil => exact .none
  | cons hfirst hrest => exact .some hfirst

end

section
variable (s : Submitter) (env env' : Surroundings) (o : Operation) (w w' : World)

theorem courseIn_alike (hnet : env'.unreached = env.unreached)
    (h : handed (s.courseIn env o w).sent.length w'.script =
      handed (s.courseIn env o w).sent.length w.script) :
    (s.courseIn env o w).Like (s.courseIn env' o w') := by
  rw [courseIn] at h ⊢
  rw [courseIn, hnet]
  exact s.course_alike env.unreached _ _ o w.script w'.script h

theorem outcomeIn_alike (h : (s.courseIn env o w).Like (s.courseIn env' o w')) :
    (s.outcomeIn env o w).sameButTimes (s.outcomeIn env' o w') := by
  constructor
  · rfl
  · exact congrArg endingOf h.result

theorem eventsIn_alike (h : (s.courseIn env o w).Like (s.courseIn env' o w')) :
    s.eventsIn env o w = s.eventsIn env' o w' := by
  rw [eventsIn, eventsIn, h.result]

end

end Submitter

structure Finished.Like (f f' : Finished) : Prop where
  join : f.join = f'.join
  kept : List.Forall₂ Outcome.sameButTimes f.kept f'.kept

theorem Reporter.finish_like (reporter : Reporter) (outcome outcome' : Outcome)
    (h : outcome.sameButTimes outcome') :
    (reporter.finish outcome).Like (reporter.finish outcome') := by
  cases reporter with
  | collect => exact ⟨rfl, .cons h .nil⟩
  | log => exact ⟨rfl, .nil⟩
  | panic => exact ⟨rfl, .nil⟩

def Log.Event.untimed (e : Log.Event) : Log.Event :=
  { e with fields := e.fields.map fun f => if f.1 = "elapsed_ms" then (f.1, "") else f }

theorem Outcome.report_untimed (outcome outcome' : Outcome) (h : outcome.sameButTimes outcome') :
    outcome.report.untimed = outcome'.report.untimed := by
  obtain ⟨hurl, hending⟩ := h
  rw [report, report, hurl, hending]
  cases outcome'.ending with
  | load status body => simp [Log.Event.untimed]
  | error e => simp [Log.Event.untimed]

theorem Reporter.events_untimed (reporter : Reporter) (outcome outcome' : Outcome)
    (h : outcome.sameButTimes outcome') :
    (reporter.events outcome).map Log.Event.untimed =
      (reporter.events outcome').map Log.Event.untimed := by
  cases reporter with
  | log => exact congrArg (fun e => [e]) (outcome.report_untimed outcome' h)
  | collect => rfl
  | panic => rfl

namespace Session

inductive Result.Like : Result → Result → Prop
  | finished (f f' : Finished) (h : f.Like f') : Like (.finished f) (.finished f')
  | awaited (outcome outcome' : Outcome) (h : outcome.sameButTimes outcome') :
    Like (.awaited outcome) (.awaited outcome')
  | text (t : String) : Like (.text t) (.text t)

structure Answer.Like (a a' : Answer) : Prop where
  result : a.result.Like a'.result
  requests : List.Forall₂ Request.Like a.requests a'.requests
  events : a.events.map Log.Event.untimed = a'.events.map Log.Event.untimed

end Session

end MapClient
