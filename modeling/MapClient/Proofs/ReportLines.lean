import MapClient.Proofs.Loading
import MapClient.Proofs.Printing

/-!
# Reports and their lines

The log reporter writes one record for the outcome of an operation. Statuses and
the texts of errors are of printing characters, also where they name a URL, so
a line break in a record can only come from the base, which is written as it was
given.
-/

set_option autoImplicit false

namespace MapClient

open MapClient.Http MapClient.Text MapClient.Transport
open MapClient.Url (Printing printing_append printing_cons printing_nil repr_prints)

theorem printing_text {s t : String} (hs : Printing s.toList) (ht : Printing t.toList) :
    Printing (s ++ t).toList := by
  rw [String.toList_append]
  exact printing_append hs ht

theorem Http.Status.reason_listed (status : Status) :
    ∃ reason ∈ "<unknown status code>" :: Status.reasons.map Prod.snd,
      status.render = Nat.repr status.code ++ " " ++ reason := by
  cases hreason : Status.reasons.lookup status.code with
  | none => exact ⟨_, List.mem_cons_self, by rw [render, hreason]; rfl⟩
  | some reason =>
    obtain ⟨front, back, hsplit, -⟩ := List.lookup_eq_some_iff.mp hreason
    have hlisted : (status.code, reason) ∈ Status.reasons :=
      hsplit ▸ List.mem_append_right _ List.mem_cons_self
    refine ⟨reason, List.mem_cons_of_mem _ (List.mem_map_of_mem hlisted), ?_⟩
    rw [render, hreason]
    rfl

theorem reasons_plain : ∀ reason ∈ "<unknown status code>" :: Status.reasons.map Prod.snd,
    Printing reason.toList ∧ '\x22' ∉ reason.toList := by
  decide

theorem Http.Status.prints (status : Status) : Printing status.render.toList := by
  obtain ⟨reason, hlisted, hrender⟩ := status.reason_listed
  rw [hrender]
  exact printing_text (printing_text (repr_prints _) (by decide)) (reasons_plain reason hlisted).1

namespace Transport

theorem chain_prints (steps : List String) (h : ∀ s ∈ steps, Printing s.toList) :
    Printing ((Failure.chain steps).headD "").toList := by
  fun_induction Failure.chain steps with
  | case1 => exact printing_nil
  | case2 step => exact h step List.mem_cons_self
  | case3 step steps _ ih =>
    exact printing_text (printing_text (h step List.mem_cons_self) (by decide))
      (ih fun s hs => h s (List.mem_cons_of_mem step hs))

def Failure.Prints : Failure → Prop
  | .malformedUrl _ | .partialBody _ => True
  | .refusedScheme url | .untargetable url | .tooManyRedirects url => Printing url.toList
  | .unconnected url _ | .unanswered url _ => Printing url.toList

theorem steps_named (lead url : String) (rest : List String) (hlead : Printing lead.toList)
    (hurl : Printing url.toList) (hrest : ∀ s ∈ rest, Printing s.toList) :
    ∀ s ∈ (lead ++ url ++ ")") :: rest, Printing s.toList := by
  intro s hs
  rcases List.mem_cons.mp hs with rfl | hs
  · exact printing_text (printing_text hlead hurl) (by decide)
  · exact hrest s hs

theorem Failure.message_prints (f : Failure) (h : f.Prints) : Printing f.message.toList := by
  refine chain_prints f.steps ?_
  cases f with
  | malformedUrl fault => cases fault <;> decide
  | refusedScheme url => exact steps_named _ url _ (by decide) h (by decide)
  | untargetable url => exact steps_named _ url _ (by decide) h (by decide)
  | unconnected url fault =>
    exact steps_named _ url _ (by decide) h (by cases fault <;> decide)
  | unanswered url fault =>
    exact steps_named _ url _ (by decide) h (by cases fault <;> decide)
  | tooManyRedirects url => exact steps_named _ url _ (by decide) h (by decide)
  | partialBody fault => cases fault <;> decide

theorem render_prints (u : Url) (h : u.Prints) : Printing u.render.toList := by
  rw [Url.render, String.toList_ofList]
  exact h.rendered

theorem takeCredentials_prints (u : Url) (h : u.Prints) : (takeCredentials u).1.Prints := by
  unfold takeCredentials
  split
  · exact h
  · rename_i a ha
    split
    · exact h
    · refine ⟨h.scheme, ?_, h.path, h.query, h.fragment⟩
      rintro b hb
      obtain rfl := Option.some.inj hb
      exact ⟨printing_nil, printing_nil, (h.authority a ha).host⟩

theorem prepare_fails (client : Client) (text : String) (payload : Option Payload)
    (failure : Failure) (h : prepare client text payload = .error failure) : failure.Prints := by
  unfold prepare at h
  cases hparse : Url.parse text with
  | error fault =>
    simp only [hparse] at h
    obtain rfl := Except.error.inj h
    trivial
  | ok full =>
    have hfull := Url.parse_prints text full hparse
    have htaken := takeCredentials_prints full hfull
    simp only [hparse] at h
    split_ifs at h
    · obtain rfl := Except.error.inj h
      exact render_prints full hfull
    · obtain rfl := Except.error.inj h
      exact render_prints _ htaken
    · obtain rfl := Except.error.inj h
      exact render_prints _ htaken

theorem prepare_prints (client : Client) (text : String) (payload : Option Payload)
    (request : Request) (h : prepare client text payload = .ok request) :
    request.url.Prints := by
  obtain ⟨full, hparse, -, -, -, rfl⟩ := Submitter.prepare_ok client text payload request h
  exact takeCredentials_prints full (Url.parse_prints text full hparse)

theorem turn_over_prints (client : Client) (request : Request) (bytes : List UInt8)
    (hr : request.url.Prints) (failure : Failure)
    (h : turn client request bytes = .over (.error failure)) : failure.Prints := by
  unfold turn at h
  rcases readAnswer_cases client.reader request bytes with ⟨fault, hread⟩ | ⟨answer, hread⟩
  · simp only [hread] at h
    obtain rfl := Except.error.inj (Turn.over.inj h)
    exact render_prints _ hr
  · simp only [hread] at h
    split at h
    · have hload := Turn.over.inj h
      unfold Answer.load at hload
      split at hload
      · exact Except.error.inj hload ▸ trivial
      · cases hload
    · cases h

theorem turn_elsewhere_prints (client : Client) (request : Request) (bytes : List UInt8)
    (hr : request.url.Prints) (url : Url) (h : turn client request bytes = .elsewhere url) :
    url.Prints := by
  obtain ⟨head, -, -, -, -, hother⟩ := (turn_elsewhere client request bytes url).mp h
  unfold redirection? at hother
  split_ifs at hother
  simp only [location?, bind, Option.bind_eq_some_iff] at hother
  obtain ⟨bytes, -, text, -, next, hnext, hurl⟩ := hother
  split_ifs at hurl
  obtain rfl := Option.some.inj hurl
  refine Url.resolve_prints request.url hr text next ?_
  cases hresolve : request.url.resolve text with
  | error fault =>
    rw [hresolve] at hnext
    cases hnext
  | ok read =>
    rw [hresolve] at hnext
    rw [Option.some.inj hnext]

/-- Whatever a course fails with is said in printing characters. -/
theorem course_prints (client : Client) (unreached : Network) (redirects : Nat)
    (request : Request) (script : Script) (hr : request.url.Prints) (failure : Failure)
    (h : (course client unreached redirects request script).result = .error failure) :
    failure.Prints := by
  fun_induction course client unreached redirects request script with
  | case1 redirects request script fault hu =>
    obtain rfl := Except.error.inj h
    exact render_prints _ hr
  | case2 redirects request script hu result ht =>
    obtain rfl : result = .error failure := h
    exact turn_over_prints client request _ hr failure ht
  | case3 request script hu url ht =>
    obtain rfl := Except.error.inj h
    exact render_prints _ hr
  | case4 request script hu url ht redirects hh ih =>
    exact ih (turn_elsewhere_prints client request _ hr url ht) h
  | case5 request script hu url ht redirects hh =>
    obtain rfl := Except.error.inj h
    exact render_prints _ (turn_elsewhere_prints client request _ hr url ht)

end Transport

namespace Submitter

theorem course_prints (s : Submitter) (unreached : Network) (boundary : String) (o : Operation)
    (script : Script) (failure : Failure)
    (h : (s.course unreached boundary o script).result = .error failure) : failure.Prints := by
  rw [course] at h
  cases hp : prepare s.client (s.endpoint o.path) (o.payload boundary) with
  | error fault =>
    rw [hp] at h
    obtain rfl := Except.error.inj h
    exact prepare_fails _ _ _ fault hp
  | ok request =>
    rw [hp] at h
    exact Transport.course_prints s.client unreached redirectLimit request script
      (prepare_prints _ _ _ request hp) failure h

theorem ending_prints (s : Submitter) (unreached : Network) (boundary : String) (o : Operation)
    (script : Script) (error : SubmitError)
    (h : endingOf (s.course unreached boundary o script).result = .error error) :
    Printing error.message.toList := by
  cases hresult : (s.course unreached boundary o script).result with
  | ok response =>
    rw [hresult] at h
    cases h
  | error failure =>
    rw [hresult] at h
    obtain rfl := Ending.error.inj h
    exact printing_text (by decide)
      (failure.message_prints (s.course_prints unreached boundary o script failure hresult))

end Submitter

def lineBreaks (s : String) : Nat := s.toList.count '\n'

theorem lineBreaks_append (s t : String) : lineBreaks (s ++ t) = lineBreaks s + lineBreaks t := by
  simp [lineBreaks]

theorem lineBreaks_printing (s : String) (h : Printing s.toList) : lineBreaks s = 0 :=
  List.count_eq_zero.mpr fun hbreak => absurd (h '\n' hbreak) (by decide)

theorem int_prints (i : Int) : Printing i.repr.toList := by
  cases i with
  | ofNat n => exact repr_prints n
  | negSucc n => exact printing_text (s := "-") (by decide) (repr_prints (n + 1))

theorem renderFields_breaks (fields : List (String × String)) :
    lineBreaks (Log.renderFields fields) =
      (fields.map fun f => lineBreaks f.1 + lineBreaks f.2).sum := by
  have hfold : ∀ text : String,
      lineBreaks (fields.foldl (fun text f => text ++ " " ++ f.1 ++ "=" ++ f.2) text) =
        lineBreaks text + (fields.map fun f => lineBreaks f.1 + lineBreaks f.2).sum := by
    have hmarks : lineBreaks " " = 0 ∧ lineBreaks "=" = 0 := by decide
    induction fields with
    | nil => exact fun _ => rfl
    | cons f fields ih =>
      intro text
      rw [List.foldl_cons, ih, List.map_cons, List.sum_cons]
      simp only [lineBreaks_append, hmarks]
      omega
  rw [Log.renderFields, hfold]
  exact Nat.zero_add _

theorem render_breaks (e : Log.Event) (h : e.spans = []) :
    lineBreaks e.render = lineBreaks e.target + lineBreaks e.message +
      (e.fields.map fun f => lineBreaks f.1 + lineBreaks f.2).sum := by
  have hmarks : lineBreaks " " = 0 ∧ lineBreaks ": " = 0 ∧ lineBreaks "" = 0 := by decide
  have hlevel : lineBreaks e.level.column = 0 := by cases e.level <;> decide
  simp only [Log.Event.render, h, lineBreaks_append, renderFields_breaks, hmarks, hlevel]
  omega

/-- The line breaks of a record are those of the URL in it. -/
theorem Outcome.report_breaks (outcome : Outcome)
    (h : ∀ error, outcome.ending = .error error → Printing error.message.toList) :
    lineBreaks outcome.report.render = lineBreaks outcome.url := by
  have htexts : lineBreaks reportTarget = 0 ∧ lineBreaks "request loaded" = 0 ∧
      lineBreaks "request failed" = 0 ∧ lineBreaks "url" = 0 ∧ lineBreaks "status" = 0 ∧
      lineBreaks "error" = 0 ∧ lineBreaks "elapsed_ms" = 0 := by
    decide
  have hmillis : lineBreaks outcome.elapsedMillis.repr = 0 :=
    lineBreaks_printing _ (int_prints outcome.elapsedMillis)
  have hspans : outcome.report.spans = [] := by
    unfold report
    cases outcome.ending <;> rfl
  rw [render_breaks _ hspans]
  cases hending : outcome.ending with
  | load status body =>
    have hstatus := lineBreaks_printing _ status.prints
    simp [report, hending, htexts, hmillis, hstatus]
  | error error =>
    have hmessage := lineBreaks_printing _ (h error hending)
    simp [report, hending, htexts, hmillis, hmessage]

namespace Submitter

theorem outcome_prints (s : Submitter) (env : Surroundings) (o : Operation) (w : World)
    (error : SubmitError) (h : (s.outcomeIn env o w).ending = .error error) :
    Printing error.message.toList := by
  rw [outcomeIn, courseIn] at h
  exact s.ending_prints env.unreached (env.boundaries w.drawn) o w.script error h

theorem eventsIn_target (s : Submitter) (env : Surroundings) (o : Operation) (w : World) :
    ∀ e ∈ s.eventsIn env o w, e.target = Operation.logTarget := by
  intro e he
  simp only [eventsIn, List.mem_cons, List.not_mem_nil, or_false] at he
  rcases he with rfl | rfl
  · rfl
  · unfold Operation.conclusion
    split <;> rfl

end Submitter

namespace Session

/-- The log reporter writes one record for a dispatched operation: what the outcome
is that the operation has when it is waited for. It has as many line breaks as
the base and the path that make the URL. -/
theorem one_record_reported (client : Client) (base : String) (o : Operation)
    (env : Surroundings) (w : World) :
    let s := Submitter.ofBase client base
    let awaited := (answer env s (.await o) w).1
    let reported := (answer env s (.dispatch ⟨o, .log, false⟩) w).1
    ∃ outcome record, awaited.result = .awaited outcome ∧
      outcome.url = Submitter.trimSlashes base ++ o.path ∧
      reported.events = awaited.events ++ [record] ∧
      reported.events.filter (·.target == Outcome.reportTarget) = [record] ∧
      (match outcome.ending with
        | .load status _ => record = ⟨.info, Outcome.reportTarget, [], "request loaded",
            [("url", outcome.url), ("status", status.render),
              ("elapsed_ms", toString outcome.elapsedMillis)]⟩
        | .error error => record = ⟨.warn, Outcome.reportTarget, [], "request failed",
            [("url", outcome.url), ("error", error.message),
              ("elapsed_ms", toString outcome.elapsedMillis)]⟩) ∧
      lineBreaks record.render =
        lineBreaks (Submitter.trimSlashes base) + lineBreaks o.path := by
  intro s awaited reported
  have hevents : reported.events = awaited.events ++ [(s.outcomeIn env o w).report] := by
    simp only [reported, awaited, answer_dispatch, answer_await]
    rfl
  refine ⟨s.outcomeIn env o w, (s.outcomeIn env o w).report, ?_, rfl, hevents, ?_, ?_, ?_⟩
  · simp only [awaited, answer_await]
  · have hown : awaited.events.filter (·.target == Outcome.reportTarget) = [] := by
      rw [List.filter_eq_nil_iff]
      intro e he
      simp only [awaited, answer_await] at he
      rw [s.eventsIn_target env o w e he]
      decide
    have htarget : (s.outcomeIn env o w).report.target = Outcome.reportTarget := by
      unfold Outcome.report
      cases (s.outcomeIn env o w).ending <;> rfl
    rw [hevents, List.filter_append, hown, List.filter_cons, htarget]
    rfl
  · unfold Outcome.report
    cases (s.outcomeIn env o w).ending <;> rfl
  · rw [Outcome.report_breaks _ (s.outcome_prints env o w), ← lineBreaks_append]
    rfl

attribute [local instance] Transport.Reader.usual

/-- A base with a line break is a URL, and breaks the record. -/
theorem record_broken :
    Settings.isBaseUrl "http://[::1]:8080/a\nb" = true ∧
    ((answer ⟨fun _ => ⟨0, 0⟩, fun _ => "", fun _ => none⟩ (.ofBase {} "http://[::1]:8080/a\nb")
      (.dispatch ⟨.list .servers, .log, false⟩) (.start [])).1.events.filter
        (·.target == Outcome.reportTarget)).map Log.Event.render =
      [" INFO chunkform::api::response: request loaded url=http://[::1]:8080/a\nb/api/servers " ++
        "status=200 OK elapsed_ms=0"] := by
  decide +kernel

end Session

end MapClient
