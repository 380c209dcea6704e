import MapClient.Proofs.ReportLines

/-!
# What an operation logs

An operation logs two lines, one before anything is sent and one about the outcome,
which agrees with it. URLs and paths stand in quotes there, so no text that is given
to the client can break a line or bring a control character into it.
-/

set_option autoImplicit false

namespace MapClient

open MapClient.Http MapClient.Text MapClient.Transport
open MapClient.Url (Printing inAuthority_prints hexDigits_plain)

def isControl (c : Char) : Bool := c.toNat < 0x20 || (0x7F ≤ c.toNat && c.toNat < 0xA0)

def OneLine (cs : List Char) : Prop := ∀ c ∈ cs, isControl c = false

instance (cs : List Char) : Decidable (OneLine cs) :=
  List.decidableBAll (fun c => isControl c = false) cs

theorem oneLine_append {as bs : List Char} (ha : OneLine as) (hb : OneLine bs) :
    OneLine (as ++ bs) := fun c hc => (List.mem_append.mp hc).elim (ha c) (hb c)

theorem oneLine_text {s t : String} (hs : OneLine s.toList) (ht : OneLine t.toList) :
    OneLine (s ++ t).toList := by
  rw [String.toList_append]
  exact oneLine_append hs ht

theorem oneLine_printing (cs : List Char) (h : Printing cs) : OneLine cs := by
  intro c hc
  have hprints := h c hc
  simp only [Url.inControls, Bool.or_eq_false_iff, decide_eq_false_iff_not] at hprints
  simp only [isControl, Bool.or_eq_false_iff, Bool.and_eq_false_iff, decide_eq_false_iff_not]
  omega

theorem shown_oneLine (c : Char) (h : isHidden c = false) : isControl c = false := by
  unfold isHidden at h
  dsimp only at h
  simp only [isControl, Bool.or_eq_false_iff, Bool.and_eq_false_iff, decide_eq_false_iff_not]
  split_ifs at h with hascii
  · simp only [Bool.or_eq_false_iff, decide_eq_false_iff_not, beq_eq_false_iff_ne] at h
    omega
  · simp only [Bool.or_eq_false_iff, decide_eq_false_iff_not] at h
    omega

theorem numbered_oneLine (c : Char) : OneLine (Quoted.numbered c) := by
  refine oneLine_append (oneLine_append (by decide) (oneLine_printing _ ?_)) (by decide)
  exact fun d hd => inAuthority_prints d (hexDigits_plain _ d hd)

/-- A character in quotes is written without control characters, whichever it is. -/
theorem encodeChar_oneLine (c : Char) : OneLine (Quoted.encodeChar c) := by
  unfold Quoted.encodeChar
  split_ifs with hquote hslash hfeed hreturn htab hnul hhidden
  · decide
  · decide
  · decide
  · decide
  · decide
  · decide
  · exact numbered_oneLine c
  · intro d hd
    rw [List.mem_singleton.mp hd]
    exact shown_oneLine c (by simpa using hhidden)

theorem quote_oneLine (s : String) : OneLine (quote s).toList := by
  rw [quote, String.toList_ofList]
  have hquote : OneLine ['\x22'] := by decide
  refine oneLine_append (oneLine_append hquote ?_) hquote
  intro d hd
  obtain ⟨c, -, hc⟩ := List.mem_flatMap.mp hd
  exact encodeChar_oneLine c d hc

namespace Operation

def lead : Operation → String
  | .submit _ => "submit: chunkform::api: "
  | .fetch path => "fetch\x7bpath=" ++ quote path ++ "\x7d: chunkform::api: "

def openingLine (o : Operation) (url : String) : String :=
  "DEBUG " ++ o.lead ++
    match o with
    | .submit _ => "submitting form to " ++ quote url
    | .fetch _ => "fetching " ++ quote url

def closingLine (o : Operation) (url : String) : Ending → String
  | .load status _ => "DEBUG " ++ o.lead ++ "received " ++ status.render ++ " from " ++ quote url
  | .error error => " WARN " ++ o.lead ++ "request to " ++ quote url ++ " failed: " ++ error.message

theorem event_render (o : Operation) (level : Log.Level) (message : String) :
    (o.event level message).render = level.column ++ " " ++ o.lead ++ message := by
  refine String.toList_inj.mp ?_
  cases o <;>
    simp [event, Log.Event.render, span, logTarget, lead, Log.Span.render, Log.joinColon,
      Log.joinBlank, Log.renderFields]

theorem beginning_render (o : Operation) (url : String) :
    (o.beginning url).render = o.openingLine url := by
  unfold beginning
  rw [event_render]
  cases o <;> rfl

theorem conclusion_render (o : Operation) (url : String) (ending : Ending) :
    (o.conclusion url ending).render = o.closingLine url ending := by
  cases ending <;>
    · simp only [conclusion, event_render, closingLine, String.append_assoc]
      rfl

theorem lead_oneLine (o : Operation) : OneLine o.lead.toList := by
  cases o with
  | submit record => exact (by decide : OneLine "submit: chunkform::api: ".toList)
  | fetch path =>
    exact oneLine_text (oneLine_text (by decide) (quote_oneLine path)) (by decide)

theorem openingLine_oneLine (o : Operation) (url : String) :
    OneLine (o.openingLine url).toList := by
  refine oneLine_text (oneLine_text (by decide) o.lead_oneLine) ?_
  cases o with
  | submit record => exact oneLine_text (by decide) (quote_oneLine url)
  | fetch path => exact oneLine_text (by decide) (quote_oneLine url)

theorem closingLine_oneLine (o : Operation) (url : String) (ending : Ending)
    (h : ∀ error, ending = .error error → OneLine error.message.toList) :
    OneLine (o.closingLine url ending).toList := by
  have hfront (column : String) (hcolumn : OneLine column.toList) :
      OneLine (column ++ o.lead).toList := oneLine_text hcolumn o.lead_oneLine
  cases ending with
  | load status body =>
    refine oneLine_text (oneLine_text (oneLine_text (oneLine_text ?_ (by decide)) ?_)
      (by decide)) (quote_oneLine url)
    · exact hfront "DEBUG " (by decide)
    · exact oneLine_printing _ status.prints
  | error error =>
    refine oneLine_text (oneLine_text (oneLine_text (oneLine_text ?_ (by decide))
      (quote_oneLine url)) (by decide)) (h error rfl)
    exact hfront " WARN " (by decide)

end Operation

theorem Outcome.report_target (outcome : Outcome) : outcome.report.target = reportTarget := by
  unfold report
  cases outcome.ending <;> rfl

/-- What a reporter logs is said elsewhere than what an operation says itself. -/
theorem Reporter.events_target (reporter : Reporter) (outcome : Outcome) :
    ∀ e ∈ reporter.events outcome, e.target = Outcome.reportTarget := by
  intro e he
  cases reporter with
  | collect => cases he
  | panic => cases he
  | log =>
    rw [List.mem_singleton.mp he, outcome.report_target]

namespace Session

/-- An operation logs two lines, whatever answers it and however often it is sent
elsewhere: what is done to the URL, and then the status of the outcome if that
is a load and the text of its error otherwise. Neither has a control character,
whatever the base and the path are, and a dispatched operation logs the same. -/
theorem log_tells_outcome (client : Client) (base : String) (o : Operation)
    (env : Surroundings) (w : World) :
    let s := Submitter.ofBase client base
    let awaited := (answer env s (.await o) w).1
    ∃ outcome opening closing, awaited.result = .awaited outcome ∧
      outcome.url = Submitter.trimSlashes base ++ o.path ∧
      awaited.events = [opening, closing] ∧
      opening.level = .debug ∧
      (match outcome.ending with
        | .load .. => closing.level = .debug
        | .error _ => closing.level = .warn) ∧
      opening.render = o.openingLine outcome.url ∧
      closing.render = o.closingLine outcome.url outcome.ending ∧
      OneLine opening.render.toList ∧ OneLine closing.render.toList ∧
      ∀ reporter, (answer env s (.dispatch ⟨o, reporter, false⟩) w).1.events.filter
        (·.target == "chunkform::api") = [opening, closing] := by
  intro s awaited
  have hawaited : awaited = ⟨.awaited (s.outcomeIn env o w), (s.courseIn env o w).sent,
      s.eventsIn env o w⟩ := by
    simp only [awaited, answer_await]
  refine ⟨s.outcomeIn env o w, o.beginning (s.endpoint o.path),
    o.conclusion (s.endpoint o.path) (s.outcomeIn env o w).ending, ?_, rfl, ?_, ?_, ?_,
    Operation.beginning_render o _, Operation.conclusion_render o _ _, ?_, ?_, ?_⟩
  · rw [hawaited]
  · rw [hawaited]
    rfl
  · rfl
  · cases (s.outcomeIn env o w).ending <;> rfl
  · rw [Operation.beginning_render]
    exact o.openingLine_oneLine _
  · rw [Operation.conclusion_render]
    exact o.closingLine_oneLine _ _ fun error herror =>
      oneLine_printing _ (s.outcome_prints env o w error herror)
  · intro reporter
    have hown : (s.eventsIn env o w).filter (·.target == "chunkform::api") = s.eventsIn env o w :=
      List.filter_eq_self.mpr fun e he => by rw [s.eventsIn_target env o w e he]; rfl
    have hreport : (reporter.events (s.outcomeIn env o w)).filter
        (·.target == "chunkform::api") = [] :=
      List.filter_eq_nil_iff.mpr fun e he => by rw [reporter.events_target _ e he]; decide
    rw [answer_dispatch, List.filter_append, hown, hreport, List.append_nil]
    rfl

example : Operation.openingLine (.fetch "/a\nb") "http://h/a\nb" =
    "DEBUG fetch\x7bpath=\"/a\\nb\"\x7d: chunkform::api: fetching \"http://h/a\\nb\"" := by
  decide +kernel

end Session

end MapClient
