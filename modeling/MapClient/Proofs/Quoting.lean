import MapClient.Proofs.Events
import MapClient.Settings.Load

/-!
# Quoted texts are read back

Whatever a text holds, its quoted form ends at the first bare quote and reads
back as the text. So a message that quotes a text names it, and two different
texts are never quoted alike. That holds of the base URL that is refused and of
the URLs in the lines of an operation.
-/

set_option autoImplicit false

namespace MapClient

open MapClient.Http MapClient.Text MapClient.Transport

namespace Text.Quoted

theorem hexValue?_hexDigit (d : Nat) (h : d < 16) :
    hexDigit d ≠ '\x7d' ∧ hexValue? (hexDigit d) = some d := by
  have hall : ∀ d < 16, hexDigit d ≠ '\x7d' ∧ hexValue? (hexDigit d) = some d := by decide
  exact hall d h

theorem decodeNumber_hexDigit (acc d : Nat) (cs : List Char) (h : d < 16) :
    decodeNumber acc (hexDigit d :: cs) = decodeNumber (16 * acc + d) cs := by
  obtain ⟨hopen, hvalue⟩ := hexValue?_hexDigit d h
  rw [decodeNumber, if_neg hopen, hvalue, Option.bind_some]

theorem decodeNumber_hexDigits (n : Nat) (cs : List Char) :
    decodeNumber 0 (hexDigits n ++ cs) = decodeNumber n cs := by
  fun_induction hexDigits n generalizing cs with
  | case1 n hlt =>
    rw [List.singleton_append, decodeNumber_hexDigit 0 n cs hlt, Nat.mul_zero, Nat.zero_add]
  | case2 n hge ih =>
    rw [List.append_assoc, ih, List.singleton_append,
      decodeNumber_hexDigit _ _ cs (Nat.mod_lt n (by decide)), Nat.div_add_mod]

theorem decodeEscape_number (c : Char) (rest : List Char) :
    decodeEscape ('u' :: '\x7b' :: (hexDigits c.toNat ++ '\x7d' :: rest)) = some (c, rest) := by
  rw [decodeEscape, decodeNumber_hexDigits, decodeNumber, if_pos rfl, Char.ofNat_toNat]

theorem decode_plain (c : Char) (rest : List Char) (hquote : c ≠ '\x22') (hslash : c ≠ '\\') :
    decode (c :: rest) = (decode rest).map fun r => (c :: r.1, r.2) := by
  rw [decode, if_neg hquote, if_neg hslash]

theorem decode_escape (c : Char) (cs rest : List Char)
    (h : decodeEscape cs = some (c, rest)) :
    decode ('\\' :: cs) = (decode rest).map fun r => (c :: r.1, r.2) := by
  rw [decode, if_neg (by decide), if_pos rfl]
  split
  · rename_i hnone
    rw [h] at hnone
    cases hnone
  · rename_i d more hsome
    rw [h] at hsome
    cases hsome
    rfl

/-- A character is read back from how it is written, whatever follows. -/
theorem decode_encodeChar (c : Char) (rest : List Char) :
    decode (encodeChar c ++ rest) = (decode rest).map fun r => (c :: r.1, r.2) := by
  unfold encodeChar
  split_ifs with hquote hslash hfeed hreturn htab hnul hhidden
  · exact decode_escape c _ rest (by rw [hquote]; rfl)
  · exact decode_escape c _ rest (by rw [hslash]; rfl)
  · exact decode_escape c _ rest (by rw [hfeed]; rfl)
  · exact decode_escape c _ rest (by rw [hreturn]; rfl)
  · exact decode_escape c _ rest (by rw [htab]; rfl)
  · exact decode_escape c _ rest (by rw [hnul]; rfl)
  · have hread := decode_escape c _ rest (decodeEscape_number c rest)
    simpa [numbered] using hread
  · exact decode_plain c rest hquote hslash

/-- A quoted text ends at the first bare quote and is read back. -/
theorem decode_encode (cs rest : List Char) :
    decode (encode cs ++ '\x22' :: rest) = some (cs, rest) := by
  induction cs with
  | nil => rw [encode, List.flatMap_nil, List.nil_append, decode, if_pos rfl]
  | cons c cs ih =>
    rw [encode, List.flatMap_cons, List.append_assoc, decode_encodeChar]
    exact congrArg (Option.map fun r => (c :: r.1, r.2)) ih

end Text.Quoted

def firstQuoted (line : List Char) : Option (List Char × List Char) :=
  (cut (· = '\x22') line).2.bind Quoted.decode

theorem firstQuoted_quote (front rest : List Char) (s : String) (h : '\x22' ∉ front) :
    firstQuoted (front ++ (quote s).toList ++ rest) = some (s.toList, rest) := by
  have hfront : ∀ c ∈ front, decide (c = '\x22') = false := fun c hc =>
    decide_eq_false fun hquote => h (hquote ▸ hc)
  rw [quote, String.toList_ofList, firstQuoted, List.append_assoc, List.cons_append,
    List.cons_append, List.append_assoc, List.singleton_append, cut_front _ hfront rfl,
    Option.bind_some, Quoted.decode_encode]

def urlIn (line : List Char) : Option (List Char) :=
  (firstQuoted line).bind fun q =>
    match q.2 with
    | '\x7d' :: rest => (firstQuoted rest).map Prod.fst
    | _ => some q.1

theorem urlIn_bare {line url rest : List Char} (h : firstQuoted line = some (url, rest))
    (hrest : rest.head? ≠ some '\x7d') : urlIn line = some url := by
  rw [urlIn, h, Option.bind_some]
  dsimp only
  split
  · exact absurd rfl hrest
  · rfl

theorem urlIn_braced {line path rest : List Char}
    (h : firstQuoted line = some (path, '\x7d' :: rest)) :
    urlIn line = (firstQuoted rest).map Prod.fst := by
  rw [urlIn, h]
  rfl

theorem Http.Status.unquoted (status : Status) : '\x22' ∉ status.render.toList := by
  obtain ⟨reason, hlisted, hrender⟩ := status.reason_listed
  rw [hrender, String.toList_append, String.toList_append]
  intro hquote
  rcases List.mem_append.mp hquote with hcode | hreason
  · rcases List.mem_append.mp hcode with hdigits | hblank
    · rw [Nat.toList_repr] at hdigits
      have hdigit := Nat.isDigit_of_mem_toDigits (by decide) (by decide) hdigits
      exact absurd hdigit (by decide)
    · exact absurd hblank (by decide)
  · exact (reasons_plain reason hlisted).2 hreason

namespace Operation

/-- A line names the URL that is quoted in its message. -/
theorem urlIn_line (o : Operation) (column before url : String) (rest : List Char)
    (hcolumn : '\x22' ∉ column.toList) (hbefore : '\x22' ∉ before.toList)
    (hrest : rest.head? ≠ some '\x7d') :
    urlIn ((column ++ o.lead ++ before ++ quote url).toList ++ rest) = some url.toList := by
  cases o with
  | submit record =>
    have hlead : '\x22' ∉ (lead (.submit record)).toList := by
      have htext : '\x22' ∉ "submit: chunkform::api: ".toList := by decide
      exact htext
    have hfirst := firstQuoted_quote (column ++ lead (.submit record) ++ before).toList rest url
      (by simp [hcolumn, hlead, hbefore])
    rw [String.toList_append]
    exact urlIn_bare hfirst hrest
  | fetch path =>
    -- the path is quoted in the span before the URL is, and a brace follows it
    have hopening : '\x22' ∉ "fetch\x7bpath=".toList := by decide
    have hclosing : '\x22' ∉ ": chunkform::api: ".toList := by decide
    have hfirst := firstQuoted_quote (column ++ "fetch\x7bpath=").toList
      ('\x7d' :: ((": chunkform::api: " ++ before).toList ++ (quote url).toList ++ rest)) path
      (by simp only [String.toList_append, List.mem_append, hcolumn, hopening, or_self,
        not_false_eq_true])
    have hsecond := firstQuoted_quote (": chunkform::api: " ++ before).toList rest url
      (by simp only [String.toList_append, List.mem_append, hclosing, hbefore, or_self,
        not_false_eq_true])
    have hline : (column ++ lead (.fetch path) ++ before ++ quote url).toList ++ rest =
        (column ++ "fetch\x7bpath=").toList ++ (quote path).toList ++
          '\x7d' :: ((": chunkform::api: " ++ before).toList ++ (quote url).toList ++ rest) := by
      simp [lead]
    rw [hline, urlIn_braced hfirst, hsecond]
    rfl

theorem urlIn_openingLine (o : Operation) (url : String) :
    urlIn (o.openingLine url).toList = some url.toList := by
  cases o with
  | submit record =>
    have hline := urlIn_line (.submit record) "DEBUG " "submitting form to " url []
      (by decide) (by decide) (by decide)
    simpa [openingLine] using hline
  | fetch path =>
    have hline := urlIn_line (.fetch path) "DEBUG " "fetching " url []
      (by decide) (by decide) (by decide)
    simpa [openingLine] using hline

theorem urlIn_closingLine (o : Operation) (url : String) (ending : Ending) :
    urlIn (o.closingLine url ending).toList = some url.toList := by
  cases ending with
  | load status body =>
    have hbefore : '\x22' ∉ ("received " ++ status.render ++ " from ").toList := by
      simp [status.unquoted]
    have hline := urlIn_line o "DEBUG " _ url [] (by decide) hbefore (by decide)
    simpa [closingLine] using hline
  | error error =>
    have hline := urlIn_line o " WARN " "request to " url (" failed: " ++ error.message).toList
      (by decide) (by decide) (by simp)
    simpa [closingLine] using hline

def Says (o : Operation) (url : String) (e : Log.Event) : Prop :=
  e = o.beginning url ∨ ∃ ending, e = o.conclusion url ending

theorem Says.names {o : Operation} {url : String} {e : Log.Event} (h : o.Says url e) :
    urlIn e.render.toList = some url.toList := by
  rcases h with rfl | ⟨ending, rfl⟩
  · rw [beginning_render, urlIn_openingLine]
  · rw [conclusion_render, urlIn_closingLine]

theorem Says.same_url {o o' : Operation} {url url' : String} {e e' : Log.Event}
    (h : o.Says url e) (h' : o'.Says url' e') (hline : e.render = e'.render) : url = url' := by
  have hnames := h.names
  rw [hline, h'.names] at hnames
  exact String.toList_inj.mp (Option.some.inj hnames).symm

end Operation

namespace Session

theorem answer_says (env : Surroundings) (s : Submitter) (step : Step) (w : World)
    (e : Log.Event) (h : e ∈ (answer env s step w).1.events)
    (htarget : e.target = Operation.logTarget) :
    ∃ o ∈ step.operations, o.Says (s.endpoint o.path) e ∧ OneLine e.render.toList := by
  obtain ⟨o, ho, hlogs⟩ := answer_logs env s step w e h htarget
  rcases Task.logs_perform env.unreached s o e hlogs with rfl | ⟨boundary, script, rfl⟩
  · rw [Operation.beginning_render]
    exact ⟨o, ho, .inl rfl, o.openingLine_oneLine _⟩
  · rw [Operation.conclusion_render]
    refine ⟨o, ho, .inr ⟨_, rfl⟩, o.closingLine_oneLine _ _ fun error herror => ?_⟩
    exact oneLine_printing _ (s.ending_prints env.unreached boundary o script error herror)

end Session

namespace Settings

theorem validate_refuses (s : Settings) (fault : Fault) (h : s.validate = .error fault) :
    fault = .invalidBaseUrl s.baseUrl := by
  unfold validate at h
  split at h
  · cases h
  · exact (Except.error.inj h).symm

theorem refusal_oneLine (baseUrl : String) :
    OneLine (Fault.invalidBaseUrl baseUrl).message.toList :=
  oneLine_text (oneLine_text (by decide) (quote_oneLine baseUrl)) (by decide)

def expectation : String := ", expected an absolute http or https url"

theorem refusal_quotes (baseUrl : String) :
    firstQuoted (Fault.invalidBaseUrl baseUrl).message.toList =
      some (baseUrl.toList, expectation.toList) := by
  have hfirst := firstQuoted_quote "Invalid base url ".toList expectation.toList baseUrl
    (by decide)
  rw [← hfirst, ← String.toList_append, ← String.toList_append]
  rfl

end Settings

namespace Session

/-- A base URL that is refused is read back from the message, which is one line,
and so are the URLs from the lines that operations log. Two that differ are
never told alike. -/
theorem quoted_recovered :
    (∀ (settings : Settings) (fault : Settings.Fault), settings.validate = .error fault →
      OneLine fault.message.toList ∧
      firstQuoted fault.message.toList =
        some (settings.baseUrl.toList, Settings.expectation.toList)) ∧
    (∀ (settings settings' : Settings) (fault fault' : Settings.Fault),
      settings.validate = .error fault → settings'.validate = .error fault' →
      fault.message = fault'.message → settings.baseUrl = settings'.baseUrl) ∧
    (∀ (client : Client) (base : String) (env : Surroundings) (step : Step) (w : World),
      ∀ e ∈ (answer env (.ofBase client base) step w).1.events,
        e.target = Operation.logTarget →
        ∃ o ∈ step.operations, o.Says (Submitter.trimSlashes base ++ o.path) e ∧
          OneLine e.render.toList ∧
          urlIn e.render.toList = some (Submitter.trimSlashes base ++ o.path).toList) ∧
    (∀ (o o' : Operation) (url url' : String) (e e' : Log.Event), o.Says url e →
      o'.Says url' e' → e.render = e'.render → url = url') := by
  refine ⟨?_, ?_, ?_, ?_⟩
  · intro settings fault h
    obtain rfl := settings.validate_refuses fault h
    exact ⟨Settings.refusal_oneLine _, Settings.refusal_quotes _⟩
  · intro settings settings' fault fault' h h' hmessage
    obtain rfl := settings.validate_refuses fault h
    obtain rfl := settings'.validate_refuses fault' h'
    have hquoted := Settings.refusal_quotes settings.baseUrl
    rw [hmessage, Settings.refusal_quotes] at hquoted
    exact String.toList_inj.mp (Prod.mk.inj (Option.some.inj hquoted)).1.symm
  · intro client base env step w e he htarget
    obtain ⟨o, ho, hsays, hline⟩ := answer_says env (.ofBase client base) step w e he htarget
    exact ⟨o, ho, hsays, hline, hsays.names⟩
  · intro o o' url url' e e' h h' hline
    exact h.same_url h' hline

example : (Settings.Fault.invalidBaseUrl "\\u\x7b61\x7d\"\n").message =
    "Invalid base url \"\\\\u\x7b61\x7d\\\"\\n\"" ++ Settings.expectation := by
  decide +kernel

end Session

end MapClient
