import MapClient.Proofs.Encodings
import MapClient.Proofs.Framings
import MapClient.Proofs.MediaTypes

/-!
# The text of a response

A text that is sent in UTF-8 is loaded as it is, but for a byte order mark at its
beginning. Nothing that can be sent as a body keeps a response from being loaded:
what is ill-formed is replaced.
-/

set_option autoImplicit false

namespace MapClient

open MapClient.Http MapClient.Text MapClient.Transport

namespace Session

/-- A complete response that sends the client nowhere else is loaded, whatever its
bytes and its content type are. The content type always gives an encoding; the bytes are
read in one way, in the encoding of a byte order mark or else in that one, and each
ill-formed part of them becomes one U+FFFD. A text in UTF-8 is loaded as it was sent,
without a mark at its beginning, unless there is no mark and the content type names
another encoding. -/
theorem text_survives (client : Client) (base : String) (o : Operation) (env : Surroundings)
    (w : World) :
    let a := (answer env (Submitter.ofBase client base) (.await o) w).1
    ∃ outcome, a.result = .awaited outcome ∧
      ∀ i request, a.requests[i]? = some request →
        let bytes := w.script.getD i World.blankAnswer
        Stays client request bytes → ∀ head data, Whole client.reader bytes head data →
          let values := head.values "content-type"
          ∃ body, outcome.ending = .load head.status body ∧
            (∃ e, ContentType.Says values e) ∧
            (∀ e, ContentType.Says values e →
              (∃ out, e.ReadsMarked client.reader.multiByte data out) ∧
              ∀ out, e.ReadsMarked client.reader.multiByte data out → body = .ofList (shown out)) ∧
            (ContentType.LeavesUtf8 values → ∀ t, data = utf8 t → body = withoutMark t) ∧
            ∀ t, data = utf8 ("\ufeff" ++ t) → body = t := by
  intro a
  simp only [a, answer_await]
  refine ⟨_, rfl, fun i request hi hstays head data hwhole => ?_⟩
  obtain ⟨result, hturn, hsettled⟩ := turn_stays client request _ hstays
  have hgoes := (Submitter.ofBase client base).courseIn_continues env o w i request hi
  rw [show (Submitter.ofBase client base).client = client from rfl, hturn] at hgoes
  obtain ⟨-, rfl⟩ := hgoes
  refine ⟨decoded client.reader head data, ?_, ContentType.says_total _,
    fun e he => ⟨e.readsMarked_total _ data, fun out hout => ?_⟩, ?_, ?_⟩
  · exact ((endingOf_tells _ _ request _ hsettled).load _ _).mpr ⟨head, data, hwhole, rfl, rfl⟩
  · rw [decoded, ContentType.encoding_says he, Encoding.decodeMarked_reads _ hout]
  · rintro hvalues t rfl
    rw [decoded, ContentType.encoding_utf8 _ hvalues, decodeMarked_utf8]
  · rintro t rfl
    exact decodeMarked_marked _ _ t

attribute [local instance] Transport.Reader.usual

def labelledResponse (label : List UInt8) (body : List UInt8) : Sent :=
  ⟨404, utf8 "Gone?", [(utf8 "content-type", label)], body, .chunked 1 true⟩

theorem labelled_sound (label : List UInt8) (body : List UInt8)
    (hlabel : label.all isTextByte = true)
    (hroom : (labelledResponse label body).headBytes.length ≤ headLimit)
    (hbody : body.length < uncountable) : (labelledResponse label body).Sound where
  status := ⟨by simp [labelledResponse], by simp [labelledResponse]⟩
  bodied := ⟨by simp [labelledResponse], by simp [labelledResponse]⟩
  reason := List.all_eq_true.mp (show (utf8 "Gone?").all isTextByte = true by decide)
  headers := by
    intro h hh
    rw [List.mem_singleton.mp hh]
    exact (Sent.sendable_added _ _ (by decide) hlabel).1
  unframed := by
    intro h hh
    rw [List.mem_singleton.mp hh]
    exact (by decide :
      (String.ofList ((utf8 "content-type").map Head.lowerByte)) ≠ "content-length" ∧
      (String.ofList ((utf8 "content-type").map Head.lowerByte)) ≠ "transfer-encoding")
  few := by simp [labelledResponse]
  names := by
    intro h hh
    rw [List.mem_singleton.mp hh]
    show (utf8 "content-type").length < nameLimit
    decide
  room := hroom
  delivery := .chunked 1 (by decide)
  countable := hbody

theorem gb18030_label :
    Encoding.ofLabel? "GB18030".toList = some (.multi .gb18030) := by
  have hindex : Encoding.labels.findIdx? (fun e =>
      (pieces Encoding.isLabelBlank e.1.toList).any fun l =>
        l ≠ [] && l == (strip Encoding.isLabelBlank "GB18030".toList).map Encoding.lowerLabel) =
      some 1 := by decide +kernel
  rw [Encoding.ofLabel?, List.find?_eq_bind_findIdx?_getElem?, hindex]
  rfl

theorem quotedLabel_utf8 :
    ContentType.LeavesUtf8 [utf8 "text/plain; x=\"y z\"; Charset=\"UTF8\""] := by
  have hnames : ContentType.Names (utf8 "text/plain; x=\"y z\"; Charset=\"UTF8\"")
      "UTF8".toList := (ContentType.charset?_iff _ _).mp (by decide +kernel)
  exact .utf8 _ [] _ hnames (by decide +kernel)

theorem noLabel_utf8 : ContentType.Says [utf8 "text/html"] .utf8 := by
  refine .utf8 _ (.unnamed _ [] fun label hlabel => ?_)
  have hnone : ContentType.charset? (utf8 "text/html") = none := by decide +kernel
  rw [(ContentType.charset?_iff _ _).mpr hlabel] at hnone
  cases hnone

theorem shiftedLabel_gb18030 :
    ContentType.Says [utf8 "text/html;charset=GB18030"] (.multi .gb18030) :=
  .labelled _ [] "GB18030".toList _ ((ContentType.charset?_iff _ _).mp (by decide +kernel))
    gb18030_label

theorem missing_stays (s : Sent) (hs : s.Sound) (h : s.status = 404) (request : Request) :
    Stays {} request s.bytes := by
  refine Sent.stays_status hs {} request ?_
  have hcode : hs.code.code = 404 := h
  simp [Status.seesOther, Status.repeatsElsewhere, hcode]

/-- A text that begins with two marks loses one, and what is ill-formed is replaced,
whether the content type has a label of UTF-8, none at all, or one of an encoding with
tables of its own. -/
theorem marked_text_loaded :
    let quoted := utf8 "text/plain; x=\"y z\"; Charset=\"UTF8\""
    let bare := utf8 "text/html"
    let shifted := utf8 "text/html;charset=GB18030"
    let text := labelledResponse quoted (utf8 "\ufeff\ufeffé𝄞")
    let broken := labelledResponse bare [0x41, 0xE2, 0x82, 0xFF]
    let led := labelledResponse shifted [0x41, 0x81]
    (∀ request, Stays {} request text.bytes) ∧ ContentType.LeavesUtf8 [quoted] ∧
    (∀ request, Stays {} request broken.bytes) ∧ ContentType.Says [bare] .utf8 ∧
    (∀ request, Stays {} request led.bytes) ∧ ContentType.Says [shifted] (.multi .gb18030) ∧
    (∃ outcome status, (asked text.bytes).1 = .awaited outcome ∧ status.code = 404 ∧
      outcome.ending = .load status "\ufeffé𝄞") ∧
    (∃ outcome status, (asked broken.bytes).1 = .awaited outcome ∧ status.code = 404 ∧
      outcome.ending = .load status "A\ufffd\ufffd") ∧
    ∃ outcome status, (asked led.bytes).1 = .awaited outcome ∧ status.code = 404 ∧
      outcome.ending = .load status "A\ufffd" := by
  intro quoted bare shifted text broken led
  have htext : text.Sound :=
    labelled_sound _ _ (by decide) (by decide +kernel) (by decide +kernel)
  have hbroken : broken.Sound :=
    labelled_sound _ _ (by decide) (by decide +kernel) (by decide +kernel)
  have hled : led.Sound :=
    labelled_sound _ _ (by decide) (by decide +kernel) (by decide +kernel)
  have hloaded (s : Sent) (hs : s.Sound) (h : s.status = 404) (hone : (asked s.bytes).2 = 1) :
      ∃ outcome body, (asked s.bytes).1 = .awaited outcome ∧ outcome.ending = .load hs.code body ∧
        (∀ e, ContentType.Says (s.values "content-type") e →
          ∀ out, e.ReadsMarked MultiByte.ascii s.body out → body = .ofList (shown out)) ∧
        (ContentType.LeavesUtf8 (s.values "content-type") →
          ∀ t, s.body = utf8 t → body = withoutMark t) := by
    obtain ⟨outcome, hresult, hload⟩ := text_survives {} "http://[::1]:8080" (.list .servers)
      ⟨fun _ => ⟨0, 0⟩, fun _ => "", fun _ => none⟩ (.start [s.bytes])
    obtain ⟨how, hhow, hdelivered⟩ := Sent.framing_sent hs Reader.usual.extensionRoom
    obtain ⟨body, hending, -, hreads, htext, -⟩ := hload 0 _
      (List.getElem?_eq_getElem (Nat.lt_of_lt_of_eq Nat.zero_lt_one hone.symm))
      (missing_stays s hs h _) hs.head s.body ⟨_, how, Sent.announced_sent hs _ (Nat.le_refl _), hhow,
        hdelivered⟩
    rw [Sent.values_same hs _ (by decide) (by decide)] at hreads htext
    exact ⟨outcome, body, hresult, hending, fun e he => (hreads e he).2, htext⟩
  refine ⟨missing_stays text htext rfl, quotedLabel_utf8, missing_stays broken hbroken rfl,
    noLabel_utf8, missing_stays led hled rfl, shiftedLabel_gb18030, ?_, ?_, ?_⟩
  · obtain ⟨outcome, body, hresult, hending, -, hsame⟩ :=
      hloaded text htext rfl (by decide +kernel)
    have hbody : body = withoutMark "\ufeff\ufeffé𝄞" := hsame quotedLabel_utf8 _ rfl
    refine ⟨outcome, htext.code, hresult, rfl, ?_⟩
    rw [hending, hbody, show "\ufeff\ufeffé𝄞" = "\ufeff" ++ "\ufeffé𝄞" by decide +kernel,
      withoutMark_marked]
  · obtain ⟨outcome, body, hresult, hending, hreads, -⟩ :=
      hloaded broken hbroken rfl (by decide +kernel)
    have hread : Encoding.utf8.ReadsMarked MultiByte.ascii broken.body
        [some 'A', none, none] :=
      .plain _ _ (Encoding.unmarked_low _ _ (by decide))
        (.utf8 _ _ ((Utf8.reads_iff _ _).mpr (by decide +kernel)))
    have hbody : body = "A\ufffd\ufffd" := hreads .utf8 noLabel_utf8 _ hread
    exact ⟨outcome, hbroken.code, hresult, rfl, by rw [hending, hbody]⟩
  · obtain ⟨outcome, body, hresult, hending, hreads, -⟩ :=
      hloaded led hled rfl (by decide +kernel)
    have hread : (Encoding.multi .gb18030).ReadsMarked MultiByte.ascii led.body
        [some 'A', none] := .plain _ _ (Encoding.unmarked_low _ _ (by decide)) (.multi _ _)
    have hbody : body = "A\ufffd" := hreads _ shiftedLabel_gb18030 _ hread
    exact ⟨outcome, hled.code, hresult, rfl, by rw [hending, hbody]⟩

end Session

end MapClient
