import MapClient.Proofs.Consumption
import MapClient.Proofs.Loading
import MapClient.Proofs.Sending

/-!
# How a body is framed

How the end of a body is made known does not show in what comes of it, and
neither does the reason beside the status. An answer leads to the same in each
framing, whatever the request was, and so does every operation in which it
stands.
-/

set_option autoImplicit false

namespace MapClient

open MapClient.Http MapClient.Text MapClient.Transport

namespace Http.Sent

structure Alike (a b : Sent) : Prop where
  status : a.status = b.status
  headers : a.headers = b.headers
  body : a.body = b.body

def text (s : Sent) (reader : Reader) : String :=
  (ContentType.encoding (s.values "content-type")).decodeMarked reader.multiByte s.body

def Sound.core {s : Sent} (hs : s.Sound) : Head := ⟨.http11, hs.code, s.headers.map headerOf⟩

section
variable {a b s : Sent} (ha : a.Sound) (hb : b.Sound) (hs : s.Sound)

theorem values_same (name : String) (hlength : name ≠ "content-length")
    (hcoding : name ≠ "transfer-encoding") : hs.head.values name = s.values name := by
  have hnone : ((framingHeaders s.delivery).map headerOf).filter (·.name == name) = [] := by
    have hnames : (headerOf (utf8 "content-length", [])).name = "content-length" ∧
        (headerOf (utf8 "transfer-encoding", [])).name = "transfer-encoding" := by decide
    rw [List.filter_eq_nil_iff]
    intro x hx
    obtain ⟨y, hy, rfl⟩ := List.mem_map.mp hx
    generalize s.delivery = d at hy
    cases d with
    | untilClose => cases hy
    | declared length =>
      rw [List.mem_singleton.mp hy]
      simpa using fun heq => hlength (heq.symm.trans hnames.1)
    | chunked size terminated =>
      rw [List.mem_singleton.mp hy]
      simpa using fun heq => hcoding (heq.symm.trans hnames.2)
  rw [values_head hs name, hnone, List.map_nil, List.append_nil]

/-- What a response leads to, whichever way its body is framed. -/
theorem turn_sent (client : Client) (request : Request) :
    turn client request s.bytes =
      match redirection? client request hs.core with
      | none => .over (.ok ⟨hs.code, s.text client.reader⟩)
      | some url => .elsewhere url := by
  obtain ⟨how, hhow, hdelivered⟩ := framing_sent hs client.reader.extensionRoom
  have hannounced := announced_sent hs client.reader.headRoom client.reader.enough
  have hread := (readAnswer_iff client.reader request s.bytes hs.head how
    (deliver s.body s.delivery)).mpr ⟨hannounced, hhow⟩
  have hlocation : redirection? client request hs.head = redirection? client request hs.core := by
    have hvalues : hs.head.values "location" = hs.core.values "location" :=
      values_same hs _ (by decide) (by decide)
    simp only [redirection?, location?, hvalues]
    rfl
  have hload : (Transport.Answer.mk hs.head how (deliver s.body s.delivery)).load client.reader =
      .ok ⟨hs.code, s.text client.reader⟩ := by
    refine (load_iff _ _ _).mpr ⟨s.body, hdelivered, ?_⟩
    rw [decoded, values_same hs _ (by decide) (by decide)]
    rfl
  cases hgo : redirection? client request hs.core with
  | none => simp only [turn, hread, hlocation, hload, hgo]
  | some url => simp only [turn, hread, hlocation, hgo]

theorem turn_load (client : Client) (request : Request) (h : Stays client request s.bytes) :
    turn client request s.bytes = .over (.ok ⟨hs.code, s.text client.reader⟩) := by
  cases hgo : redirection? client request hs.core with
  | none => rw [turn_sent hs, hgo]
  | some url =>
    have hturn : turn client request s.bytes = .elsewhere url := by rw [turn_sent hs, hgo]
    obtain ⟨head, rest, how, hhead, hhow, hother⟩ := (turn_elsewhere _ _ _ _).mp hturn
    rw [h head rest how hhead hhow] at hother
    cases hother

theorem stays_status (client : Client) (request : Request)
    (h : (hs.code.seesOther || hs.code.repeatsElsewhere) = false) :
    Stays client request s.bytes := by
  have hnone : redirection? client request hs.core = none := by
    obtain ⟨hother, helsewhere⟩ := Bool.or_eq_false_iff.mp h
    have hasks : asksElsewhere request hs.core.status = false := by
      simp [asksElsewhere, Sound.core, hother, helsewhere]
    simp [redirection?, hasks]
  intro head rest how hhead hhow
  cases hgo : redirection? client request head with
  | none => rfl
  | some url =>
    have hturn := (turn_elsewhere client request s.bytes url).mpr
      ⟨head, rest, how, hhead, hhow, hgo⟩
    rw [turn_sent hs, hnone] at hturn
    cases hturn

include ha hb in
theorem turn_alike (h : a.Alike b) (client : Client) (request : Request) :
    turn client request a.bytes = turn client request b.bytes := by
  obtain ⟨status, reason, headers, body, delivery⟩ := a
  obtain ⟨status', reason', headers', body', delivery'⟩ := b
  obtain ⟨rfl, rfl, rfl⟩ := h
  rw [turn_sent ha, turn_sent hb]
  rfl

end

end Http.Sent

namespace Transport

def Interchangeable (client : Client) (bytes bytes' : List UInt8) : Prop :=
  ∀ request, turn client request bytes = turn client request bytes'

section
variable (client : Client) (unreached : Network)

theorem interchangeable_head (script script' : Script)
    (h : List.Forall₂ (Interchangeable client) script script') :
    Interchangeable client (script.headD World.blankAnswer) (script'.headD World.blankAnswer) ∧
      List.Forall₂ (Interchangeable client) script.tail script'.tail := by
  cases h with
  | nil => exact ⟨fun _ => rfl, .nil⟩
  | cons hhead htail => exact ⟨hhead, htail⟩

/-- A course does not change when answers in its script are interchanged. -/
theorem course_interchanged (redirects : Nat) (request : Request) (script script' : Script)
    (h : List.Forall₂ (Interchangeable client) script script') :
    course client unreached redirects request script' =
      course client unreached redirects request script := by
  fun_induction course client unreached redirects request script generalizing script' with
  | case1 redirects request script fault hu =>
    exact course_unreached client unreached redirects request script' fault hu
  | case2 redirects request script hu result ht =>
    have hhead := (interchangeable_head client script script' h).1 request
    exact course_over client unreached redirects request script' hu result (hhead ▸ ht)
  | case3 request script hu url ht =>
    have hhead := (interchangeable_head client script script' h).1 request
    exact course_limit client unreached request script' hu url (hhead ▸ ht)
  | case4 request script hu url ht redirects hh ih =>
    obtain ⟨hhead, htail⟩ := interchangeable_head client script script' h
    rw [course_follow client unreached redirects request script' hu url (hhead request ▸ ht) hh,
      ih script'.tail htail]
  | case5 request script hu url ht redirects hh =>
    have hhead := (interchangeable_head client script script' h).1 request
    exact course_refused client unreached redirects request script' hu url (hhead ▸ ht) hh

end

end Transport

namespace Submitter

theorem course_interchanged (s : Submitter) (unreached : Network) (boundary : String)
    (o : Operation) (script script' : Script)
    (h : List.Forall₂ (Interchangeable s.client) script script') :
    s.course unreached boundary o script' = s.course unreached boundary o script := by
  rw [course, course]
  cases prepare s.client (s.endpoint o.path) (o.payload boundary) with
  | error failure => rfl
  | ok request =>
    exact Transport.course_interchanged s.client unreached redirectLimit request script script' h

theorem courseIn_interchanged (s : Submitter) (env env' : Surroundings) (o : Operation)
    (w w' : World) (hnet : env'.unreached = env.unreached)
    (h : List.Forall₂ (Interchangeable s.client) w.script w'.script) :
    (s.courseIn env o w).Like (s.courseIn env' o w') := by
  rw [courseIn, courseIn, hnet, s.course_interchanged env.unreached _ o w.script w'.script h]
  exact s.course_reformed env.unreached _ _ o w.script

end Submitter

namespace Session

theorem await_interchanged (s : Submitter) (env env' : Surroundings) (o : Operation)
    (w w' : World) (hnet : env'.unreached = env.unreached)
    (h : List.Forall₂ (Interchangeable s.client) w.script w'.script) :
    (answer env s (.await o) w).1.Like (answer env' s (.await o) w').1 := by
  have hcourse := s.courseIn_interchanged env env' o w w' hnet h
  rw [answer_await, answer_await]
  refine ⟨.awaited _ _ (s.outcomeIn_alike env env' o w w' hcourse), hcourse.sent, ?_⟩
  rw [s.eventsIn_alike env env' o w w' hcourse]

/-- Whichever way the end of its body is made known, and whatever its reason is,
a response gives every operation the same outcome; and if it sends the client
nowhere else, that is a load with its status and its whole body. -/
theorem framing_unseen (client : Client) (base : String) (o : Operation) (env : Surroundings)
    (w : World) (clock : Nat → Instant) (boundaries : Nat → String) (readings drawn : Nat)
    (before after : Script) (a b : Sent) (ha : a.Sound) (hb : b.Sound) (hab : a.Alike b) :
    let s := Submitter.ofBase client base
    let first := (answer env s (.await o) { w with script := before ++ a.bytes :: after }).1
    let second := (answer ⟨clock, boundaries, env.unreached⟩ s (.await o)
      ⟨before ++ b.bytes :: after, [], [], readings, drawn⟩).1
    first.Like second ∧
    ∃ outcome, first.result = .awaited outcome ∧
      ∀ request, first.requests[before.length]? = some request →
        Stays client request a.bytes →
          first.requests.length = before.length + 1 ∧
            ∃ status, status.code = a.status ∧
              outcome.ending = .load status (a.text client.reader) := by
  intro s first second
  have hscripts : List.Forall₂ (Interchangeable s.client) (before ++ a.bytes :: after)
      (before ++ b.bytes :: after) := by
    have hsame : ∀ script : Script, List.Forall₂ (Interchangeable s.client) script script :=
      fun script => List.forall₂_same.mpr fun _ _ _ => rfl
    exact List.rel_append (hsame before) (.cons (Sent.turn_alike ha hb hab s.client) (hsame after))
  refine ⟨await_interchanged s env _ o _ _ rfl hscripts, ?_⟩
  simp only [first, answer_await]
  refine ⟨_, rfl, fun request hrequest hstays => ?_⟩
  have hgoes := s.courseIn_continues env o { w with script := before ++ a.bytes :: after }
    before.length request hrequest
  have hbytes : (before ++ a.bytes :: after).getD before.length World.blankAnswer = a.bytes := by
    simp
  rw [hbytes, Sent.turn_load ha s.client request hstays] at hgoes
  refine ⟨hgoes.1, ha.code, rfl, ?_⟩
  rw [Submitter.outcomeIn, hgoes.2]
  rfl

def chunkyResponse (reason : List UInt8) (delivery : Http.Delivery) : Sent :=
  ⟨404, reason, [(utf8 "Content-Type", utf8 "text/plain")], utf8 "é\r\n0\r\n\r\n",
    delivery⟩

theorem chunky_sound (reason : List UInt8) (delivery : Http.Delivery)
    (hreason : reason.all isTextByte = true)
    (hroom : (chunkyResponse reason delivery).headBytes.length ≤ headLimit)
    (hdelivery : Sent.Completes (chunkyResponse reason delivery).body delivery) :
    (chunkyResponse reason delivery).Sound where
  status := ⟨by simp [chunkyResponse], by simp [chunkyResponse]⟩
  bodied := ⟨by simp [chunkyResponse], by simp [chunkyResponse]⟩
  reason := List.all_eq_true.mp hreason
  headers := by
    intro h hh
    rw [List.mem_singleton.mp hh]
    exact (Sent.sendable_added _ _ (by decide) (by decide)).1
  unframed := by
    intro h hh
    rw [List.mem_singleton.mp hh]
    decide
  few := by simp [chunkyResponse]
  names := by
    intro h hh
    rw [List.mem_singleton.mp hh]
    decide
  room := hroom
  delivery := hdelivery
  countable := by
    show (utf8 "é\r\n0\r\n\r\n").length < uncountable
    decide

attribute [local instance] Transport.Reader.usual

def chunkySubmit (clock : Nat → Instant) (boundary : String) (response : Sent) : Answer :=
  (answer ⟨clock, fun _ => boundary, fun _ => none⟩ (.ofBase {} "http://[::1]:8080")
    (.await (.submit (.server "A" "1.2.3.4"))) ⟨[movedAnswer, response.bytes], [], [], 0, 0⟩).1

/-- After a redirect, in chunks that cut a character in two, or until the connection
is closed, at another time and with another boundary. -/
theorem chunky_unseen :
    (chunkySubmit (fun _ => ⟨0, 0⟩) "x" (chunkyResponse (utf8 "Gone?") (.chunked 1 true))).Like
      (chunkySubmit (fun n => ⟨n, 0⟩) "y" (chunkyResponse [] .untilClose)) ∧
    ∃ outcome status,
      (chunkySubmit (fun _ => ⟨0, 0⟩) "x"
        (chunkyResponse (utf8 "Gone?") (.chunked 1 true))).result =
        .awaited outcome ∧
      status.code = 404 ∧ outcome.ending = .load status "é\r\n0\r\n\r\n" := by
  have hchunked : (chunkyResponse (utf8 "Gone?") (.chunked 1 true)).Sound :=
    chunky_sound _ _ (by decide) (by decide) (.chunked 1 (by decide))
  have hclosed : (chunkyResponse [] .untilClose).Sound :=
    chunky_sound _ _ (by decide) (by decide) .untilClose
  obtain ⟨hlike, outcome, hresult, hload⟩ := framing_unseen {} "http://[::1]:8080"
    (.submit (.server "A" "1.2.3.4")) ⟨fun _ => ⟨0, 0⟩, fun _ => "x", fun _ => none⟩
    ⟨[], [], [], 0, 0⟩ (fun n => ⟨n, 0⟩) (fun _ => "y") 0 0 [movedAnswer] [] _ _ hchunked hclosed
    ⟨rfl, rfl, rfl⟩
  refine ⟨hlike, outcome, ?_⟩
  have htwo : (chunkySubmit (fun _ => ⟨0, 0⟩) "x"
      (chunkyResponse (utf8 "Gone?") (.chunked 1 true))).requests.length = 2 := by decide +kernel
  obtain ⟨request, hrequest⟩ : ∃ request, (chunkySubmit (fun _ => ⟨0, 0⟩) "x"
      (chunkyResponse (utf8 "Gone?") (.chunked 1 true))).requests[1]? = some request :=
    ⟨_, List.getElem?_eq_getElem (by omega)⟩
  obtain ⟨-, status, hcode, hending⟩ := hload request hrequest
    (Sent.stays_status hchunked {} request rfl)
  have htext : (chunkyResponse (utf8 "Gone?") (.chunked 1 true)).text Reader.usual =
      "é\r\n0\r\n\r\n" := by
    decide
  exact ⟨status, hresult, hcode, htext ▸ hending⟩

def strayResponse : Sent := ⟨302, utf8 "x", [(utf8 "location", utf8 "data:x")], [], .declared 0⟩

def wordyResponse (reason : List UInt8) : Sent := ⟨200, reason, [], [], .declared 0⟩

theorem stray_sound : strayResponse.Sound where
  status := by decide
  bodied := by decide
  reason := List.all_eq_true.mp (by decide)
  headers := by
    intro h hh
    rw [List.mem_singleton.mp hh]
    exact (Sent.sendable_added _ _ (by decide) (by decide)).1
  unframed := by decide
  few := by decide
  names := by decide
  room := by decide
  delivery := .declared
  countable := by decide

/-- What is read so far may be the beginning of a head, up to its reason. -/
theorem readWithin_reason (status : Nat) (h : 100 ≤ status ∧ status ≤ 999) (reason : List UInt8)
    (hreason : ∀ b ∈ reason, isTextByte b = true) :
    Head.readWithin (Version.http11.text ++ 0x20 :: (utf8 (Nat.repr status) ++ 0x20 :: reason)) =
      .error .closed := by
  have hversion := (Head.readVersion_iff (Version.http11.text ++ 0x20 ::
    (utf8 (Nat.repr status) ++ 0x20 :: reason)) _ .http11).mpr rfl
  have hdigits := (Head.readDigits_iff 3 0 _ (utf8 (Nat.repr status) ++ 0x20 :: reason) _).mpr
    ⟨utf8 (Nat.repr status), repr_three status h, repr_digitBytes status, rfl, rfl⟩
  have hopen : Head.readReason (0x20 :: reason) = .error .closed := by
    rw [Head.readReason, List.dropWhile_eq_nil_iff.mpr hreason]
    rfl
  rw [Head.readWithin, Head.version_first]
  simp only [bind, Except.bind, hversion, hdigits, hopen]

theorem read_wordy (room : Nat) (hroom : headLimit ≤ room) (s : Sent)
    (h : 100 ≤ s.status ∧ s.status ≤ 999) (hreason : ∀ b ∈ s.reason, isTextByte b = true)
    (hlong : room ≤ s.reason.length) : Head.read room s.bytes = .error .tooLarge := by
  have hlength : (Version.http11.text ++ 0x20 :: (utf8 (Nat.repr s.status) ++ [0x20])).length =
      13 := by
    have := repr_three s.status h
    simp only [List.length_append, List.length_cons, List.length_nil, Version.length_text]
    omega
  have hwide : 13 ≤ room := Nat.le_trans (by decide) hroom
  have hnear : s.bytes.take room = Version.http11.text ++
      0x20 :: (utf8 (Nat.repr s.status) ++ 0x20 :: s.reason.take (room - 13)) := by
    have hfront : s.bytes = Version.http11.text ++ 0x20 :: (utf8 (Nat.repr s.status) ++ [0x20]) ++
        (s.reason ++ (crlf ++ (s.allHeaders.flatMap (fun h => Sent.headerLine h.1 h.2) ++
          (crlf ++ Sent.deliver s.body s.delivery)))) := by
      rw [Sent.bytes_head, Sent.headBytes, Sent.statusLine_bytes]
      simp only [List.append_assoc, List.cons_append, List.nil_append]
    rw [hfront, List.take_append, hlength, List.take_of_length_le (by omega),
      List.take_append_of_le_length (by omega)]
    simp only [List.append_assoc, List.cons_append, List.nil_append]
  have hall : ¬(s.bytes.take room).length < headLimit := by
    rw [hnear]
    have := repr_three s.status h
    simp only [List.length_append, List.length_cons, List.length_take, Version.length_text]
    omega
  have hread := readWithin_reason s.status h (s.reason.take (room - 13))
    fun b hb => hreason b (List.mem_of_mem_take hb)
  rw [Head.read, List.splitAt_eq]
  simp only [hnear, hread]
  rw [← hnear, if_neg hall]

theorem turn_wordy (client : Client) (request : Request) (reason : List UInt8)
    (hreason : ∀ b ∈ reason, isTextByte b = true)
    (hlong : client.reader.headRoom ≤ reason.length) :
    turn client request (wordyResponse reason).bytes =
      .over (.error (.unanswered request.url.render .tooLarge)) := by
  have hread := read_wordy client.reader.headRoom client.reader.enough (wordyResponse reason)
    ⟨Nat.le_of_ble_eq_true rfl, Nat.le_of_ble_eq_true rfl⟩ hreason hlong
  have hfinal : Head.readFinal client.reader.headRoom ((wordyResponse reason).bytes.length + 1)
      (wordyResponse reason).bytes = .error .tooLarge := by
    rw [Head.readFinal, hread]
    rfl
  simp only [turn, readAnswer, hfinal]

theorem asked_fails [Reader] (bytes : List UInt8) (fault : HeadFault)
    (h : ∀ request, turn {} request bytes = .over (.error (.unanswered request.url.render fault))) :
    asked bytes = (.awaited ⟨"http://[::1]:8080/api/servers",
      .error (.transport (.unanswered "http://[::1]:8080/api/servers" fault)), ⟨0, 0⟩, ⟨0, 0⟩⟩,
      1) := by
  let s := Submitter.ofBase {} "http://[::1]:8080"
  have hendpoint : s.endpoint (Operation.list .servers).path = "http://[::1]:8080/api/servers" := by
    change Submitter.trimSlashes "http://[::1]:8080" ++ "/api/servers" = _
    decide
  obtain ⟨request, hprepared, hrender⟩ : ∃ request,
      prepare {} "http://[::1]:8080/api/servers" none = .ok request ∧
        request.url.render = "http://[::1]:8080/api/servers" := by
    have hshown : (prepare {} "http://[::1]:8080/api/servers" none).toOption.map
        (·.url.render) = some "http://[::1]:8080/api/servers" := by
      -- how answers are read is nothing to the request
      change (prepare { reader := Reader.usual } "http://[::1]:8080/api/servers" none).toOption.map
        (·.url.render) = _
      decide +kernel
    cases hprepared : prepare {} "http://[::1]:8080/api/servers" none with
    | ok request =>
      rw [hprepared] at hshown
      exact ⟨request, rfl, Option.some.inj hshown⟩
    | error failure =>
      rw [hprepared] at hshown
      cases hshown
  have hcourse : s.courseIn ⟨fun _ => ⟨0, 0⟩, fun _ => "", fun _ => none⟩ (.list .servers)
      (.start [bytes]) =
        ⟨[request], .error (.unanswered "http://[::1]:8080/api/servers" fault)⟩ := by
    rw [s.courseIn_ok _ _ _ request (hendpoint ▸ hprepared)]
    exact course_over {} (fun _ => none) redirectLimit request [bytes] rfl _
      ((h request).trans (by rw [hrender]))
  simp only [asked, answer_await, Submitter.outcomeIn]
  rw [hendpoint, hcourse]
  rfl

/-- A response that is complete and not followed is no load if it names a URL that
cannot be followed, or if its reason takes up all the room that a reader has for a head. -/
theorem complete_responses_refused :
    (strayResponse.Sound ∧
      asked strayResponse.bytes = (.awaited ⟨"http://[::1]:8080/api/servers",
        .error (.transport (.refusedScheme "data:x")), ⟨0, 0⟩, ⟨0, 0⟩⟩, 1)) ∧
    ∀ [reader : Reader],
      let reason := List.replicate reader.headRoom (0x78 : UInt8)
      (∀ b ∈ reason, isTextByte b = true) ∧
        asked (wordyResponse reason).bytes = (.awaited ⟨"http://[::1]:8080/api/servers",
          .error (.transport (.unanswered "http://[::1]:8080/api/servers" .tooLarge)),
          ⟨0, 0⟩, ⟨0, 0⟩⟩, 1) := by
  refine ⟨⟨stray_sound, by decide +kernel⟩, ?_⟩
  intro reader reason
  have htext : ∀ b ∈ reason, isTextByte b = true := by
    intro b hb
    rw [List.eq_of_mem_replicate hb]
    rfl
  exact ⟨htext, asked_fails _ _ fun request =>
    turn_wordy {} request _ htext List.length_replicate.ge⟩

end Session

end MapClient
