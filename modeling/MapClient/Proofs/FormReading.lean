import MapClient.Proofs.Performing
import MapClient.Proofs.WellFormed

/-!
# Forms are read back

A value of a form ends at the first delimiter after its line end. The value may
end in any part of one, as long as the whole does not occur in it: a delimiter
begins with the only carriage return that it has, so two of them do not overlap.
-/

set_option autoImplicit false

namespace MapClient

open MapClient.Text MapClient.Transport

namespace Form

theorem after?_append (mark rest : List UInt8) : after? mark (mark ++ rest) = some rest :=
  (after?_iff mark _ rest).mpr rfl

theorem prefix_before (c : UInt8) (bs value rest : List UInt8) (hc : c ∉ bs)
    (h : bs <+: value ++ c :: rest) : bs <+: value := by
  induction value generalizing bs with
  | nil =>
    cases bs with
    | nil => exact List.nil_prefix
    | cons b bs =>
      have hb := (List.cons_prefix_cons.mp h).1
      exact absurd (hb ▸ List.mem_cons_self) hc
  | cons v value ih =>
    cases bs with
    | nil => exact List.nil_prefix
    | cons b bs =>
      obtain ⟨hb, htail⟩ := List.cons_prefix_cons.mp h
      exact List.cons_prefix_cons.mpr ⟨hb, ih bs (fun hin => hc (List.mem_cons_of_mem b hin)) htail⟩

/-- A mark whose first byte does not come again in it is found where a value
ends in which it does not occur. -/
theorem cutAt_first (c : UInt8) (mark value rest : List UInt8) (hc : c ∉ mark)
    (h : ¬(c :: mark) <:+: value) :
    cutAt (c :: mark) (value ++ c :: (mark ++ rest)) = some (value, rest) := by
  induction value with
  | nil =>
    have hafter : after? (c :: mark) (c :: (mark ++ rest)) = some rest :=
      after?_append (c :: mark) rest
    rw [List.nil_append, cutAt, hafter]
  | cons v value ih =>
    have hnone : after? (c :: mark) (v :: (value ++ c :: (mark ++ rest))) = none := by
      cases hafter : after? (c :: mark) (v :: (value ++ c :: (mark ++ rest))) with
      | none => rfl
      | some found =>
        -- What is found here cannot reach the mark that follows the value, whose
        -- first byte it would have to hold a second time.
        obtain ⟨hhead, htail⟩ := List.cons.inj ((after?_iff _ _ _).mp hafter)
        have hbefore := prefix_before c mark value (mark ++ rest) hc ⟨found, htail.symm⟩
        exact absurd (List.cons_prefix_cons.mpr ⟨hhead.symm, hbefore⟩).isInfix h
    have hvalue : ¬(c :: mark) <:+: value := fun hin =>
      h (hin.trans (List.suffix_cons v value).isInfix)
    rw [List.cons_append, cutAt, hnone]
    simp only [ih hvalue, Option.map_some]

def afterMark (boundary : String) : List (String × String) → List UInt8
  | [] => dashes ++ Http.crlf
  | field :: fields =>
    Http.crlf ++ (disposition field.1 ++ (Http.crlf ++ (Http.crlf ++
      (utf8 field.2 ++ (Http.crlf ++ (delimiter boundary ++ afterMark boundary fields))))))

theorem encode_afterMark (boundary : String) (fields : List (String × String)) :
    encode boundary fields = delimiter boundary ++ afterMark boundary fields := by
  induction fields with
  | nil => simp [encode, afterMark]
  | cons field fields ih =>
    have hcons : encode boundary (field :: fields) =
        encodePart boundary field ++ encode boundary fields := by
      simp [encode]
    rw [hcons, ih]
    simp [encodePart, afterMark]

theorem length_encode (boundary : String) (fields : List (String × String)) :
    fields.length < (encode boundary fields).length := by
  induction fields with
  | nil => simp [encode, dashes, Http.crlf]
  | cons field fields ih =>
    have hcons : encode boundary (field :: fields) =
        encodePart boundary field ++ encode boundary fields := by
      simp [encode]
    have hpart : 0 < (encodePart boundary field).length := by
      simp [encodePart, delimiter, dashes]
    rw [hcons, List.length_append, List.length_cons]
    omega

def Plain (name : String) : Prop := '\r' ∉ name.toList ∧ '\x22' ∉ name.toList

def partOf (field : String × String) : Part := ⟨[disposition field.1], utf8 field.2⟩

theorem disposition_line (name : String) (h : Plain name) : 0x0D ∉ disposition name := by
  refine not_mem_utf8 _ 0x0D (by decide) ?_
  show '\r' ∉ _
  simp only [String.toList_append, List.mem_append, not_or]
  exact ⟨⟨by decide, h.1⟩, by decide⟩

theorem disposition_cons (name : String) : disposition name ≠ [] := by
  intro h
  have hlength := congrArg List.length h
  rw [disposition, utf8_append, utf8_append, List.length_append] at hlength
  have hquote : (utf8 "\x22").length = 1 := by decide
  rw [List.length_nil] at hlength
  omega

theorem cutAt_line (line rest : List UInt8) (h : 0x0D ∉ line) :
    cutAt Http.crlf (line ++ (Http.crlf ++ rest)) = some (line, rest) := by
  refine cutAt_first 0x0D [0x0A] line rest (by decide) fun hin => ?_
  exact h (hin.subset List.mem_cons_self)

theorem readLines_head (k : Nat) (line rest : List UInt8) (hline : line ≠ [])
    (h : 0x0D ∉ line) :
    readLines (k + 2) (line ++ (Http.crlf ++ (Http.crlf ++ rest))) = some ([line], rest) := by
  have hempty : cutAt Http.crlf (Http.crlf ++ rest) = some ([], rest) :=
    cutAt_line [] rest (by simp)
  rw [readLines, cutAt_line line _ h]
  simp only [Option.bind_eq_bind, Option.bind_some, if_neg hline]
  rw [readLines, hempty]
  rfl

/-- Every field is read as one part, with its bytes as they are. -/
theorem readParts_afterMark (boundary : String) (fields : List (String × String)) (k : Nat)
    (hk : fields.length < k) (hmark : 0x0D ∉ delimiter boundary)
    (h : ∀ field ∈ fields, Plain field.1 ∧ ¬delimiter boundary <:+: utf8 field.2) :
    readParts (delimiter boundary) k (afterMark boundary fields) =
      some (fields.map partOf) := by
  induction fields generalizing k with
  | nil =>
    obtain ⟨k, rfl⟩ : ∃ n, k = n + 1 := ⟨k - 1, by simp at hk; omega⟩
    rw [readParts, afterMark, after?_append]
    simp
  | cons field fields ih =>
    obtain ⟨k, rfl⟩ : ∃ n, k = n + 1 := ⟨k - 1, by simp at hk; omega⟩
    obtain ⟨hplain, hvalue⟩ := h field List.mem_cons_self
    have hrest := ih k (by simpa using hk) fun f hf => h f (List.mem_cons_of_mem field hf)
    have hcut : cutAt (Http.crlf ++ delimiter boundary) (utf8 field.2 ++ (Http.crlf ++
        (delimiter boundary ++ afterMark boundary fields))) =
          some (utf8 field.2, afterMark boundary fields) := by
      refine cutAt_first 0x0D (0x0A :: delimiter boundary) _ _ (by simpa using hmark) ?_
      exact fun hin => hvalue (List.IsInfix.trans (List.suffix_append [0x0D, 0x0A] _).isInfix hin)
    have hdashes : after? dashes (afterMark boundary (field :: fields)) = none := rfl
    have hhead : ∀ bs, readLines (disposition field.1 ++ (Http.crlf ++ (Http.crlf ++ bs))).length
        (disposition field.1 ++ (Http.crlf ++ (Http.crlf ++ bs))) =
          some ([disposition field.1], bs) := by
      intro bs
      obtain ⟨n, hn⟩ : ∃ n, (disposition field.1 ++ (Http.crlf ++ (Http.crlf ++ bs))).length =
          n + 2 := ⟨(disposition field.1 ++ (Http.crlf ++ bs)).length, by simp [Http.crlf]; omega⟩
      rw [hn]
      exact readLines_head n _ bs (disposition_cons field.1) (disposition_line field.1 hplain)
    rw [readParts, hdashes, afterMark, after?_append]
    simp only [Option.bind_eq_bind, Option.bind_some, hhead, hcut, hrest]
    rfl

theorem parts?_encode (boundary : String) (fields : List (String × String))
    (hmark : 0x0D ∉ delimiter boundary)
    (h : ∀ field ∈ fields, Plain field.1 ∧ ¬delimiter boundary <:+: utf8 field.2) :
    parts? boundary (encode boundary fields) = some (fields.map partOf) := by
  have hlength := length_encode boundary fields
  rw [encode_afterMark] at hlength
  rw [parts?, encode_afterMark, after?_append, Option.bind_some]
  exact readParts_afterMark boundary fields _ hlength hmark h

theorem field?_partOf (field : String × String) (h : Plain field.1) :
    (partOf field).field? = some field := by
  have hname : utf8 ("Content-Disposition: form-data; name=\x22" ++ field.1 ++ "\x22") =
      utf8 "Content-Disposition: form-data; name=\x22" ++ (utf8 field.1 ++ [0x22]) := by
    rw [utf8_append, utf8_append, List.append_assoc]
    rfl
  have hquote : ¬[0x22] <:+: utf8 field.1 := fun hin =>
    not_mem_utf8 field.1 0x22 (by decide) h.2 (hin.subset List.mem_cons_self)
  have hcut := cutAt_first 0x22 [] (utf8 field.1) [] (by simp) hquote
  rw [List.append_nil] at hcut
  rw [Part.field?, partOf]
  simp only [disposition, hname, after?_append, Option.bind_eq_bind, Option.bind_some, hcut,
    if_true, ofUtf8?_utf8]
  rfl

/-- A form is read back from its body. -/
theorem decode?_encode (boundary : String) (fields : List (String × String))
    (hmark : 0x0D ∉ delimiter boundary)
    (h : ∀ field ∈ fields, Plain field.1 ∧ ¬delimiter boundary <:+: utf8 field.2) :
    decode? boundary (encode boundary fields) = some fields := by
  rw [decode?, parts?_encode boundary fields hmark h, Option.bind_some]
  clear hmark
  induction fields with
  | nil => rfl
  | cons field fields ih =>
    rw [List.map_cons, List.mapM_cons, field?_partOf field (h field List.mem_cons_self).1]
    simp only [Option.bind_eq_bind, Option.bind_some,
      ih fun f hf => h f (List.mem_cons_of_mem field hf)]
    rfl

/-- A boundary of hexadecimal digits and dashes that does not come with its
dashes in any value. -/
structure Fits (boundary : String) (fields : List (String × String)) : Prop where
  digits : ∀ c ∈ boundary.toList, c = '-' ∨ (hexValue? c).isSome = true
  clear : ∀ field ∈ fields, ¬delimiter boundary <:+: utf8 field.2

theorem Fits.delimiter_line {boundary : String} {fields : List (String × String)}
    (h : Fits boundary fields) : 0x0D ∉ delimiter boundary := by
  have hreturn : '\r' ∉ boundary.toList := by
    intro hin
    rcases h.digits '\r' hin with hdash | hdigit
    · exact absurd hdash (by decide)
    · exact absurd hdigit (by decide)
  have hbytes : 0x0D ∉ utf8 boundary := not_mem_utf8 boundary 0x0D (by decide) hreturn
  simpa [delimiter, dashes] using hbytes

/-- The first line of a form tells its boundary. -/
theorem boundary_told (a b : String) (f g : String × String) (fs gs : List (String × String))
    (ha : 0x0D ∉ delimiter a) (hb : 0x0D ∉ delimiter b)
    (h : encode a (f :: fs) = encode b (g :: gs)) : a = b := by
  have hline : ∀ c field fields, 0x0D ∉ delimiter c →
      (cutAt Http.crlf (encode c (field :: fields))).map Prod.fst = some (delimiter c) := by
    intro c field fields hc
    rw [encode_afterMark, afterMark, cutAt_line (delimiter c) _ hc]
    rfl
  have hsame := hline a f fs ha
  rw [h, hline b g gs hb] at hsame
  exact (utf8_injective _ _ (List.append_cancel_left (Option.some.inj hsame))).symm

end Form

namespace Record

theorem plain_names (record : Record) : ∀ field ∈ record.fields, Form.Plain field.1 := by
  have hname : Form.Plain "name" := by constructor <;> decide
  have hip : Form.Plain "ip" := by constructor <;> decide
  have halias : Form.Plain "alias" := by constructor <;> decide
  have hserver : Form.Plain "server" := by constructor <;> decide
  cases record with
  | server name ip => simp [fields, hname, hip]
  | dimension name label owner => simp [fields, hname, halias, hserver]

/-- The fields of a record and its kind are all there is to it. -/
theorem fields_injective (a b : Record) (hkind : a.collection = b.collection)
    (h : a.fields = b.fields) : a = b := by
  cases a <;> cases b <;> simp_all [fields, collection]

theorem fields_cons (record : Record) : ∃ field fields, record.fields = field :: fields := by
  cases record with
  | server name ip => exact ⟨_, _, rfl⟩
  | dimension name label owner => exact ⟨_, _, rfl⟩

end Record

namespace Session

/-- A request that posts a record, in some step that submits it, between
boundaries that fit it. -/
structure Posted (record : Record) (boundary : String) (post : Request) : Prop where
  fits : Form.Fits boundary record.fields
  method : post.method = .post
  sent : ∃ client base env w step, env.boundaries w.drawn = boundary ∧
    (step = Step.await (.submit record) ∨
      ∃ reporter calledOff, step = Step.dispatch ⟨.submit record, reporter, calledOff⟩) ∧
    post ∈ (answer env (Submitter.ofBase client base) step w).1.requests

theorem Posted.payload {record : Record} {boundary : String} {post : Request}
    (h : Posted record boundary post) :
    post.payload = some ⟨Form.contentType boundary, Form.encode boundary record.fields⟩ := by
  obtain ⟨client, base, env, w, step, rfl, hstep, hsent⟩ := h.sent
  have hcourse : post ∈ ((Submitter.ofBase client base).courseIn env (.submit record) w).sent := by
    rcases hstep with rfl | ⟨reporter, calledOff, rfl⟩
    · rwa [answer_await] at hsent
    · cases calledOff with
      | true => simp [answer_called_off] at hsent
      | false => rwa [answer_dispatch] at hsent
  rcases Submitter.course_forms _ env (.submit record) w post hcourse with hnone | hform
  · have hmethod := h.method
    simp [Request.method, hnone] at hmethod
  · exact hform

theorem Posted.body {record : Record} {boundary : String} {post : Request}
    (h : Posted record boundary post) : post.body = Form.encode boundary record.fields := by
  rw [Request.body, h.payload]
  rfl

theorem Posted.clear {record : Record} {boundary : String} {post : Request}
    (h : Posted record boundary post) :
    ∀ field ∈ record.fields,
      Form.Plain field.1 ∧ ¬Form.delimiter boundary <:+: utf8 field.2 :=
  fun field hin => ⟨record.plain_names field hin, h.fits.clear field hin⟩

theorem Posted.decode {record : Record} {boundary : String} {post : Request}
    (h : Posted record boundary post) :
    Form.decode? boundary post.body = some record.fields := by
  rw [h.body]
  exact Form.decode?_encode boundary record.fields h.fits.delimiter_line h.clear

/-- Of two records of one kind, only one is posted as these bytes. -/
theorem Posted.unique {record other : Record} {boundary boundary' : String}
    {post post' : Request} (h : Posted record boundary post)
    (h' : Posted other boundary' post') (hkind : other.collection = record.collection)
    (hsame : post'.body = post.body) : other = record := by
  obtain ⟨f, fs, hf⟩ := record.fields_cons
  obtain ⟨g, gs, hg⟩ := other.fields_cons
  have hbytes := hsame
  rw [h'.body, h.body, hf, hg] at hbytes
  obtain rfl := Form.boundary_told boundary' boundary g f gs fs h'.fits.delimiter_line
    h.fits.delimiter_line hbytes
  have hread := h'.decode
  rw [hsame, h.decode] at hread
  exact Record.fields_injective other record hkind (Option.some.inj hread).symm

end Session

namespace Transport

theorem Request.form_headers (r : Request) (payload : Payload) (h : r.payload = some payload) :
    r.headers.filter (·.1 = "content-type") = [("content-type", payload.contentType)] ∧
    r.headers.filter (·.1 = "content-length") =
      [("content-length", Nat.repr payload.bytes.length)] := by
  have hother : ∀ (name value : String) (o : Option String), value ≠ name →
      (Request.header value o).filter (·.1 = name) = [] := by
    intro name value o hne
    cases o <;> simp [Request.header, hne]
  simp [Request.headers, h, List.filter_append, hother]
  simp [Request.header]

end Transport

namespace Session

/-- What a record is posted as holds exactly its fields, in order and with their
bytes unchanged, and tells its length. Two records of one kind are never posted
as the same bytes, whatever their boundaries are. -/
theorem record_recovered (record : Record) (boundary : String) (post : Request)
    (h : Posted record boundary post) :
    Form.parts? boundary post.body = some (record.fields.map Form.partOf) ∧
    Form.decode? boundary post.body = some record.fields ∧
    post.headers.filter (·.1 = "content-type") =
      [("content-type", Form.contentType boundary)] ∧
    post.headers.filter (·.1 = "content-length") =
      [("content-length", Nat.repr post.body.length)] ∧
    ∀ other boundary' post', Posted other boundary' post' →
      other.collection = record.collection → post'.body = post.body → other = record := by
  obtain ⟨htype, hlength⟩ := post.form_headers _ h.payload
  refine ⟨?_, h.decode, htype, ?_, fun other boundary' post' h' => h.unique h'⟩
  · rw [h.body]
    exact Form.parts?_encode boundary record.fields h.fits.delimiter_line h.clear
  · rw [hlength, h.body]

def lookalike : Record := .server "caf\u00e9\r" "--\r\n--a-"

def lookalikePost : Request where
  url := ⟨"http".toList, some ⟨[], [], .ipv6 [0, 0, 0, 0, 0, 0, 0, 1], some 8080⟩,
    .rooted ["api".toList, "servers".toList], none, none⟩
  agent := none
  credentials := none
  referer := none
  payload := some ⟨Form.contentType "a-1", Form.encode "a-1" lookalike.fields⟩

attribute [local instance] Transport.Reader.usual

def nearby : Submitter := .ofBase ⟨true, none⟩ "http://[::1]:8080"

theorem lookalike_prepared :
    prepare nearby.client (nearby.endpoint lookalike.path)
      ((Operation.submit lookalike).payload "a-1") = .ok lookalikePost := by
  decide +kernel

theorem lookalike_fits : Form.Fits "a-1" lookalike.fields where
  digits := by
    have hall : "a-1".toList.all (fun c => c = '-' ∨ (hexValue? c).isSome = true) = true := by
      decide +kernel
    intro c hc
    exact of_decide_eq_true (List.all_eq_true.mp hall c hc)
  clear := by
    have hall : lookalike.fields.all
        (fun field => ¬Form.delimiter "a-1" <:+: utf8 field.2) = true := by
      decide +kernel
    intro field hfield
    exact of_decide_eq_true (List.all_eq_true.mp hall field hfield)

theorem lookalike_posted : Posted lookalike "a-1" lookalikePost where
  fits := lookalike_fits
  method := by decide
  sent := by
    refine ⟨⟨true, none⟩, "http://[::1]:8080", ⟨fun _ => ⟨0, 0⟩, fun _ => "a-1", fun _ => none⟩,
      .start [], .await (.submit lookalike), rfl, .inl rfl, ?_⟩
    rw [answer_await]
    show lookalikePost ∈ (nearby.courseIn _ _ _).sent
    rw [Submitter.courseIn, Submitter.course, Operation.path, lookalike_prepared]
    exact course_first _ _ _ _ _ rfl

theorem lookalike_recovered :
    Posted lookalike "a-1" lookalikePost ∧
      Form.decode? "a-1" lookalikePost.body = some lookalike.fields :=
  ⟨lookalike_posted, (record_recovered lookalike "a-1" lookalikePost lookalike_posted).2.1⟩

end Session

end MapClient
