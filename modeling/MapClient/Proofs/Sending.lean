import MapClient.Http.Sent
import MapClient.Proofs.Bodies
import MapClient.Proofs.Heads
import MapClient.Proofs.WellFormed

/-!
# Responses as they are sent

What a server writes is what a reader takes for the head and the body of a
response: a number is read back from its digits, a header from its line, and a
body from its chunks, whatever their size is. The three ways to make known where
a body ends thus deliver the same bytes.
-/

set_option autoImplicit false

namespace MapClient

open MapClient.Text

namespace Text

theorem utf8_ascii (s : String) (h : ∀ c ∈ s.toList, c.toNat < 0x80) :
    utf8 s = s.toList.map fun c => UInt8.ofNat c.toNat := by
  rw [utf8]
  generalize s.toList = cs at h ⊢
  induction cs with
  | nil => rfl
  | cons c cs ih =>
    have hc : String.utf8EncodeChar c = [UInt8.ofNat c.toNat] := by
      rw [show String.utf8EncodeChar c = Utf8.bytesOf c.toNat from rfl, Utf8.bytesOf,
        if_pos (Nat.le_of_lt_succ (h c List.mem_cons_self))]
    have hcons : Utf8.encode (c :: cs) = String.utf8EncodeChar c ++ Utf8.encode cs := rfl
    rw [hcons, hc, ih fun d hd => h d (List.mem_cons_of_mem c hd)]
    rfl

theorem digit_number (c : Char) (h : c.isDigit = true) : 48 ≤ c.toNat ∧ c.toNat ≤ 57 := by
  simpa [Char.isDigit, UInt32.le_iff_toNat_le] using h

theorem repr_isDigit (n : Nat) : ∀ c ∈ (Nat.repr n).toList, c.isDigit = true := by
  intro c hc
  rw [Nat.toList_repr] at hc
  exact Nat.isDigit_of_mem_toDigits (by decide) (by decide) hc

theorem repr_bytes (n : Nat) :
    utf8 (Nat.repr n) = (Nat.repr n).toList.map fun c => UInt8.ofNat c.toNat := by
  apply utf8_ascii
  intro c hc
  have := digit_number c (repr_isDigit n c hc)
  omega

end Text

namespace Http

theorem digit_byte (c : Char) (h : c.isDigit = true) :
    isDigitByte (UInt8.ofNat c.toNat) = true ∧ (UInt8.ofNat c.toNat).toNat = c.toNat := by
  obtain ⟨hlow, hhigh⟩ := digit_number c h
  have hb := Utf8.byte_toNat c.toNat (by omega)
  refine ⟨?_, hb⟩
  simp only [isDigitByte, Bool.and_eq_true, decide_eq_true_eq, UInt8.le_iff_toNat_le, hb]
  exact ⟨hlow, hhigh⟩

theorem decimal_repr (n : Nat) : decimal (utf8 (Nat.repr n)) = n := by
  have hfold : ∀ (cs : List Char) (m : Nat), (∀ c ∈ cs, c.isDigit = true) →
      (cs.map fun c => UInt8.ofNat c.toNat).foldl (fun n b => 10 * n + (b.toNat - 48)) m =
        Nat.ofDigitChars 10 cs m := by
    intro cs
    induction cs with
    | nil => exact fun _ _ => rfl
    | cons c cs ih =>
      intro m h
      rw [List.map_cons, List.foldl_cons, (digit_byte c (h c List.mem_cons_self)).2]
      exact ih _ fun d hd => h d (List.mem_cons_of_mem c hd)
  rw [decimal, repr_bytes, hfold _ 0 (repr_isDigit n), Nat.toList_repr,
    Nat.ofDigitChars_toDigits (by decide) (by decide)]

theorem repr_digitBytes (n : Nat) : ∀ b ∈ utf8 (Nat.repr n), isDigitByte b = true := by
  intro b hb
  rw [repr_bytes] at hb
  obtain ⟨c, hc, rfl⟩ := List.mem_map.mp hb
  exact (digit_byte c (repr_isDigit n c hc)).1

theorem digit_text (b : UInt8) (h : isDigitByte b = true) :
    isTextByte b = true ∧ isBlankByte b = false := by
  simp only [isDigitByte, Bool.and_eq_true, decide_eq_true_eq, UInt8.le_iff_toNat_le] at h
  have hall : ∀ n < 58, 48 ≤ n →
      isTextByte (UInt8.ofNat n) = true ∧ isBlankByte (UInt8.ofNat n) = false := by decide
  have hb := hall b.toNat (Nat.lt_succ_of_le h.2) h.1
  rwa [UInt8.ofNat_toNat] at hb

theorem repr_three (n : Nat) (h : 100 ≤ n ∧ n ≤ 999) : (utf8 (Nat.repr n)).length = 3 := by
  have htwo := Nat.length_toDigits_le_iff (b := 10) (n := n) (k := 2) (by decide) (by decide)
  have hthree := Nat.length_toDigits_le_iff (b := 10) (n := n) (k := 3) (by decide) (by decide)
  rw [repr_bytes, List.length_map, Nat.toList_repr]
  omega

theorem digit_apart (c : Char) (h : c.isDigit = true) :
    ('0' ≤ c && c ≤ '9') = true ∧ (c = ',') = False ∧ isBlankChar c = false := by
  obtain ⟨hlow, hhigh⟩ := digit_number c h
  refine ⟨?_, ?_, ?_⟩
  · simp only [Bool.and_eq_true, decide_eq_true_eq]
    exact ⟨hlow, hhigh⟩
  · rw [eq_iff_iff, iff_false]
    rintro rfl
    exact absurd hlow (by decide)
  · simp only [isBlankChar, Bool.or_eq_false_iff, beq_eq_false_iff_ne]
    constructor
    · rintro rfl
      exact absurd hlow (by decide)
    · rintro rfl
      exact absurd hlow (by decide)

theorem asciiText?_repr (n : Nat) : asciiText? (utf8 (Nat.repr n)) = some (Nat.repr n).toList := by
  have hdigits : ∀ cs : List Char, (∀ c ∈ cs, c.isDigit = true) →
      asciiText? (cs.map fun c => UInt8.ofNat c.toNat) = some cs := by
    intro cs
    induction cs with
    | nil => exact fun _ => rfl
    | cons c cs ih =>
      intro h
      obtain ⟨hbyte, hnumber⟩ := digit_byte c (h c List.mem_cons_self)
      simp only [isDigitByte, Bool.and_eq_true, decide_eq_true_eq] at hbyte
      have hshown : UInt8.ofNat c.toNat = 0x09 ∨
          (0x20 ≤ UInt8.ofNat c.toNat ∧ UInt8.ofNat c.toNat < 0x7F) := by
        refine .inr ⟨UInt8.le_trans (by decide) hbyte.1, UInt8.lt_of_le_of_lt hbyte.2 (by decide)⟩
      have hrest := ih fun d hd => h d (List.mem_cons_of_mem c hd)
      rw [asciiText?] at hrest ⊢
      rw [List.map_cons, List.mapM_cons, if_pos hshown, hrest, hnumber, Char.ofNat_toNat]
      rfl
  rw [repr_bytes]
  exact hdigits _ (repr_isDigit n)

theorem length?_repr (n : Nat) (h : n < Word.count64) : length? (Nat.repr n).toList = some n := by
  have hsome : (Nat.repr n).toList ≠ [] := by
    rw [Nat.toList_repr]
    exact Nat.toDigits_ne_nil
  have hall : ((Nat.repr n).toList.all fun c => '0' ≤ c && c ≤ '9') = true := by
    rw [List.all_eq_true]
    exact fun c hc => (digit_apart c (repr_isDigit n c hc)).1
  have hnumber : (Nat.repr n).toList.foldl (fun n c => 10 * n + (c.toNat - 48)) 0 = n := by
    rw [Nat.toList_repr]
    exact Nat.ofDigitChars_toDigits (by decide) (by decide)
  rw [length?, if_pos ⟨hsome, hall⟩]
  simp only [hnumber, if_pos h]

/-- The length that is announced is the length that is read. -/
theorem agreedLength?_repr (n : Nat) (h : n < Word.count64) :
    agreedLength? [utf8 (Nat.repr n)] = some n := by
  have hitems : listItems (Nat.repr n).toList = [(Nat.repr n).toList] := by
    rw [listItems, pieces_single, List.map_singleton, strip_self]
    · exact fun c hc => (digit_apart c (repr_isDigit n c hc)).2.2
    · intro c hc
      simp [(digit_apart c (repr_isDigit n c hc)).2.1]
  have htexts : [utf8 (Nat.repr n)].mapM asciiText? = some [(Nat.repr n).toList] := by
    rw [List.mapM_cons, asciiText?_repr]
    rfl
  have hlengths : [(Nat.repr n).toList].mapM length? = some [n] := by
    rw [List.mapM_cons, length?_repr n h]
    rfl
  simp only [agreedLength?, htexts, Option.bind_eq_bind, Option.bind_some, List.flatMap_singleton,
    hitems, hlengths]
  rfl

theorem hexDigit_byte (d : Nat) (h : d < 16) :
    (Quoted.hexDigit d).toNat < 0x80 ∧
      ChunkState.hexByte? (UInt8.ofNat (Quoted.hexDigit d).toNat) = some d := by
  have hall : ∀ d < 16, (Quoted.hexDigit d).toNat < 0x80 ∧
      ChunkState.hexByte? (UInt8.ofNat (Quoted.hexDigit d).toNat) = some d := by decide
  exact hall d h

theorem hexNumber?_append (n : Nat) (front back : List UInt8) :
    hexNumber? n (front ++ back) = (hexNumber? n front).bind fun m => hexNumber? m back := by
  rw [hexNumber?, List.foldlM_append]
  rfl

theorem hexNumber?_hexDigits (n : Nat) :
    Quoted.hexDigits n ≠ [] ∧ (∀ c ∈ Quoted.hexDigits n, c.toNat < 0x80) ∧
      hexNumber? 0 ((Quoted.hexDigits n).map fun c => UInt8.ofNat c.toNat) = some n := by
  fun_induction Quoted.hexDigits n with
  | case1 n hn =>
    obtain ⟨hascii, hvalue⟩ := hexDigit_byte n hn
    refine ⟨by simp, by simpa using hascii, ?_⟩
    rw [List.map_singleton, ChunkState.hexNumber?_cons, hvalue]
    simp [hexNumber?]
  | case2 n hn ih =>
    obtain ⟨hsome, hascii, hvalue⟩ := ih
    obtain ⟨hlast, hdigit⟩ := hexDigit_byte (n % 16) (Nat.mod_lt n (by decide))
    refine ⟨by simp, ?_, ?_⟩
    · intro c hc
      rcases List.mem_append.mp hc with hc | hc
      · exact hascii c hc
      · rwa [List.mem_singleton.mp hc]
    · rw [List.map_append, hexNumber?_append, hvalue, Option.bind_some, List.map_singleton,
        ChunkState.hexNumber?_cons, hdigit, Option.bind_some]
      exact congrArg some (by omega)

theorem sizeLine_hexDigits (n : Nat) (h : n < Word.count64) :
    SizeLine (utf8 (.ofList (Quoted.hexDigits n)) ++ crlf) n 0 := by
  obtain ⟨hsome, hascii, hvalue⟩ := hexNumber?_hexDigits n
  have hbytes : utf8 (.ofList (Quoted.hexDigits n)) =
      (Quoted.hexDigits n).map fun c => UInt8.ofNat c.toNat := by
    rw [utf8_ascii _ (by simpa using hascii), String.toList_ofList]
  rw [hbytes]
  exact .mk _ crlf n 0 (by simpa using hsome) hvalue h (.bare [] (by simp))

/-- A body that is cut into chunks is what the chunks hold, however it is cut. -/
theorem chunked_written (n : Nat) (body : List UInt8) (h : body.length < Word.count64) :
    Chunked (writeChunked n body) body 0 := by
  rw [writeChunked]
  fun_induction partsOf n body with
  | case1 =>
    have hline := sizeLine_hexDigits 0 (by decide)
    have hlast := Chunked.last _ [] 0 hline (by simp)
    have hbytes : utf8 (.ofList (Quoted.hexDigits 0)) ++ crlf ++ ([] : List (List UInt8)).flatten
        ++ crlf = utf8 "0\r\n\r\n" := by decide +kernel
    rw [hbytes] at hlast
    exact hlast
  | case2 b bs ih =>
    have hlength : (b :: bs.take n).length + (bs.drop n).length = (b :: bs).length := by
      rw [← List.length_append, List.cons_append, List.take_append_drop]
    have hrest := ih (by omega)
    have hline := sizeLine_hexDigits (b :: bs.take n).length (by omega)
    have hchunk := Chunked.chunk _ _ _ _ 0 0 hline (by simp) hrest
    rw [List.cons_append, List.take_append_drop] at hchunk
    rw [List.flatMap_cons, writeChunk]
    simpa only [List.append_assoc] using hchunk

namespace Sent

def headerOf (h : List UInt8 × List UInt8) : Header :=
  ⟨.ofList (h.1.map Head.lowerByte), strip isBlankByte h.2⟩

structure Sendable (h : List UInt8 × List UInt8) : Prop where
  named : h.1 ≠ []
  name : ∀ b ∈ h.1, isTokenByte b = true
  value : ∀ b ∈ h.2, isTextByte b = true

theorem headerLine_sendable (h : List UInt8 × List UInt8) (hs : Sendable h) :
    HeaderLine (headerLine h.1 h.2) (headerOf h) := by
  obtain ⟨name, value⟩ := h
  obtain ⟨back, hsplit, hback⟩ := dropEnd_split isBlankByte (value.dropWhile isBlankByte)
  have hvalue : value.takeWhile isBlankByte ++ (strip isBlankByte value ++ back) = value := by
    rw [strip, ← hsplit, List.takeWhile_append_dropWhile]
  have hedges : ∀ b, (strip isBlankByte value).head? = some b ∨
      (strip isBlankByte value).getLast? = some b → isBlankByte b = false := by
    rintro b (hb | hb)
    · have hhead : (value.dropWhile isBlankByte).head? = some b := by
        rw [hsplit, List.head?_append, show (dropEnd isBlankByte _).head? = some b from hb,
          Option.some_or]
      have hnot := List.head?_dropWhile_not isBlankByte value
      rwa [hhead] at hnot
    · exact dropEnd_last hb
  have hline := HeaderLine.mk name (0x20 :: value.takeWhile isBlankByte)
    (strip isBlankByte value) back crlf hs.named hs.name
    (by
      intro b hb
      rcases List.mem_cons.mp hb with rfl | hb
      · rfl
      · exact List.mem_takeWhile_imp hb)
    hback
    (fun b hb => hs.value b (hvalue ▸ List.mem_append_right _ (List.mem_append_left _ hb)))
    hedges .long
  have hbytes : name ++ 0x3A :: 0x20 :: value.takeWhile isBlankByte ++ strip isBlankByte value
      ++ back ++ crlf = headerLine name value := by
    rw [headerLine, show utf8 ": " = [0x3A, 0x20] by decide]
    conv => rhs; rw [← hvalue]
    simp only [List.append_assoc, List.cons_append, List.nil_append]
  rw [← hbytes]
  exact hline

theorem headerLines_sent (hs : List (List UInt8 × List UInt8)) (h : ∀ x ∈ hs, Sendable x) :
    HeaderLines (hs.flatMap (fun h => headerLine h.1 h.2) ++ crlf) (hs.map headerOf) := by
  induction hs with
  | nil => exact .done crlf .long
  | cons x hs ih =>
    rw [List.flatMap_cons, List.append_assoc, List.map_cons]
    exact .more _ _ _ _ (headerLine_sendable x (h x List.mem_cons_self))
      (ih fun y hy => h y (List.mem_cons_of_mem x hy))

def framingHeaders : Delivery → List (List UInt8 × List UInt8)
  | .declared length => [(utf8 "content-length", utf8 (Nat.repr length))]
  | .untilClose => []
  | .chunked .. => [(utf8 "transfer-encoding", utf8 "chunked")]

def allHeaders (s : Sent) : List (List UInt8 × List UInt8) :=
  s.headers ++ framingHeaders s.delivery

def headBytes (s : Sent) : List UInt8 :=
  s.statusLine ++ s.allHeaders.flatMap (fun h => headerLine h.1 h.2) ++ crlf

theorem statusLine_bytes (s : Sent) : s.statusLine =
    Version.http11.text ++ 0x20 :: (utf8 (Nat.repr s.status) ++ 0x20 :: (s.reason ++ crlf)) := by
  rw [statusLine, show utf8 "HTTP/1.1 " = Version.http11.text ++ [0x20] by decide,
    show utf8 " " = [0x20] by decide]
  simp only [List.append_assoc, List.cons_append, List.nil_append]

theorem bytes_head (s : Sent) : s.bytes = s.headBytes ++ deliver s.body s.delivery := by
  have hframing : deliveryHeader s.delivery =
      (framingHeaders s.delivery).flatMap fun h => headerLine h.1 h.2 := by
    cases s.delivery <;> simp [deliveryHeader, framingHeaders]
  rw [bytes, headBytes, allHeaders, hframing]
  simp only [List.flatMap_append, List.append_assoc]

inductive Completes (body : List UInt8) : Delivery → Prop
  | declared : Completes body (.declared body.length)
  | untilClose : Completes body .untilClose
  | chunked (size : Nat) (hsize : 1 ≤ size) : Completes body (.chunked size true)

/-- A response with a body that is delivered completely, and headers of its own
that say nothing about where the body ends. A reader has room for its head, and
its body can be counted. -/
structure Sound (s : Sent) : Prop where
  status : 200 ≤ s.status ∧ s.status ≤ 999
  bodied : s.status ≠ 204 ∧ s.status ≠ 304
  reason : ∀ b ∈ s.reason, isTextByte b = true
  headers : ∀ h ∈ s.headers, Sendable h
  unframed : ∀ h ∈ s.headers,
    (headerOf h).name ≠ "content-length" ∧ (headerOf h).name ≠ "transfer-encoding"
  few : s.headers.length ≤ 90
  names : ∀ h ∈ s.headers, h.1.length < nameLimit
  room : s.headBytes.length ≤ headLimit
  delivery : Completes s.body s.delivery
  countable : s.body.length < uncountable

theorem sendable_added (name value : List UInt8)
    (hname : name ≠ [] ∧ name.all isTokenByte = true ∧ name.length < nameLimit)
    (hvalue : value.all isTextByte = true) :
    Sendable (name, value) ∧ (name, value).1.length < nameLimit :=
  ⟨⟨hname.1, List.all_eq_true.mp hname.2.1, List.all_eq_true.mp hvalue⟩, hname.2.2⟩

theorem framingHeaders_sound (d : Delivery) :
    ∀ h ∈ framingHeaders d, Sendable h ∧ h.1.length < nameLimit := by
  cases d with
  | untilClose => simp [framingHeaders]
  | declared length =>
    intro h hh
    rw [List.mem_singleton.mp hh]
    exact sendable_added _ _ (by decide) (List.all_eq_true.mpr
      fun b hb => (digit_text b (repr_digitBytes length b hb)).1)
  | chunked size terminated =>
    intro h hh
    rw [List.mem_singleton.mp hh]
    exact sendable_added _ _ (by decide) (by decide)

section
variable {s : Sent} (hs : s.Sound)

def Sound.code (hs : s.Sound) : Status := ⟨s.status, by have := hs.status; omega⟩

def Sound.head (hs : s.Sound) : Head := ⟨.http11, hs.code, s.allHeaders.map headerOf⟩

include hs in
theorem allHeaders_sound : ∀ h ∈ s.allHeaders, Sendable h ∧ h.1.length < nameLimit := by
  intro h hh
  rcases List.mem_append.mp hh with hh | hh
  · exact ⟨hs.headers h hh, hs.names h hh⟩
  · exact framingHeaders_sound s.delivery h hh

theorem headText_sent : HeadText s.headBytes hs.head := by
  have hcode : decimal (utf8 (Nat.repr s.status)) = hs.code.code := decimal_repr s.status
  have htext := HeadText.mk [] .http11 (utf8 (Nat.repr s.status)) (0x20 :: s.reason) crlf _
    hs.code _ (by simp) (repr_digitBytes _)
    (repr_three _ (by have := hs.status; omega)) hcode (.some s.reason hs.reason) .long
    (headerLines_sent s.allHeaders fun h hh => (allHeaders_sound hs h hh).1)
  have hbytes : ([] : List (List UInt8)).flatten ++ Version.http11.text ++
      0x20 :: utf8 (Nat.repr s.status) ++ 0x20 :: s.reason ++ crlf ++
        (s.allHeaders.flatMap (fun h => headerLine h.1 h.2) ++ crlf) = s.headBytes := by
    rw [headBytes, statusLine_bytes]
    simp only [List.flatten_nil, List.nil_append, List.append_assoc, List.cons_append]
  rw [hbytes] at htext
  exact htext

theorem withinLimits_sent (room : Nat) (hroom : headLimit ≤ room) :
    hs.head.WithinLimits room s.headBytes where
  bytes := Nat.le_trans hs.room hroom
  headers := by
    have hfew := hs.few
    have hframing : (framingHeaders s.delivery).length ≤ 1 := by
      cases s.delivery <;> simp [framingHeaders]
    simp only [Sound.head, allHeaders, headerLimit, List.length_map, List.length_append]
    omega
  names := by
    intro h hh
    obtain ⟨x, hx, rfl⟩ := List.mem_map.mp hh
    simpa [headerOf] using (allHeaders_sound hs x hx).2

theorem announced_sent (room : Nat) (hroom : headLimit ≤ room) :
    Announced room s.bytes hs.head (deliver s.body s.delivery) := by
  rw [bytes_head]
  refine .last _ _ _ (headText_sent hs) (withinLimits_sent hs room hroom) ?_
  have hlow : ¬s.status < 200 := Nat.not_lt.mpr hs.status.1
  simp [Status.isInterim, Sound.head, Sound.code, hlow]

def values (s : Sent) (name : String) : List (List UInt8) :=
  ((s.headers.map headerOf).filter (·.name == name)).map (·.value)

theorem values_head (name : String) :
    hs.head.values name =
      s.values name ++
        (((framingHeaders s.delivery).map headerOf).filter (·.name == name)).map (·.value) := by
  rw [Head.values, Sound.head, allHeaders, List.map_append, List.filter_append, List.map_append,
    values]

include hs in
theorem values_unframed : s.values "content-length" = [] ∧ s.values "transfer-encoding" = [] := by
  constructor
  all_goals
    rw [values, List.map_eq_nil_iff, List.filter_eq_nil_iff]
    intro h hh
    obtain ⟨x, hx, rfl⟩ := List.mem_map.mp hh
  · simpa using (hs.unframed x hx).1
  · simpa using (hs.unframed x hx).2

theorem framing_sent (room : Option Nat) :
    ∃ how, framing hs.head = .ok how ∧
      Delivered room how (deliver s.body s.delivery) s.body := by
  obtain ⟨hlength, hcoding⟩ := values_unframed hs
  have hcontent : hs.head.values "content-length" =
      (((framingHeaders s.delivery).map headerOf).filter (·.name == "content-length")).map
        (·.value) := by
    rw [values_head hs, hlength, List.nil_append]
  have htransfer : hs.head.values "transfer-encoding" =
      (((framingHeaders s.delivery).map headerOf).filter (·.name == "transfer-encoding")).map
        (·.value) := by
    rw [values_head hs, hcoding, List.nil_append]
  have hbodied : (hs.head.status.isBodiless || hs.head.status.code == 101) = false := by
    have h101 : s.status ≠ 101 := by have := hs.status; omega
    simp [Status.isBodiless, Sound.head, Sound.code, hs.bodied.1, hs.bodied.2, h101]
  have hversion : hs.head.version ≠ .http10 := Version.noConfusion
  have hcount := hs.countable
  have hcompletes := hs.delivery
  rw [framing, hbodied, hcontent, htransfer]
  generalize s.delivery = d at hcompletes ⊢
  cases hcompletes with
  | declared =>
    have hvalues : ((framingHeaders (.declared s.body.length)).map headerOf) =
        [⟨"content-length", utf8 (Nat.repr s.body.length)⟩] := by
      rw [framingHeaders, List.map_singleton, headerOf, strip_self fun b hb =>
        (digit_text b (repr_digitBytes _ b hb)).2,
        show String.ofList ((utf8 "content-length").map Head.lowerByte) = "content-length" by
          decide]
    have hagreed := agreedLength?_repr s.body.length (by rw [uncountable] at hcount; omega)
    rw [hvalues]
    refine ⟨.length s.body.length, ?_, ?_⟩
    · simp [hagreed, hcount]
    · have hwhole : Delivered room (.length s.body.length) (s.body ++ []) s.body := .length _ _
      simpa [deliver] using hwhole
  | untilClose => exact ⟨_, rfl, .untilClose s.body⟩
  | chunked size hsize =>
    have hvalues : ((framingHeaders (.chunked size true)).map headerOf) =
        [⟨"transfer-encoding", utf8 "chunked"⟩] := by
      show [headerOf (utf8 "transfer-encoding", utf8 "chunked")] = _
      decide
    have hends : endsChunked [utf8 "chunked"] = true := by decide
    have hchunked := chunked_written (size - 1) s.body (by rw [uncountable] at hcount; omega)
    rw [hvalues]
    refine ⟨.chunked, ?_, ?_⟩
    · simp [hversion, hends]
    · simpa [deliver] using Delivered.chunked _ [] _ 0 hchunked (fits_zero room)

end

end Sent

end Http
end MapClient
