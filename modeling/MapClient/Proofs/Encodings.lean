import MapClient.Proofs.Utf16Reading
import MapClient.Text.Encoding

/-!
# Reading bytes in an encoding

A byte order mark decides the encoding, and otherwise the label does. Whatever the
bytes are, they are read in one way, and what is ill-formed in the encoding becomes
U+FFFD. A text in UTF-8 is read back, without the mark that it may begin with.
-/

set_option autoImplicit false

namespace MapClient.Text

def SingleByte.char? (table : List Span) (b : UInt8) : Option Char :=
  if b < 0x80 then some (Char.ofNat b.toNat)
  else (table.find? (·.holds b.toNat)).bind fun s => (s.image b.toNat).head?

theorem SingleByte.char_eq (table : List Span) (b : UInt8) :
    char table b = (char? table b).getD '\ufffd' := by
  unfold char char?
  split_ifs
  · rfl
  · cases table.find? (·.holds b.toNat) with
    | none => rfl
    | some s => simp [List.headD_eq_head?_getD]

namespace Encoding

/-- What the bytes stand for in an encoding, with `none` for what is ill-formed. -/
inductive Reads (multi : MultiByte.Decoder) : Encoding → List UInt8 → Utf8.Decoded → Prop
  | utf8 (bs : List UInt8) (out : Utf8.Decoded) (h : Utf8.Reads bs out) : Reads multi .utf8 bs out
  | utf16 (bigEndian : Bool) (bs : List UInt8) (out : Utf8.Decoded)
      (h : Utf16.Reads bigEndian bs out) : Reads multi (.utf16 bigEndian) bs out
  | single (table : List Span) (bs : List UInt8) :
      Reads multi (.single table) bs (bs.map (SingleByte.char? table))
  | multi (m : MultiByte) (bs : List UInt8) : Reads multi (.multi m) bs (multi m bs)
  | userDefined (bs : List UInt8) :
      Reads multi .userDefined bs (bs.map (some ∘ userDefinedChar))
  | nothing : Reads multi .replacement [] []
  | something (bs : List UInt8) (h : bs ≠ []) : Reads multi .replacement bs [none]

section
variable (multi : MultiByte.Decoder)

theorem reads_total (e : Encoding) (bs : List UInt8) : ∃ out, e.Reads multi bs out := by
  cases e with
  | utf8 => exact ⟨_, .utf8 bs _ ((Utf8.reads_iff bs _).mpr rfl)⟩
  | utf16 bigEndian =>
    obtain ⟨out, h⟩ := (Utf16.reads_total bigEndian bs).1
    exact ⟨out, .utf16 bigEndian bs out h⟩
  | single table => exact ⟨_, .single table bs⟩
  | multi m => exact ⟨_, .multi m bs⟩
  | userDefined => exact ⟨_, .userDefined bs⟩
  | replacement =>
    by_cases h : bs = []
    · exact ⟨[], h ▸ .nothing⟩
    · exact ⟨[none], .something bs h⟩

theorem decode_reads {e : Encoding} {bs : List UInt8} {out : Utf8.Decoded}
    (h : e.Reads multi bs out) : e.decode multi bs = shown out := by
  cases h with
  | utf8 _ _ h => rw [(Utf8.reads_iff bs out).mp h, decode, Utf8.decode, shown]
  | utf16 bigEndian _ _ h => exact Utf16.reads_shown bigEndian bs out h
  | single table =>
    rw [decode, SingleByte.decode, shown, List.map_map]
    exact List.map_congr_left fun b _ => SingleByte.char_eq table b
  | multi => rw [decode, shown]
  | userDefined => rw [decode, shown, List.map_map]; rfl
  | nothing => rfl
  | something _ h => exact if_neg h

end

inductive Marks : List UInt8 → Encoding → Prop
  | utf8 : Marks [0xEF, 0xBB, 0xBF] .utf8
  | big : Marks [0xFE, 0xFF] (.utf16 true)
  | little : Marks [0xFF, 0xFE] (.utf16 false)

def Unmarked (bs : List UInt8) : Prop := ∀ mark e, Marks mark e → ¬mark <+: bs

inductive ReadsMarked (multi : MultiByte.Decoder) (e : Encoding) :
    List UInt8 → Utf8.Decoded → Prop
  | marked (mark : List UInt8) (other : Encoding) (bs : List UInt8) (out : Utf8.Decoded)
      (hmark : Marks mark other) (h : other.Reads multi bs out) :
      ReadsMarked multi e (mark ++ bs) out
  | plain (bs : List UInt8) (out : Utf8.Decoded) (hmark : Unmarked bs)
      (h : e.Reads multi bs out) : ReadsMarked multi e bs out

theorem ofMark?_marked {mark : List UInt8} {e : Encoding} (h : Marks mark e) (bs : List UInt8) :
    ofMark? (mark ++ bs) = some (e, bs) := by
  cases h <;> rfl

theorem ofMark?_cases (bs : List UInt8) :
    (∃ mark e rest, Marks mark e ∧ bs = mark ++ rest) ∨ Unmarked bs ∧ ofMark? bs = none := by
  unfold ofMark?
  split
  · exact .inl ⟨_, _, _, .utf8, rfl⟩
  · exact .inl ⟨_, _, _, .big, rfl⟩
  · exact .inl ⟨_, _, _, .little, rfl⟩
  · rename_i hutf8 hbig hlittle
    refine .inr ⟨?_, rfl⟩
    rintro mark e hmark ⟨rest, rfl⟩
    cases hmark with
    | utf8 => exact hutf8 rest rfl
    | big => exact hbig rest rfl
    | little => exact hlittle rest rfl

theorem unmarked_low (b : UInt8) (bs : List UInt8) (h : b < 0x80) : Unmarked (b :: bs) := by
  rintro mark e hmark ⟨rest, hrest⟩
  cases hmark <;> obtain rfl := (List.cons.inj hrest).1 <;> exact absurd h (by decide)

section
variable (multi : MultiByte.Decoder)

theorem readsMarked_total (e : Encoding) (bs : List UInt8) :
    ∃ out, e.ReadsMarked multi bs out := by
  rcases ofMark?_cases bs with ⟨mark, other, rest, hmark, rfl⟩ | ⟨hmark, -⟩
  · obtain ⟨out, h⟩ := other.reads_total multi rest
    exact ⟨out, .marked mark other rest out hmark h⟩
  · obtain ⟨out, h⟩ := e.reads_total multi bs
    exact ⟨out, .plain bs out hmark h⟩

theorem decodeMarked_mark (e : Encoding) {mark : List UInt8} {other : Encoding}
    (h : Marks mark other) (bs : List UInt8) :
    e.decodeMarked multi (mark ++ bs) = .ofList (other.decode multi bs) := by
  rw [decodeMarked, ofMark?_marked h]

theorem decodeMarked_plain (e : Encoding) (bs : List UInt8) (h : Unmarked bs) :
    e.decodeMarked multi bs = .ofList (e.decode multi bs) := by
  rcases ofMark?_cases bs with ⟨mark, other, rest, hother, rfl⟩ | ⟨-, hnone⟩
  · exact absurd (List.prefix_append mark rest) (h mark other hother)
  · rw [decodeMarked, hnone]

theorem decodeMarked_reads {e : Encoding} {bs : List UInt8} {out : Utf8.Decoded}
    (h : e.ReadsMarked multi bs out) : e.decodeMarked multi bs = .ofList (shown out) := by
  cases h with
  | marked mark other bs _ hmark h => rw [decodeMarked_mark multi e hmark, decode_reads multi h]
  | plain _ _ hmark h => rw [decodeMarked_plain multi e bs hmark, decode_reads multi h]

theorem decode_encode (cs : List Char) : Encoding.utf8.decode multi (Utf8.encode cs) = cs := by
  rw [decode, Utf8.decode, Utf8.scan_encode, List.map_map]
  simp

end

/-- No character begins with a byte of the other marks, and only one has the bytes
of this one. -/
theorem unmarked_encode (c : Char) (cs : List Char) (h : c ≠ '\ufeff') :
    Unmarked (Utf8.encode (c :: cs)) := by
  have hfirst := Utf8.Part.char c (Utf8.encode cs)
  have hstray (b : UInt8) (hb : ¬Utf8.Opens [b]) (bs : List UInt8) :
      ¬b :: bs <+: Utf8.encode (c :: cs) := by
    rintro ⟨rest, hrest⟩
    obtain ⟨-, -, hwhat⟩ := (Utf8.Part.stray b (bs ++ rest) hb).same hfirst hrest
    cases hwhat
  intro mark e hmark
  cases hmark with
  | utf8 =>
    rintro ⟨rest, hrest⟩
    obtain ⟨-, -, hwhat⟩ := (Utf8.Part.char '\ufeff' rest).same hfirst hrest
    exact h (Option.some.inj hwhat).symm
  | big => exact hstray 0xFE (Utf8.not_opens _ (by decide)) _
  | little => exact hstray 0xFF (Utf8.not_opens _ (by decide)) _

end Encoding

open Encoding (Unmarked)

def withoutMark (t : String) : String :=
  match t.toList with
  | '\ufeff' :: cs => .ofList cs
  | _ => t

theorem withoutMark_marked (t : String) : withoutMark ("\ufeff" ++ t) = t := by
  rw [withoutMark, String.toList_append]
  exact String.ofList_toList

theorem marked_cases (t : String) :
    (∃ rest, t = "\ufeff" ++ rest) ∨ (withoutMark t = t ∧ Unmarked (utf8 t)) := by
  by_cases h : ∃ cs, t.toList = '\ufeff' :: cs
  · obtain ⟨cs, hcs⟩ := h
    refine .inl ⟨.ofList cs, String.toList_inj.mp ?_⟩
    rw [hcs, String.toList_append, show "\ufeff".toList = ['\ufeff'] from rfl,
      String.toList_ofList]
    rfl
  · refine .inr ⟨?_, ?_⟩
    · unfold withoutMark
      split
      · rename_i cs hcs
        exact absurd ⟨cs, hcs⟩ h
      · rfl
    · rw [utf8]
      cases hcs : t.toList with
      | nil =>
        intro mark e hmark hbegins
        have := hbegins.length_le
        cases hmark <;> simp [Utf8.encode] at this
      | cons c cs => exact Encoding.unmarked_encode c cs fun hc => h ⟨cs, hc ▸ hcs⟩

theorem decodeMarked_marked (multi : MultiByte.Decoder) (e : Encoding) (t : String) :
    e.decodeMarked multi (utf8 ("\ufeff" ++ t)) = t := by
  rw [utf8_append, show utf8 "\ufeff" = [0xEF, 0xBB, 0xBF] from rfl,
    e.decodeMarked_mark multi .utf8, utf8, Encoding.decode_encode, String.ofList_toList]

theorem decodeMarked_utf8 (multi : MultiByte.Decoder) (t : String) :
    Encoding.utf8.decodeMarked multi (utf8 t) = withoutMark t := by
  rcases marked_cases t with ⟨rest, rfl⟩ | ⟨hsame, hunmarked⟩
  · rw [decodeMarked_marked, withoutMark_marked]
  · rw [hsame, Encoding.decodeMarked_plain _ _ _ hunmarked, utf8, Encoding.decode_encode,
      String.ofList_toList]

end MapClient.Text
