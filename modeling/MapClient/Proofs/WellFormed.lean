import MapClient.Text.Pieces
import MapClient.Text.Utf8
import Mathlib.Tactic.IntervalCases

/-!
# Reading what was written

The bytes of a text are read back as that text, one character at a time: after
the bytes of a character the reader stands between characters again.
-/

set_option autoImplicit false

namespace MapClient.Text

theorem after?_iff {α : Type} [BEq α] [LawfulBEq α] (mark as rest : List α) :
    after? mark as = some rest ↔ as = mark ++ rest := by
  induction mark generalizing as with
  | nil => simp [after?]
  | cons m mark ih =>
    cases as with
    | nil => simp [after?]
    | cons a as =>
      by_cases hm : m = a
      · simp [after?, hm, ih]
      · simp [after?, hm, Ne.symm hm]

namespace Utf8

def bytesOf (v : Nat) : List UInt8 :=
  if v ≤ 0x7F then [UInt8.ofNat v]
  else if v ≤ 0x7FF then
    [UInt8.ofNat (v / 64 % 0x20 + 0xC0), UInt8.ofNat (v % 0x40 + 0x80)]
  else if v ≤ 0xFFFF then
    [UInt8.ofNat (v / 4096 % 0x10 + 0xE0), UInt8.ofNat (v / 64 % 0x40 + 0x80),
      UInt8.ofNat (v % 0x40 + 0x80)]
  else
    [UInt8.ofNat (v / 262144 % 0x08 + 0xF0), UInt8.ofNat (v / 4096 % 0x40 + 0x80),
      UInt8.ofNat (v / 64 % 0x40 + 0x80), UInt8.ofNat (v % 0x40 + 0x80)]

theorem byte_toNat (n : Nat) (h : n < 256) : (UInt8.ofNat n).toNat = n := by
  simp [Nat.mod_eq_of_lt h]

theorem feed_within (owed : Nat) (low high : UInt8) (bits k : Nat) (out : Decoded)
    (hk : k < 64) (hlow : low.toNat ≤ k + 0x80) (hhigh : k + 0x80 ≤ high.toNat) :
    feed (.within owed low high bits, out) (UInt8.ofNat (k + 0x80)) =
      match owed with
      | 0 => (.start, some (Char.ofNat (64 * bits + k)) :: out)
      | n + 1 => (.within n 0x80 0xBF (64 * bits + k), out) := by
  have hb := byte_toNat (k + 0x80) (by omega)
  have hin : low ≤ UInt8.ofNat (k + 0x80) ∧ UInt8.ofNat (k + 0x80) ≤ high := by
    simp only [UInt8.le_iff_toNat_le, hb]
    exact ⟨hlow, hhigh⟩
  have hmod : (k + 0x80) % 64 = k := by omega
  cases owed with
  | zero => simp only [feed, hin, and_self, if_true, hb, hmod]
  | succ n => simp only [feed, hin, and_self, if_true, hb, hmod]

theorem feed_tail (owed bits k : Nat) (out : Decoded) (hk : k < 64) :
    feed (.within owed 0x80 0xBF bits, out) (UInt8.ofNat (k + 0x80)) =
      match owed with
      | 0 => (.start, some (Char.ofNat (64 * bits + k)) :: out)
      | n + 1 => (.within n 0x80 0xBF (64 * bits + k), out) := by
  have hlow : (0x80 : UInt8).toNat ≤ k + 0x80 := by
    show 0x80 ≤ k + 0x80
    omega
  have hhigh : k + 0x80 ≤ (0xBF : UInt8).toNat := by
    show k + 0x80 ≤ 0xBF
    omega
  exact feed_within owed 0x80 0xBF bits k out hk hlow hhigh

theorem lead_one (n : Nat) (out : Decoded) (h : n < 0x80) :
    lead out (UInt8.ofNat n) = (.start, some (Char.ofNat n) :: out) := by
  have hb := byte_toNat n (by omega)
  have hlt : UInt8.ofNat n < 0x80 := by
    rw [UInt8.lt_iff_toNat_lt, hb]
    exact h
  simp only [lead, hlt, if_true, hb]

theorem lead_two (n : Nat) (out : Decoded) (hlow : 2 ≤ n) (h : n < 32) :
    lead out (UInt8.ofNat (n + 0xC0)) = (.within 0 0x80 0xBF n, out) := by
  interval_cases n <;> rfl

theorem lead_three (n : Nat) (out : Decoded) (h : n < 16) :
    lead out (UInt8.ofNat (n + 0xE0)) =
      (.within 1 (if n = 0 then 0xA0 else 0x80) (if n = 13 then 0x9F else 0xBF) n, out) := by
  interval_cases n <;> rfl

theorem lead_four (n : Nat) (out : Decoded) (h : n < 5) :
    lead out (UInt8.ofNat (n + 0xF0)) =
      (.within 2 (if n = 0 then 0x90 else 0x80) (if n = 4 then 0x8F else 0xBF) n, out) := by
  interval_cases n <;> rfl

/-- The bytes of a character are read as that character. The bounds after the
first byte keep out what would be too long, a surrogate or too large, and a
character is none of these. -/
theorem feed_encodeChar (c : Char) (out : Decoded) :
    (String.utf8EncodeChar c).foldl feed (.start, out) = (.start, some c :: out) := by
  have hvalid : c.toNat < 0xD800 ∨ 0xDFFF < c.toNat ∧ c.toNat < 0x110000 := c.valid
  have hc : Char.ofNat c.toNat = c := Char.ofNat_toNat c
  rw [show String.utf8EncodeChar c = bytesOf c.toNat from rfl]
  generalize c.toNat = v at hvalid hc
  have htail : ∀ n : Nat, n % 0x40 < 64 := fun n => Nat.mod_lt n (by omega)
  unfold bytesOf
  split_ifs with h1 h2 h3
  · rw [List.foldl_cons, feed, lead_one v out (by omega), hc]
    rfl
  · rw [List.foldl_cons, feed, Nat.mod_eq_of_lt (show v / 64 < 0x20 by omega),
      lead_two (v / 64) out (by omega) (by omega), List.foldl_cons,
      feed_tail 0 (v / 64) (v % 0x40) out (htail v)]
    have hv : 64 * (v / 64) + v % 0x40 = v := by omega
    simp only [hv, hc, List.foldl_nil]
  · rw [List.foldl_cons, feed, Nat.mod_eq_of_lt (show v / 4096 < 0x10 by omega),
      lead_three (v / 4096) out (by omega), List.foldl_cons,
      feed_within 1 _ _ (v / 4096) (v / 64 % 0x40) out (htail _)
        (by split_ifs <;> simp; omega) (by split_ifs <;> simp <;> omega),
      List.foldl_cons,
      feed_tail 0 _ (v % 0x40) out (htail v)]
    have hv : 64 * (64 * (v / 4096) + v / 64 % 0x40) + v % 0x40 = v := by omega
    simp only [hv, hc, List.foldl_nil]
  · rw [List.foldl_cons, feed, Nat.mod_eq_of_lt (show v / 262144 < 0x08 by omega),
      lead_four (v / 262144) out (by omega), List.foldl_cons,
      feed_within 2 _ _ (v / 262144) (v / 4096 % 0x40) out (htail _)
        (by split_ifs <;> simp; omega) (by split_ifs <;> simp <;> omega),
      List.foldl_cons,
      feed_tail 1 _ (v / 64 % 0x40) out (htail _),
      List.foldl_cons,
      feed_tail 0 _ (v % 0x40) out (htail v)]
    have hv : 64 * (64 * (64 * (v / 262144) + v / 4096 % 0x40) + v / 64 % 0x40)
        + v % 0x40 = v := by omega
    simp only [hv, hc, List.foldl_nil]

theorem feed_encode (cs : List Char) (out : Decoded) :
    (encode cs).foldl feed (.start, out) = (.start, (cs.map some).reverse ++ out) := by
  induction cs generalizing out with
  | nil => rfl
  | cons c cs ih =>
    have hcons : encode (c :: cs) = String.utf8EncodeChar c ++ encode cs := rfl
    rw [hcons, List.foldl_append, feed_encodeChar, ih]
    simp

theorem scan_encode (cs : List Char) : scan (encode cs) = cs.map some := by
  rw [scan, feed_encode, finish, List.append_nil, List.reverse_reverse]

theorem decode?_encode (cs : List Char) : decode? (encode cs) = some cs := by
  have hall : (cs.map some).all Option.isSome = true := by simp
  rw [decode?, scan_encode]
  simp only [hall, if_true, List.filterMap_map, Function.id_comp, List.filterMap_some]

theorem high_byte (n : Nat) (h : 0x80 ≤ n) (hn : n < 256) : ¬UInt8.ofNat n < 0x80 := by
  rw [UInt8.lt_iff_toNat_lt, byte_toNat n hn]
  show ¬n < 0x80
  omega

/-- A byte that stands for an ASCII character stands for nothing else. -/
theorem low_byte (c : Char) (b : UInt8) (hb : b < 0x80) (h : b ∈ String.utf8EncodeChar c) :
    c.toNat = b.toNat := by
  have hvalid : c.toNat < 0xD800 ∨ 0xDFFF < c.toNat ∧ c.toNat < 0x110000 := c.valid
  rw [show String.utf8EncodeChar c = bytesOf c.toNat from rfl] at h
  generalize c.toNat = v at hvalid h
  unfold bytesOf at h
  split_ifs at h with h1 h2 h3
  · rw [List.mem_singleton.mp h, byte_toNat v (by omega)]
  · simp only [List.mem_cons, List.not_mem_nil, or_false] at h
    rcases h with rfl | rfl <;> exact absurd hb (high_byte _ (by omega) (by omega))
  · simp only [List.mem_cons, List.not_mem_nil, or_false] at h
    rcases h with rfl | rfl | rfl <;> exact absurd hb (high_byte _ (by omega) (by omega))
  · simp only [List.mem_cons, List.not_mem_nil, or_false] at h
    rcases h with rfl | rfl | rfl | rfl <;>
      exact absurd hb (high_byte _ (by omega) (by omega))

end Utf8

theorem not_mem_utf8 (s : String) (b : UInt8) (hb : b < 0x80)
    (h : Char.ofNat b.toNat ∉ s.toList) : b ∉ utf8 s := by
  intro hmem
  obtain ⟨c, hc, hbyte⟩ := List.mem_flatMap.mp hmem
  have hnumber := Utf8.low_byte c b hb hbyte
  rw [← hnumber, Char.ofNat_toNat] at h
  exact h hc

/-- A text is read back from its bytes. -/
theorem ofUtf8?_utf8 (s : String) : ofUtf8? (utf8 s) = some s := by
  rw [ofUtf8?, utf8, Utf8.decode?_encode, Option.map_some, String.ofList_toList]

theorem ofUtf8_utf8 (s : String) : ofUtf8 (utf8 s) = s := by
  rw [ofUtf8, Utf8.decode, utf8, Utf8.scan_encode, List.map_map]
  simp

theorem utf8_injective (s t : String) (h : utf8 s = utf8 t) : s = t := by
  have hread : some s = some t := by rw [← ofUtf8?_utf8 s, h, ofUtf8?_utf8 t]
  exact Option.some.inj hread

theorem utf8_append (s t : String) : utf8 (s ++ t) = utf8 s ++ utf8 t := by
  rw [utf8, String.toList_append, Utf8.encode, List.flatMap_append]
  rfl

end MapClient.Text
