import MapClient.Proofs.Utf8Reading
import MapClient.Text.Utf16
import Mathlib.Data.List.Induction
import Mathlib.Tactic.SplitIfs

/-!
# Decoding units of two bytes

A character is one unit or a pair of them, each with its bytes in one of two
orders. A unit of a pair that stands alone is ill-formed, and so is what is left
at the end if it is no whole character.
-/

set_option autoImplicit false

namespace MapClient.Text.Utf16

def unitBytes (bigEndian : Bool) (n : Nat) : List UInt8 :=
  if bigEndian then [UInt8.ofNat (n / 256), UInt8.ofNat (n % 256)]
  else [UInt8.ofNat (n % 256), UInt8.ofNat (n / 256)]

def encodeChar (bigEndian : Bool) (c : Char) : List UInt8 :=
  if c.toNat < 0x10000 then unitBytes bigEndian c.toNat
  else unitBytes bigEndian (0xD800 + (c.toNat - 0x10000) / 0x400) ++
    unitBytes bigEndian (0xDC00 + (c.toNat - 0x10000) % 0x400)

def Unpaired (bigEndian : Bool) (n : Nat) (rest : List UInt8) : Prop :=
  isLow n = true ∨ isHigh n = true ∧ ∃ m more, rest = unitBytes bigEndian m ++ more ∧
    m < 0x10000 ∧ isLow m = false

inductive Reads (bigEndian : Bool) : List UInt8 → Utf8.Decoded → Prop
  | done : Reads bigEndian [] []
  | char (c : Char) (rest : List UInt8) (out : Utf8.Decoded) (h : Reads bigEndian rest out) :
      Reads bigEndian (encodeChar bigEndian c ++ rest) (some c :: out)
  | unpaired (n : Nat) (rest : List UInt8) (out : Utf8.Decoded)
      (hn : Unpaired bigEndian n rest) (h : Reads bigEndian rest out) :
      Reads bigEndian (unitBytes bigEndian n ++ rest) (none :: out)
  | odd (b : UInt8) : Reads bigEndian [b] [none]
  | half (n : Nat) (last : List UInt8) (hn : isHigh n = true) (hlast : last.length ≤ 1) :
      Reads bigEndian (unitBytes bigEndian n ++ last) [none]

theorem unitBytes_two (bigEndian : Bool) (a b : UInt8) :
    ∃ n < 0x10000, [a, b] = unitBytes bigEndian n := by
  have ha := a.toNat_lt
  have hb := b.toNat_lt
  cases bigEndian with
  | true =>
    have hhigh : (256 * a.toNat + b.toNat) / 256 = a.toNat := by omega
    have hlow : (256 * a.toNat + b.toNat) % 256 = b.toNat := by omega
    refine ⟨256 * a.toNat + b.toNat, by omega, ?_⟩
    simp only [unitBytes, if_true, hhigh, hlow, UInt8.ofNat_toNat]
  | false =>
    have hhigh : (256 * b.toNat + a.toNat) / 256 = b.toNat := by omega
    have hlow : (256 * b.toNat + a.toNat) % 256 = a.toNat := by omega
    refine ⟨256 * b.toNat + a.toNat, by omega, ?_⟩
    simp only [unitBytes, Bool.false_eq_true, if_false, hhigh, hlow, UInt8.ofNat_toNat]

theorem feed_unit (bigEndian : Bool) (n : Nat) (hn : n < 0x10000) (high : Option Nat)
    (out : List Char) : (unitBytes bigEndian n).foldl (State.feed bigEndian) ⟨none, high, out⟩ =
      (State.mk none high out).unit n := by
  have hfirst : (UInt8.ofNat (n / 256)).toNat = n / 256 := UInt8.toNat_ofNat_of_lt' (by
    rw [UInt8.size]; omega)
  have hsecond : (UInt8.ofNat (n % 256)).toNat = n % 256 := UInt8.toNat_ofNat_of_lt' (by
    rw [UInt8.size]; omega)
  have hsum : 256 * (n / 256) + n % 256 = n := Nat.div_add_mod n 256
  cases bigEndian with
  | true => simp only [unitBytes, if_true, List.foldl_cons, List.foldl_nil, State.feed, hfirst,
      hsecond, hsum]
  | false => simp only [unitBytes, Bool.false_eq_true, if_false, List.foldl_cons, List.foldl_nil,
      State.feed, hfirst, hsecond, hsum]

def State.onto (s : State) (out : List Char) : State := { s with out := s.out ++ out }

theorem unit_onto (s : State) (out : List Char) (n : Nat) :
    (s.onto out).unit n = (s.unit n).onto out := by
  obtain ⟨byte, high, read⟩ := s
  cases high with
  | none =>
    simp only [State.onto, State.unit, State.lead]
    split_ifs <;> rfl
  | some h =>
    simp only [State.onto, State.unit, State.lead]
    split_ifs <;> rfl

theorem feed_onto (bigEndian : Bool) (s : State) (out : List Char) (b : UInt8) :
    State.feed bigEndian (s.onto out) b = (State.feed bigEndian s b).onto out := by
  obtain ⟨byte, high, read⟩ := s
  cases byte with
  | none => rfl
  | some a => exact unit_onto ⟨none, high, read⟩ out _

theorem foldl_onto (bigEndian : Bool) (bs : List UInt8) (s : State) (out : List Char) :
    bs.foldl (State.feed bigEndian) (s.onto out) =
      (bs.foldl (State.feed bigEndian) s).onto out := by
  induction bs generalizing s with
  | nil => rfl
  | cons b bs ih => rw [List.foldl_cons, List.foldl_cons, feed_onto, ih]

theorem finish_onto (s : State) (out : List Char) :
    (s.onto out).finish = out.reverse ++ s.finish := by
  obtain ⟨byte, high, read⟩ := s
  unfold State.onto State.finish
  dsimp only
  split_ifs <;> simp

def decodeAfter (bigEndian : Bool) (high : Option Nat) (bs : List UInt8) : List Char :=
  (bs.foldl (State.feed bigEndian) ⟨none, high, []⟩).finish

theorem foldl_read (bigEndian : Bool) (high : Option Nat) (c : Char) (bs : List UInt8) :
    (bs.foldl (State.feed bigEndian) ⟨none, high, [c]⟩).finish =
      c :: decodeAfter bigEndian high bs := by
  rw [show State.mk none high [c] = State.onto ⟨none, high, []⟩ [c] from rfl, foldl_onto,
    finish_onto]
  rfl

section
variable (bigEndian : Bool) (n : Nat) (hn : n < 0x10000) (bs : List UInt8)
include hn

theorem decodeAfter_lead :
    decodeAfter bigEndian none (unitBytes bigEndian n ++ bs) =
      if isHigh n then decodeAfter bigEndian (some n) bs
      else if isLow n then '\ufffd' :: decodeAfter bigEndian none bs
      else Char.ofNat n :: decodeAfter bigEndian none bs := by
  rw [decodeAfter, List.foldl_append, feed_unit bigEndian n hn, State.unit, State.lead]
  dsimp only
  split_ifs
  · rfl
  · exact foldl_read bigEndian none _ bs
  · exact foldl_read bigEndian none _ bs

theorem decodeAfter_high (h : Nat) :
    decodeAfter bigEndian (some h) (unitBytes bigEndian n ++ bs) =
      if isLow n then
        Char.ofNat (0x10000 + (h - 0xD800) * 0x400 + (n - 0xDC00)) :: decodeAfter bigEndian none bs
      else '\ufffd' :: decodeAfter bigEndian none (unitBytes bigEndian n ++ bs) := by
  rw [← foldl_read bigEndian none _ (unitBytes bigEndian n ++ bs), decodeAfter, List.foldl_append,
    List.foldl_append, feed_unit bigEndian n hn, feed_unit bigEndian n hn, State.unit]
  dsimp only
  split_ifs
  · exact foldl_read bigEndian none _ bs
  · rfl

end

theorem isHigh_iff (n : Nat) : isHigh n = true ↔ 0xD800 ≤ n ∧ n ≤ 0xDBFF := by
  simp only [isHigh, Bool.and_eq_true, decide_eq_true_eq]

theorem isLow_iff (n : Nat) : isLow n = true ↔ 0xDC00 ≤ n ∧ n ≤ 0xDFFF := by
  simp only [isLow, Bool.and_eq_true, decide_eq_true_eq]

theorem isLow_false (n : Nat) (h : n < 0xDC00 ∨ 0xDFFF < n) : isLow n = false := by
  rw [← Bool.not_eq_true, isLow_iff]
  omega

theorem isHigh_false (n : Nat) (h : n < 0xD800 ∨ 0xDBFF < n) : isHigh n = false := by
  rw [← Bool.not_eq_true, isHigh_iff]
  omega

theorem encodeChar_unit (bigEndian : Bool) (n : Nat) (hn : n < 0xD800 ∨ 0xDFFF < n ∧ n < 0x10000) :
    encodeChar bigEndian (Char.ofNat n) = unitBytes bigEndian n := by
  rw [encodeChar, Utf8.toNat_number n (by omega), if_pos (by omega)]

theorem encodeChar_pair (bigEndian : Bool) (h n : Nat) (hhigh : 0xD800 ≤ h ∧ h ≤ 0xDBFF)
    (hlow : 0xDC00 ≤ n ∧ n ≤ 0xDFFF) :
    encodeChar bigEndian (Char.ofNat (0x10000 + (h - 0xD800) * 0x400 + (n - 0xDC00))) =
      unitBytes bigEndian h ++ unitBytes bigEndian n := by
  generalize hv : 0x10000 + (h - 0xD800) * 0x400 + (n - 0xDC00) = v
  rw [encodeChar, Utf8.toNat_number v (by omega), if_neg (by omega),
    show 0xD800 + (v - 0x10000) / 0x400 = h by omega,
    show 0xDC00 + (v - 0x10000) % 0x400 = n by omega]

/-- Every sequence of bytes has parts, from a character on and after the first unit
of a pair. -/
theorem reads_total (bigEndian : Bool) (bs : List UInt8) :
    (∃ out, Reads bigEndian bs out) ∧
    ∀ h, isHigh h = true → ∃ out, Reads bigEndian (unitBytes bigEndian h ++ bs) out := by
  -- a unit takes two bytes
  induction bs using List.twoStepInduction with
  | nil => exact ⟨⟨[], .done⟩, fun h hh => ⟨_, .half h [] hh (by decide)⟩⟩
  | singleton b => exact ⟨⟨_, .odd b⟩, fun h hh => ⟨_, .half h [b] hh (Nat.le_refl 1)⟩⟩
  | cons_cons a b bs ih _ =>
    obtain ⟨⟨out, hread⟩, ihhigh⟩ := ih
    obtain ⟨n, hn, hbytes⟩ := unitBytes_two bigEndian a b
    have hsplit : a :: b :: bs = unitBytes bigEndian n ++ bs := by rw [← hbytes]; rfl
    rw [hsplit]
    by_cases hhigh : isHigh n = true
    · obtain ⟨out, hstart⟩ := ihhigh n hhigh
      have hlow : isLow n = false := by
        rw [isHigh_iff] at hhigh
        exact isLow_false n (by omega)
      exact ⟨⟨out, hstart⟩, fun h hh =>
        ⟨_, .unpaired h _ out (.inr ⟨hh, n, bs, rfl, hn, hlow⟩) hstart⟩⟩
    by_cases hlow : isLow n = true
    · refine ⟨⟨_, .unpaired n bs out (.inl hlow) hread⟩, fun h hh => ?_⟩
      rw [isHigh_iff] at hh
      rw [isLow_iff] at hlow
      rw [← List.append_assoc, ← encodeChar_pair bigEndian h n hh hlow]
      exact ⟨_, .char _ bs out hread⟩
    · have hstart := Reads.char (Char.ofNat n) bs out hread
      rw [isHigh_iff] at hhigh
      rw [encodeChar_unit bigEndian n (by rw [isLow_iff] at hlow; omega)] at hstart
      exact ⟨⟨_, hstart⟩, fun h hh =>
        ⟨_, .unpaired h _ _ (.inr ⟨hh, n, bs, rfl, hn, by simpa using hlow⟩) hstart⟩⟩

/-- The decoder finds the parts, and there is no other way to read them. -/
theorem reads_shown (bigEndian : Bool) (bs : List UInt8) (out : Utf8.Decoded)
    (h : Reads bigEndian bs out) : decode bigEndian bs = shown out := by
  show decodeAfter bigEndian none bs = shown out
  induction h with
  | done => rfl
  | odd b => rfl
  | half n last hn hlast =>
    have hbounds := (isHigh_iff n).mp hn
    rw [decodeAfter_lead bigEndian n (by omega), if_pos hn]
    match last with
    | [] => rfl
    | [b] => rfl
    | _ :: _ :: _ =>
      simp only [List.length_cons] at hlast
      omega
  | unpaired n rest out hn hrest ih =>
    rcases hn with hlow | ⟨hhigh, m, more, rfl, hm, hlow⟩
    · have hbounds := (isLow_iff n).mp hlow
      have hhigh := isHigh_false n (by omega)
      rw [decodeAfter_lead bigEndian n (by omega), hhigh, if_neg Bool.false_ne_true, if_pos hlow,
        ih, shown_none]
    · have hbounds := (isHigh_iff n).mp hhigh
      rw [decodeAfter_lead bigEndian n (by omega), if_pos hhigh,
        decodeAfter_high bigEndian m hm, hlow, if_neg Bool.false_ne_true, ih, shown_none]
  | char c rest out hrest ih =>
    have hvalid : c.toNat < 0xD800 ∨ 0xDFFF < c.toNat ∧ c.toNat < 0x110000 := c.valid
    rw [encodeChar]
    split_ifs with hplane
    · rw [decodeAfter_lead bigEndian c.toNat hplane, isHigh_false _ (by omega),
        isLow_false _ (by omega), if_neg Bool.false_ne_true, if_neg Bool.false_ne_true,
        Char.ofNat_toNat, ih, shown_some]
    · have hsum : 0x10000 + (0xD800 + (c.toNat - 0x10000) / 0x400 - 0xD800) * 0x400 +
          (0xDC00 + (c.toNat - 0x10000) % 0x400 - 0xDC00) = c.toNat := by omega
      rw [List.append_assoc, decodeAfter_lead bigEndian _ (by omega),
        if_pos ((isHigh_iff _).mpr (by omega)), decodeAfter_high bigEndian _ (by omega),
        if_pos ((isLow_iff _).mpr (by omega)), hsum, Char.ofNat_toNat, ih, shown_some]

end MapClient.Text.Utf16
