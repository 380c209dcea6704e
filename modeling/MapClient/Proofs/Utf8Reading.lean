import MapClient.Proofs.WellFormed
import Mathlib.Data.List.Infix

/-!
# Decoding what may be ill-formed

Bytes are read part by part. A part is a character, or it is ill-formed: as many
bytes as a character begins with that goes on otherwise, or one byte that no
character begins with. Every sequence of bytes is read in one way, which is what
the decoder finds.
-/

set_option autoImplicit false

namespace MapClient.Text

def shown (out : Utf8.Decoded) : List Char := out.map (·.getD '\ufffd')

theorem shown_some (c : Char) (out : Utf8.Decoded) : shown (some c :: out) = c :: shown out := rfl

theorem shown_none (out : Utf8.Decoded) : shown (none :: out) = '\ufffd' :: shown out := rfl

namespace Utf8

def Opens (front : List UInt8) : Prop := ∃ c, front <+: String.utf8EncodeChar c

/-- A part of a sequence of bytes, what follows it, and the character that it is. -/
inductive Part : List UInt8 → List UInt8 → Option Char → Prop
  | char (c : Char) (rest : List UInt8) : Part (String.utf8EncodeChar c) rest (some c)
  | cut (front rest : List UInt8) (c : Char) (hfront : front ≠ [])
      (hopens : front <+: String.utf8EncodeChar c) (hshort : front ≠ String.utf8EncodeChar c)
      (hstop : ∀ b, rest.head? = some b → ¬Opens (front ++ [b])) : Part front rest none
  | stray (b : UInt8) (rest : List UInt8) (h : ¬Opens [b]) : Part [b] rest none

inductive Reads : List UInt8 → Decoded → Prop
  | done : Reads [] []
  | part (front rest : List UInt8) (what : Option Char) (out : Decoded)
      (hpart : Part front rest what) (hrest : Reads rest out) : Reads (front ++ rest) (what :: out)

theorem lead_onto (out : Decoded) (b : UInt8) :
    lead out b = ((lead [] b).1, (lead [] b).2 ++ out) := by
  unfold lead
  split_ifs <;> rfl

theorem feed_inside (owed : Nat) (low high : UInt8) (bits : Nat) (out : Decoded) (b : UInt8)
    (h : low ≤ b ∧ b ≤ high) :
    feed (.within owed low high bits, out) b =
      match owed with
      | 0 => (.start, some (Char.ofNat (64 * bits + b.toNat % 64)) :: out)
      | n + 1 => (.within n 0x80 0xBF (64 * bits + b.toNat % 64), out) := by
  cases owed <;> simp only [feed, h, and_self, if_true]

theorem feed_outside (owed : Nat) (low high : UInt8) (bits : Nat) (out : Decoded) (b : UInt8)
    (h : ¬(low ≤ b ∧ b ≤ high)) :
    feed (.within owed low high bits, out) b = lead (none :: out) b := by
  simp only [feed, h, if_false]

theorem feed_onto (st : State) (out : Decoded) (b : UInt8) :
    feed (st, out) b = ((feed (st, []) b).1, (feed (st, []) b).2 ++ out) := by
  cases st with
  | start => exact lead_onto out b
  | within owed low high bits =>
    by_cases h : low ≤ b ∧ b ≤ high
    · rw [feed_inside owed low high bits out b h, feed_inside owed low high bits [] b h]
      cases owed <;> rfl
    · rw [feed_outside owed low high bits out b h, feed_outside owed low high bits [] b h,
        lead_onto, lead_onto [none]]
      simp

theorem foldl_onto (bs : List UInt8) (st : State) (out : Decoded) :
    bs.foldl feed (st, out) =
      ((bs.foldl feed (st, [])).1, (bs.foldl feed (st, [])).2 ++ out) := by
  induction bs generalizing st out with
  | nil => rfl
  | cons b bs ih =>
    rw [List.foldl_cons, List.foldl_cons, feed_onto, ih, ih _ (feed (st, []) b).2]
    simp

theorem not_opens (front : List UInt8) (h : none ∈ (front.foldl feed (.start, [])).2) :
    ¬Opens front := by
  rintro ⟨c, rest, hrest⟩
  have hc := feed_encodeChar c []
  rw [← hrest, List.foldl_append, foldl_onto] at hc
  have hout := congrArg Prod.snd hc
  dsimp only at hout
  have hmem := List.mem_append_right (rest.foldl feed ((front.foldl feed (.start, [])).1, [])).2 h
  rw [hout] at hmem
  simp at hmem

theorem encodeChar_apart (c d : Char) (h : String.utf8EncodeChar c <+: String.utf8EncodeChar d) :
    c = d := by
  obtain ⟨rest, hrest⟩ := h
  have hd := feed_encodeChar d []
  rw [← hrest, List.foldl_append, feed_encodeChar, foldl_onto] at hd
  have hlast := congrArg (fun r => r.2.getLast?) hd
  simpa using hlast

/-- The bytes so far, with whatever bytes the decoder still takes, make a character. -/
def Owes (front : List UInt8) : Nat → UInt8 → UInt8 → Nat → Prop
  | 0, low, high, bits => low ≤ high ∧ ∀ b, low ≤ b → b ≤ high →
      front ++ [b] = String.utf8EncodeChar (Char.ofNat (64 * bits + b.toNat % 64))
  | n + 1, low, high, bits => low ≤ high ∧ ∀ b, low ≤ b → b ≤ high →
      Owes (front ++ [b]) n 0x80 0xBF (64 * bits + b.toNat % 64)

theorem Owes.opens (front : List UInt8) (owed : Nat) (low high : UInt8) (bits : Nat)
    (h : Owes front owed low high bits) :
    ∃ c, front <+: String.utf8EncodeChar c ∧ front ≠ String.utf8EncodeChar c := by
  induction owed generalizing front low high bits with
  | zero =>
    have hbytes := h.2 low (UInt8.le_refl low) h.1
    refine ⟨_, ⟨[low], hbytes⟩, fun hsame => ?_⟩
    rw [← hbytes] at hsame
    simpa using congrArg List.length hsame
  | succ n ih =>
    obtain ⟨c, hbegins, -⟩ := ih _ _ _ _ (h.2 low (UInt8.le_refl low) h.1)
    have hlonger := hbegins.length_le
    rw [List.length_append, List.length_singleton] at hlonger
    refine ⟨c, (List.prefix_append front [low]).trans hbegins, fun hsame => ?_⟩
    rw [← hsame] at hlonger
    omega

theorem toNat_number (v : Nat) (h : v < 0xD800 ∨ 0xDFFF < v ∧ v < 0x110000) :
    (Char.ofNat v).toNat = v := by
  rw [Char.ofNat, dif_pos (show v.isValidChar from h)]
  rfl

theorem encodeChar_number (v : Nat) (h : v < 0xD800 ∨ 0xDFFF < v ∧ v < 0x110000) :
    String.utf8EncodeChar (Char.ofNat v) = bytesOf v := by
  rw [show String.utf8EncodeChar (Char.ofNat v) = bytesOf (Char.ofNat v).toNat from rfl,
    toNat_number v h]

theorem tail_byte (b : UInt8) (h : 0x80 ≤ b.toNat) (h' : b.toNat ≤ 0xBF) :
    ∃ k < 64, b = UInt8.ofNat (k + 0x80) ∧ b.toNat = k + 0x80 ∧ b.toNat % 64 = k := by
  have hsum : b.toNat - 0x80 + 0x80 = b.toNat := by omega
  refine ⟨b.toNat - 0x80, by omega, ?_, hsum.symm, by omega⟩
  rw [hsum, UInt8.ofNat_toNat]

theorem owes_two (n : Nat) (hn : 2 ≤ n) (hn' : n < 32) :
    Owes [UInt8.ofNat (n + 0xC0)] 0 0x80 0xBF n := by
  refine ⟨by decide, fun b hb hb' => ?_⟩
  obtain ⟨k, hk, hbyte, -, hbits⟩ := tail_byte b hb hb'
  rw [hbits, encodeChar_number _ (by omega), bytesOf, if_neg (by omega), if_pos (by omega),
    show (64 * n + k) / 64 % 0x20 = n by omega, show (64 * n + k) % 0x40 = k by omega, ← hbyte]
  rfl

/-- The bounds of the second byte keep out what would be too long and surrogates. -/
theorem owes_three (n : Nat) (low high : UInt8) (hn : n < 16) (hlow : 0x80 ≤ low.toNat)
    (hhigh : high.toNat ≤ 0xBF) (hbounds : low.toNat ≤ high.toNat)
    (hlong : n = 0 → 0xA0 ≤ low.toNat) (hsurrogate : n = 13 → high.toNat ≤ 0x9F) :
    Owes [UInt8.ofNat (n + 0xE0)] 1 low high n := by
  refine ⟨hbounds, fun b (hb : low.toNat ≤ b.toNat) (hb' : b.toNat ≤ high.toNat) => ?_⟩
  obtain ⟨k, hk, hbyte, hnumber, hbits⟩ := tail_byte b (by omega) (by omega)
  refine ⟨by decide, fun c hc hc' => ?_⟩
  obtain ⟨l, hl, hbyte', -, hbits'⟩ := tail_byte c hc hc'
  rw [hbits, hbits', encodeChar_number _ (by omega), bytesOf, if_neg (by omega),
    if_neg (by omega), if_pos (by omega),
    show (64 * (64 * n + k) + l) / 4096 % 0x10 = n by omega,
    show (64 * (64 * n + k) + l) / 64 % 0x40 = k by omega,
    show (64 * (64 * n + k) + l) % 0x40 = l by omega, ← hbyte, ← hbyte']
  rfl

/-- The bounds of the second byte keep out what would be too long and too large. -/
theorem owes_four (n : Nat) (low high : UInt8) (hn : n < 5) (hlow : 0x80 ≤ low.toNat)
    (hhigh : high.toNat ≤ 0xBF) (hbounds : low.toNat ≤ high.toNat)
    (hlong : n = 0 → 0x90 ≤ low.toNat) (hlarge : n = 4 → high.toNat ≤ 0x8F) :
    Owes [UInt8.ofNat (n + 0xF0)] 2 low high n := by
  refine ⟨hbounds, fun b (hb : low.toNat ≤ b.toNat) (hb' : b.toNat ≤ high.toNat) => ?_⟩
  obtain ⟨k, hk, hbyte, hnumber, hbits⟩ := tail_byte b (by omega) (by omega)
  refine ⟨by decide, fun c hc hc' => ?_⟩
  obtain ⟨l, hl, hbyte', -, hbits'⟩ := tail_byte c hc hc'
  refine ⟨by decide, fun d hd hd' => ?_⟩
  obtain ⟨m, hm, hbyte'', -, hbits''⟩ := tail_byte d hd hd'
  rw [hbits, hbits', hbits'', encodeChar_number _ (by omega), bytesOf, if_neg (by omega),
    if_neg (by omega), if_neg (by omega),
    show (64 * (64 * (64 * n + k) + l) + m) / 262144 % 0x08 = n by omega,
    show (64 * (64 * (64 * n + k) + l) + m) / 4096 % 0x40 = k by omega,
    show (64 * (64 * (64 * n + k) + l) + m) / 64 % 0x40 = l by omega,
    show (64 * (64 * (64 * n + k) + l) + m) % 0x40 = m by omega, ← hbyte, ← hbyte', ← hbyte'']
  rfl

theorem lead_stray (b : UInt8) (out : Decoded)
    (h : 0x80 ≤ b.toNat ∧ b.toNat < 0xC2 ∨ 0xF5 ≤ b.toNat) :
    lead out b = (.start, none :: out) := by
  rcases h with ⟨hlow, hhigh⟩ | hlow
  · rw [lead, if_neg (show ¬b < 0x80 from Nat.not_lt.mpr hlow), if_pos (show b < 0xC2 from hhigh)]
  · have habove (n : UInt8) (hn : n.toNat ≤ 0xF5) : ¬b < n := Nat.not_lt.mpr (hn.trans hlow)
    have hother (n : UInt8) (hn : n.toNat < 0xF5) : b ≠ n :=
      fun h => absurd (h ▸ hlow) (Nat.not_le.mpr hn)
    rw [lead, if_neg (habove 0x80 (by decide)), if_neg (habove 0xC2 (by decide)),
      if_neg (habove 0xE0 (by decide)), if_neg (hother 0xE0 (by decide)),
      if_neg (hother 0xED (by decide)), if_neg (habove 0xF0 (by decide)),
      if_neg (hother 0xF0 (by decide)), if_neg (habove 0xF4 (by decide)),
      if_neg (hother 0xF4 (by decide))]

/-- A byte at the beginning of a part is a character, or begins none, or needs more. -/
theorem lead_cases (b : UInt8) :
    (∃ c, [b] = String.utf8EncodeChar c ∧ ∀ out, lead out b = (.start, some c :: out)) ∨
    (¬Opens [b] ∧ ∀ out, lead out b = (.start, none :: out)) ∨
    ∃ owed low high bits, Owes [b] owed low high bits ∧
      ∀ out, lead out b = (.within owed low high bits, out) := by
  have hb : UInt8.ofNat b.toNat = b := UInt8.ofNat_toNat
  by_cases hone : b.toNat < 0x80
  · refine .inl ⟨Char.ofNat b.toNat, ?_, fun out => ?_⟩
    · rw [encodeChar_number _ (by omega), bytesOf, if_pos (by omega), hb]
    · have hlead := lead_one b.toNat out hone
      rwa [hb] at hlead
  by_cases hstray : b.toNat < 0xC2 ∨ 0xF5 ≤ b.toNat
  · have hlead (out : Decoded) : lead out b = (.start, none :: out) :=
      lead_stray b out (by omega)
    refine .inr (.inl ⟨not_opens [b] ?_, hlead⟩)
    rw [List.foldl_cons, List.foldl_nil, feed, hlead]
    exact List.mem_cons_self
  generalize b.toNat = n at hb hone hstray
  refine .inr (.inr ?_)
  by_cases htwo : n < 0xE0
  · obtain ⟨m, rfl⟩ := Nat.exists_eq_add_of_le' (show 0xC0 ≤ n by omega)
    exact ⟨_, _, _, _, hb ▸ owes_two m (by omega) (by omega),
      fun out => hb ▸ lead_two m out (by omega) (by omega)⟩
  by_cases hthree : n < 0xF0
  · obtain ⟨m, rfl⟩ := Nat.exists_eq_add_of_le' (show 0xE0 ≤ n by omega)
    refine ⟨_, _, _, _, hb ▸ owes_three m (if m = 0 then 0xA0 else 0x80)
      (if m = 13 then 0x9F else 0xBF) (by omega) ?_ ?_ ?_ ?_ ?_,
      fun out => hb ▸ lead_three m out (by omega)⟩
    · split_ifs <;> decide
    · split_ifs <;> decide
    · split_ifs <;> first | decide | omega
    · exact fun h => by rw [if_pos h]; decide
    · exact fun h => by rw [if_pos h]; decide
  · obtain ⟨m, rfl⟩ := Nat.exists_eq_add_of_le' (show 0xF0 ≤ n by omega)
    refine ⟨_, _, _, _, hb ▸ owes_four m (if m = 0 then 0x90 else 0x80)
      (if m = 4 then 0x8F else 0xBF) (by omega) ?_ ?_ ?_ ?_ ?_,
      fun out => hb ▸ lead_four m out (by omega)⟩
    · split_ifs <;> decide
    · split_ifs <;> decide
    · split_ifs <;> first | decide | omega
    · exact fun h => by rw [if_pos h]; decide
    · exact fun h => by rw [if_pos h]; decide

theorem finish_onto (bs : List UInt8) (st : State) (out : Decoded) :
    finish (bs.foldl feed (st, out)) = out.reverse ++ finish (bs.foldl feed (st, [])) := by
  rw [foldl_onto]
  generalize bs.foldl feed (st, []) = reached
  obtain ⟨st', new⟩ := reached
  cases st' <;> simp [finish]

structure Pending (front : List UInt8) (owed : Nat) (low high : UInt8) (bits : Nat) : Prop where
  run : front.foldl feed (.start, []) = (.within owed low high bits, [])
  owes : Owes front owed low high bits

section
variable {front : List UInt8} {owed : Nat} {low high : UInt8} {bits : Nat}
  (h : Pending front owed low high bits)
include h

theorem Pending.nonempty : front ≠ [] := by
  rintro rfl
  cases h.run

theorem Pending.cut (rest : List UInt8) (hstop : ∀ b, rest.head? = some b → ¬(low ≤ b ∧ b ≤ high)) :
    Part front rest none := by
  obtain ⟨c, hopens, hshort⟩ := h.owes.opens
  refine .cut front rest c h.nonempty hopens hshort fun b hb => not_opens _ ?_
  rw [List.foldl_append, h.run, List.foldl_cons, List.foldl_nil,
    feed_outside owed low high bits [] b (hstop b hb), lead_onto]
  exact List.mem_append_right _ List.mem_cons_self

/-- With a byte that it takes, a pending part is a character or still pending. -/
theorem Pending.step (b : UInt8) (hb : low ≤ b ∧ b ≤ high) :
    (∃ c, front ++ [b] = String.utf8EncodeChar c ∧
      feed (.within owed low high bits, []) b = (.start, [some c])) ∨
    ∃ owed' low' high' bits', Pending (front ++ [b]) owed' low' high' bits' ∧
      feed (.within owed low high bits, []) b = (.within owed' low' high' bits', []) := by
  have hfeed := feed_inside owed low high bits [] b hb
  have howes := h.owes
  cases owed with
  | zero => exact .inl ⟨_, howes.2 b hb.1 hb.2, hfeed⟩
  | succ n =>
    refine .inr ⟨_, _, _, _, ⟨?_, howes.2 b hb.1 hb.2⟩, hfeed⟩
    rw [List.foldl_append, h.run]
    exact hfeed

end

theorem Reads.char (c : Char) (bs : List UInt8) (out : Decoded) (h : Reads bs out) :
    Reads (String.utf8EncodeChar c ++ bs) (some c :: out) :=
  .part _ bs _ out (.char c bs) h

theorem reads_from (bs : List UInt8) :
    Reads bs (finish (bs.foldl feed (.start, []))) ∧
    ∀ front owed low high bits, Pending front owed low high bits →
      Reads (front ++ bs) (finish (bs.foldl feed (.within owed low high bits, []))) := by
  induction bs with
  | nil =>
    refine ⟨.done, fun front owed low high bits h => ?_⟩
    exact .part front [] none [] (h.cut [] (by simp)) .done
  | cons b bs ih =>
    obtain ⟨ihstart, ihpending⟩ := ih
    have hstart : Reads (b :: bs) (finish ((b :: bs).foldl feed (.start, []))) := by
      rw [List.foldl_cons, feed]
      rcases lead_cases b with ⟨c, hc, hlead⟩ | ⟨hstray, hlead⟩ | ⟨_, _, _, _, howes, hlead⟩
      · have hread := ihstart.char c
        rw [← hc] at hread
        rwa [hlead, finish_onto]
      · rw [hlead, finish_onto]
        exact .part [b] bs none _ (.stray b bs hstray) ihstart
      · rw [hlead]
        exact ihpending [b] _ _ _ _ ⟨hlead [], howes⟩
    refine ⟨hstart, fun front owed low high bits h => ?_⟩
    by_cases hb : low ≤ b ∧ b ≤ high
    · rw [List.foldl_cons, List.append_cons]
      rcases h.step b hb with ⟨c, hc, hfeed⟩ | ⟨_, _, _, _, hpending, hfeed⟩
      · rw [hfeed, finish_onto, hc]
        exact ihstart.char c
      · rw [hfeed]
        exact ihpending _ _ _ _ _ hpending
    · -- the byte is read again, at the beginning of the next part
      rw [List.foldl_cons, feed_outside owed low high bits [] b hb,
        show lead [none] b = feed (.start, [none]) b from rfl, ← List.foldl_cons, finish_onto]
      exact .part front (b :: bs) none _ (h.cut (b :: bs) fun d hd => by
        rwa [← Option.some.inj hd]) hstart

theorem Opens.shorter {front longer : List UInt8} (h : Opens longer) (hbegins : front <+: longer) :
    Opens front := by
  obtain ⟨c, hc⟩ := h
  exact ⟨c, hbegins.trans hc⟩

theorem Part.nonempty {front rest : List UInt8} {what : Option Char} (h : Part front rest what) :
    front ≠ [] := by
  cases h with
  | char c => exact String.utf8EncodeChar_ne_nil
  | cut front rest c hfront => exact hfront
  | stray b => exact List.cons_ne_nil b []

/-- What a character begins with is no longer than the first part. -/
theorem Part.longest {front rest longer : List UInt8} {what : Option Char}
    (h : Part front rest what) (hbegins : longer <+: front ++ rest) (hopens : Opens longer) :
    longer.length ≤ front.length := by
  by_contra hlong
  obtain ⟨more, rfl⟩ : front <+: longer :=
    List.prefix_of_prefix_length_le (List.prefix_append front rest) hbegins (by omega)
  rw [List.prefix_append_right_inj] at hbegins
  cases more with
  | nil => simp at hlong
  | cons b more =>
    obtain ⟨tail, rfl⟩ := hbegins
    have hnext : Opens (front ++ [b]) := hopens.shorter ⟨more, by simp⟩
    cases h with
    | char c =>
      obtain ⟨d, hd⟩ := hnext
      obtain rfl := encodeChar_apart c d ((List.prefix_append _ _).trans hd)
      have hlength := hd.length_le
      simp at hlength
    | cut front rest c hfront hopens hshort hstop => exact hstop b rfl hnext
    | stray d rest hstray => exact hstray (hnext.shorter (List.prefix_append _ _))

theorem Part.length_le {front rest front' rest' : List UInt8} {what what' : Option Char}
    (h : Part front rest what) (h' : Part front' rest' what')
    (heq : front ++ rest = front' ++ rest') : front'.length ≤ front.length := by
  have hbegins : front' <+: front ++ rest := heq ▸ List.prefix_append front' rest'
  cases h' with
  | char c => exact h.longest hbegins ⟨c, List.prefix_rfl⟩
  | cut _ _ c hfront hopens => exact h.longest hbegins ⟨c, hopens⟩
  | stray b => exact List.length_pos_of_ne_nil h.nonempty

theorem Part.what_iff {front rest : List UInt8} {what : Option Char} (h : Part front rest what)
    (c : Char) : what = some c ↔ front = String.utf8EncodeChar c := by
  cases h with
  | char d =>
    refine ⟨fun h => by rw [Option.some.inj h], fun h => ?_⟩
    rw [encodeChar_apart d c (h ▸ List.prefix_rfl)]
  | cut _ _ d hfront hopens hshort =>
    refine ⟨nofun, fun h => absurd h ?_⟩
    rintro rfl
    obtain rfl := encodeChar_apart c d hopens
    exact hshort rfl
  | stray b _ hstray => exact ⟨nofun, fun h => absurd ⟨c, h ▸ List.prefix_rfl⟩ hstray⟩

theorem Part.same {front rest front' rest' : List UInt8} {what what' : Option Char}
    (h : Part front rest what) (h' : Part front' rest' what')
    (heq : front ++ rest = front' ++ rest') : front = front' ∧ rest = rest' ∧ what = what' := by
  obtain ⟨rfl, rfl⟩ := List.append_inj heq
    (Nat.le_antisymm (h'.length_le h heq.symm) (h.length_le h' heq))
  exact ⟨rfl, rfl, Option.ext fun c => (h.what_iff c).trans (h'.what_iff c).symm⟩

theorem Reads.same {bs : List UInt8} {out out' : Decoded} (h : Reads bs out)
    (h' : Reads bs out') : out = out' := by
  induction h generalizing out' with
  | done =>
    generalize hbs : ([] : List UInt8) = bs at h'
    cases h' with
    | done => rfl
    | part front rest what out hpart =>
      exact absurd (List.append_eq_nil_iff.mp hbs.symm).1 hpart.nonempty
  | part front rest what out hpart hrest ih =>
    generalize hbs : front ++ rest = bs at h'
    cases h' with
    | done => exact absurd (List.append_eq_nil_iff.mp hbs).1 hpart.nonempty
    | part front' rest' what' out' hpart' hrest' =>
      obtain ⟨rfl, rfl, rfl⟩ := hpart.same hpart' hbs
      rw [ih hrest']

/-- The decoder finds the parts, and there is no other way to read them. -/
theorem reads_iff (bs : List UInt8) (out : Decoded) : Reads bs out ↔ out = scan bs := by
  have hscan : Reads bs (scan bs) := (reads_from bs).1
  exact ⟨fun h => h.same hscan, fun h => h ▸ hscan⟩

end Utf8

end MapClient.Text
