import MapClient.Proofs.HostNames
import MapClient.Url.Target
import Mathlib.Tactic.SplitIfs

/-!
# Which web URLs a request can name

A host that was read is written with characters that a request can name, but
for four that host names hold and requests do not. User and password come
encoded, and brackets and colons stand where a host of numbers and a port have
them. So besides those four characters only the length decides.
-/

set_option autoImplicit false

namespace MapClient.Url

open MapClient.Text

structure Went (a : AuthorityScan) (cs : List Char) (b : AuthorityScan) : Prop where
  run : cs.foldlM AuthorityScan.step a = some b
  colons : b.colons = a.colons + cs.count ':'
  opened : b.opened = a.opened
  closed : b.closed = a.closed
  percent : '%' ∉ cs → b.percent = a.percent
  atEnd : cs ≠ [] → b.atEnd = false

theorem inAuthority_eq (c : Char) : inAuthority c =
    ((('a' ≤ c && c ≤ 'z') || ('A' ≤ c && c ≤ 'Z') || ('0' ≤ c && c ≤ '9'))
      || decide (c ∈ "!$&'()*+,-.;=_~".toList)) := by
  rw [inAuthority, String.contains_char_eq]

theorem outside_authority : inAuthority ':' = false ∧ inAuthority '[' = false ∧
    inAuthority ']' = false ∧ inAuthority '@' = false ∧ inAuthority '%' = false := by
  simp only [inAuthority_eq]
  decide

theorem outside_not_mem {cs : List Char} {c : Char} (hc : inAuthority c = false)
    (h : ∀ d ∈ cs, inAuthority d = true) : c ∉ cs := by
  intro hmem
  rw [h c hmem] at hc
  cases hc

theorem step_plain (a : AuthorityScan) (c : Char) (h : inAuthority c = true) :
    a.step c = some { a with atEnd := false } := by
  have hne : ∀ d, inAuthority d = false → c ≠ d := by
    rintro d hd rfl
    rw [h] at hd
    cases hd
  obtain ⟨hcolon, hopen, hclose, hat, hpercent⟩ := outside_authority
  simp [AuthorityScan.step, hne _ hcolon, hne _ hopen, hne _ hclose, hne _ hat,
    hne _ hpercent, h]

theorem step_went (a : AuthorityScan) (c : Char)
    (h : inAuthority c = true ∨ c = '%' ∨ c = ':') (hcolons : a.colons + [c].count ':' ≤ 8) :
    ∃ b, Went a [c] b := by
  rcases h with h | rfl | rfl
  · have hcolon : c ≠ ':' := by
      rintro rfl
      rw [outside_authority.1] at h
      cases h
    refine ⟨{ a with atEnd := false }, ?_, by simp [hcolon], rfl, rfl, fun _ => rfl, fun _ => rfl⟩
    rw [List.foldlM_cons, step_plain a c h]
    rfl
  · exact ⟨{ a with percent := true, atEnd := false }, rfl, rfl, rfl, rfl,
      fun h => absurd List.mem_cons_self h, fun _ => rfl⟩
  · have hroom : a.colons < 8 := by
      rw [List.count_singleton_self] at hcolons
      omega
    refine ⟨{ a with colons := a.colons + 1, atEnd := false }, ?_, rfl, rfl, rfl, fun _ => rfl,
      fun _ => rfl⟩
    simp only [List.foldlM_cons, AuthorityScan.step, if_true, if_pos hroom]
    rfl

theorem Went.trans {a b d : AuthorityScan} {cs more : List Char} (h : Went a cs b)
    (h' : Went b more d) : Went a (cs ++ more) d where
  run := by rw [List.foldlM_append, h.run]; exact h'.run
  colons := by rw [h'.colons, h.colons, List.count_append, Nat.add_assoc]
  opened := h'.opened.trans h.opened
  closed := h'.closed.trans h.closed
  percent hp := by
    rw [List.mem_append, not_or] at hp
    exact (h'.percent hp.2).trans (h.percent hp.1)
  atEnd hsome := by
    by_cases hmore : more = []
    · subst hmore
      obtain rfl := Option.some.inj h'.run
      exact h.atEnd (by simpa using hsome)
    · exact h'.atEnd hmore

/-- Nothing but too many colons stops a scan between brackets. -/
theorem went (a : AuthorityScan) (cs : List Char)
    (h : ∀ c ∈ cs, inAuthority c = true ∨ c = '%' ∨ c = ':')
    (hcolons : a.colons + cs.count ':' ≤ 8) : ∃ b, Went a cs b := by
  induction cs generalizing a with
  | nil => exact ⟨a, rfl, rfl, rfl, rfl, fun _ => rfl, fun h => absurd rfl h⟩
  | cons c cs ih =>
    rw [← List.singleton_append, List.count_append] at hcolons
    obtain ⟨b, hb⟩ := step_went a c (h c List.mem_cons_self) (by omega)
    have hroom : b.colons + cs.count ':' ≤ 8 := by rw [hb.colons]; omega
    obtain ⟨d, hd⟩ := ih b (fun e he => h e (List.mem_cons_of_mem c he)) hroom
    exact ⟨d, hb.trans hd⟩

theorem scan_stopped (c : Char) (hstep : ∀ a : AuthorityScan, a.step c = none) (cs : List Char)
    (hc : c ∈ cs) (a : AuthorityScan) : cs.foldlM AuthorityScan.step a = none := by
  induction cs generalizing a with
  | nil => cases hc
  | cons d cs ih =>
    rw [List.foldlM_cons]
    rcases List.mem_cons.mp hc with rfl | hc
    · rw [hstep]
      rfl
    · cases a.step d with
      | none => rfl
      | some b => exact ih hc b

theorem inAuthority_digit (c : Char) (h : c.isDigit = true) : inAuthority c = true := by
  have hdigit : '0' ≤ c ∧ c ≤ '9' := by
    simpa [Char.isDigit, Char.le_def] using h
  simp [inAuthority_eq, hdigit]

theorem repr_digits (n : Nat) : ∀ c ∈ (Nat.repr n).toList, inAuthority c = true := by
  intro c hc
  rw [Nat.toList_repr] at hc
  exact inAuthority_digit c (Nat.isDigit_of_mem_toDigits (by decide) (by decide) hc)

theorem hexDigit_plain (n : Nat) (h : n < 16) : inAuthority (Quoted.hexDigit n) = true := by
  have hall : ∀ n < 16, inAuthority (Quoted.hexDigit n) = true := by
    simp only [inAuthority_eq]
    decide
  exact hall n h

theorem hexDigits_plain (n : Nat) : ∀ c ∈ Quoted.hexDigits n, inAuthority c = true := by
  fun_induction Quoted.hexDigits n with
  | case1 n hlt => simpa using hexDigit_plain n hlt
  | case2 n hge ih =>
    intro c hc
    rcases List.mem_append.mp hc with hc | hc
    · exact ih c hc
    · rw [List.mem_singleton.mp hc]
      exact hexDigit_plain _ (Nat.mod_lt n (by decide))

theorem upperHex_plain (n : Nat) (h : n < 16) : inAuthority (upperHex n) = true := by
  have hall : ∀ n < 16, inAuthority (upperHex n) = true := by
    simp only [inAuthority_eq]
    decide
  exact hall n h

theorem encode_mem (set : EncodeSet) (cs : List Char) (c : Char) (h : c ∈ encode set cs) :
    (c = '%' ∨ ∃ n < 16, c = upperHex n) ∨ (c ∈ cs ∧ set c = false) := by
  obtain ⟨d, hd, hc⟩ := List.mem_flatMap.mp h
  rw [encodeChar] at hc
  split at hc
  · obtain ⟨b, -, hb⟩ := List.mem_flatMap.mp hc
    have hlow := UInt8.toNat_lt b
    simp only [percentByte, List.mem_cons, List.not_mem_nil, or_false] at hb
    rcases hb with rfl | rfl | rfl
    · exact .inl (.inl rfl)
    · exact .inl (.inr ⟨_, by omega, rfl⟩)
    · exact .inl (.inr ⟨_, by omega, rfl⟩)
  · rename_i hset
    obtain rfl := List.mem_singleton.mp hc
    exact .inr ⟨hd, by simpa using hset⟩

theorem encode_userInfo (cs : List Char) :
    ∀ c ∈ encode inUserInfo cs, inAuthority c = true ∨ c = '%' := by
  have hplain : ∀ c : Char, c.toNat < 0x80 → inUserInfo c = false →
      inAuthority c = true ∨ c = '%' := by
    refine char_below _ ?_
    simp only [inAuthority_eq]
    decide +kernel
  intro c hc
  rcases encode_mem inUserInfo cs c hc with (rfl | ⟨n, hn, rfl⟩) | ⟨-, hset⟩
  · exact .inr rfl
  · exact .inl (upperHex_plain n hn)
  · have hlow : c.toNat ≤ 0x7E := by
      by_contra hhigh
      rw [show inUserInfo c = true by
        simp [inUserInfo, inPath, inFragment, inControls, Nat.not_le.mp hhigh]] at hset
      cases hset
    exact hplain c (by omega) hset

namespace Ipv6

theorem close_length (g : Groups) (ns : List Nat) (h : g.close = some ns) : ns.length = 8 := by
  unfold Groups.close at h
  dsimp only at h
  split at h
  · split at h
    · obtain rfl := Option.some.inj h
      assumption
    · cases h
  · rename_i k _
    split at h
    · obtain rfl := Option.some.inj h
      simp only [List.length_append, List.length_take, List.length_replicate, List.length_drop]
      omega
    · cases h

theorem groups?_length (g : Groups) (cs : List Char) (ns : List Nat) (h : groups? g cs = some ns) :
    ns.length = 8 := by
  -- every way to the end of the groups closes them, and closing counts them
  fun_induction groups? g cs with
  | case1 g => exact close_length g ns h
  | case4 _ _ _ _ ih => exact ih h
  | case5 _ _ _ _ _ _ _ _ _ ih => exact ih h
  | case6 g c cs _ _ digits rs _ _ _ =>
    obtain ⟨tail, -, hclose⟩ := Option.bind_eq_some_iff.mp h
    exact close_length _ ns hclose
  | case8 _ _ _ _ _ _ _ _ _ _ _ _ _ ih => exact ih h
  | case2 => cases h
  | case3 => cases h
  | case7 => cases h
  | case9 => cases h

theorem parse?_length (cs : List Char) (ns : List Nat) (h : parse? cs = some ns) :
    ns.length = 8 := by
  unfold parse? at h
  split at h
  · exact groups?_length _ _ ns h
  · cases h
  · exact groups?_length _ _ ns h

/-- The first longest gap so far, the place of the next number, and the zeros
just before it. -/
abbrev GapState := (Nat × Nat) × Nat × Nat

def gapStep (state : GapState) (n : Nat) : GapState :=
  let ((start, best), i, run) := state
  if n = 0 then
    (if best < run + 1 then (i - run, run + 1) else (start, best), i + 1, run + 1)
  else ((start, best), i + 1, 0)

structure GapWithin (state : GapState) (n : Nat) : Prop where
  count : state.2.1 = n
  run : state.2.2 ≤ n
  gap : state.1.1 + state.1.2 ≤ n

theorem gapStep_within (state : GapState) (n number : Nat) (h : GapWithin state n) :
    GapWithin (gapStep state number) (n + 1) := by
  obtain ⟨⟨start, best⟩, i, run⟩ := state
  obtain ⟨hcount, hrun, hgap⟩ := h
  dsimp only at hcount hrun hgap
  unfold gapStep
  dsimp only
  split_ifs <;> constructor <;> dsimp only <;> omega

theorem gaps_within (ns : List Nat) (state : GapState) (n : Nat) (h : GapWithin state n) :
    GapWithin (ns.foldl gapStep state) (n + ns.length) := by
  induction ns generalizing state n with
  | nil => exact h
  | cons number ns ih =>
    have hstep := ih (gapStep state number) (n + 1) (gapStep_within state n number h)
    rwa [Nat.add_assoc, Nat.add_comm 1] at hstep

theorem longestGap_within (ns : List Nat) : (longestGap ns).1 + (longestGap ns).2 ≤ ns.length := by
  have h := (gaps_within ns ((0, 0), 0, 0) 0 ⟨rfl, Nat.le_refl _, Nat.le_refl _⟩).gap
  rwa [Nat.zero_add] at h

theorem joinColons_chars (ns : List Nat) :
    ∀ c ∈ joinColons ns, inAuthority c = true ∨ c = '%' ∨ c = ':' := by
  fun_induction joinColons ns with
  | case1 => simp
  | case2 n => exact fun c hc => .inl (hexDigits_plain n c hc)
  | case3 n ns _ ih =>
    intro c hc
    rcases List.mem_append.mp hc with hc | hc
    · exact .inl (hexDigits_plain n c hc)
    · rcases List.mem_cons.mp hc with rfl | hc
      · exact .inr (.inr rfl)
      · exact ih c hc

theorem joinColons_colons (ns : List Nat) : (joinColons ns).count ':' ≤ ns.length := by
  have hdigits : ∀ n, (Quoted.hexDigits n).count ':' = 0 := fun n =>
    List.count_eq_zero.mpr (outside_not_mem outside_authority.1 (hexDigits_plain n))
  fun_induction joinColons ns with
  | case1 => simp
  | case2 n => simp [hdigits]
  | case3 n ns _ ih =>
    rw [List.count_append, hdigits, List.count_cons_self, List.length_cons]
    omega

theorem render_chars (ns : List Nat) :
    ∀ c ∈ render ns, inAuthority c = true ∨ c = '%' ∨ c = ':' := by
  intro c hc
  unfold render at hc
  dsimp only at hc
  split at hc
  · simp only [List.mem_append, List.mem_cons, List.not_mem_nil, or_false, or_self] at hc
    rcases hc with (hc | rfl) | hc
    · exact joinColons_chars _ c hc
    · exact .inr (.inr rfl)
    · exact joinColons_chars _ c hc
  · exact joinColons_chars ns c hc

/-- The gap is at least as long as the colons that mark it. -/
theorem render_colons (ns : List Nat) : (render ns).count ':' ≤ ns.length := by
  have hwithin := longestGap_within ns
  unfold render
  dsimp only
  split
  · have hfront := joinColons_colons (ns.take (longestGap ns).1)
    have hback := joinColons_colons (ns.drop ((longestGap ns).1 + (longestGap ns).2))
    rw [List.length_take] at hfront
    rw [List.length_drop] at hback
    simp only [List.count_append, show [':', ':'].count ':' = 2 from rfl]
    omega
  · exact joinColons_colons ns

end Ipv6

theorem ipv4_plain (address : Nat) : ∀ c ∈ Ipv4.render address, inAuthority c = true := by
  have hdot : inAuthority '.' = true := by
    rw [inAuthority_eq]
    decide
  intro c hc
  simp only [Ipv4.render, List.mem_append, List.mem_cons] at hc
  rcases hc with ((hc | rfl | hc) | rfl | hc) | rfl | hc
  all_goals first | exact repr_digits _ c hc | exact hdot

def onlyInNames (c : Char) : Bool := c == '\x22' || c == '\x60' || c == '\x7b' || c == '\x7d'

def Host.isNameable : Host → Bool
  | .name text => text.all fun c => !onlyInNames c
  | .ipv4 _ => true
  | .ipv6 _ => true

def Host.Sound : Host → Prop
  | .name text =>
    text ≠ [] ∧ ∀ c ∈ text, Domain.Punycode.isPlain c = true ∧ Domain.refusedInName c = false
  | .ipv4 _ => True
  | .ipv6 numbers => numbers.length = 8

theorem bracketed?_sound (cs : List Char) (host : Host) (h : bracketed? cs = some (.ok host)) :
    host.Sound := by
  unfold bracketed? at h
  split at h
  · rename_i cs
    split at h
    · cases hparse : Ipv6.parse? cs.dropLast with
      | none => rw [hparse] at h; cases h
      | some ns =>
        rw [hparse] at h
        obtain rfl := Except.ok.inj (Option.some.inj h)
        exact Ipv6.parse?_length _ ns hparse
    · cases h
  · cases h

theorem netHost_sound (cs : List Char) (host : Host) (h : netHost cs = .ok host) :
    host.Sound := by
  rw [netHost] at h
  cases hbracket : bracketed? cs with
  | some result =>
    rw [hbracket] at h
    exact bracketed?_sound cs host (hbracket.trans (congrArg some h))
  | none =>
    rw [hbracket, Option.getD_none] at h
    split at h
    · cases h
    · cases h
    · rename_i name hsome hname
      split at h
      · cases haddress : Ipv4.parse? name with
        | none => rw [haddress] at h; cases h
        | some address =>
          rw [haddress] at h
          obtain rfl := Except.ok.inj h
          trivial
      · obtain rfl := Except.ok.inj h
        obtain ⟨text, -, hascii⟩ := Option.bind_eq_some_iff.mp hname
        exact ⟨fun hnone => hsome hnone, Domain.toAscii?_chars text name hascii⟩

/-- Four characters make the difference between names and requests. -/
theorem name_nameable (c : Char) (hplain : Domain.Punycode.isPlain c = true)
    (hrefused : Domain.refusedInName c = false) : inAuthority c = !onlyInNames c := by
  have hall : ∀ c : Char, c.toNat < 0x80 → Domain.refusedInName c = false →
      inAuthority c = !onlyInNames c := by
    refine char_below _ ?_
    simp only [Domain.refusedInName, String.contains_char_eq, inAuthority_eq]
    decide
  exact hall c (by simpa [Domain.Punycode.isPlain] using hplain) hrefused

theorem host_nonempty (host : Host) (h : host.Sound) : host.isEmpty = false := by
  cases host with
  | name text => simpa [Host.isEmpty] using h.1
  | ipv4 address => rfl
  | ipv6 numbers => rfl

structure Ready (a : AuthorityScan) : Prop where
  colons : a.colons = 0
  percent : a.percent = false
  opened : a.opened = false
  closed : a.closed = false

structure Hosted (a : AuthorityScan) : Prop where
  colons : a.colons = 0
  percent : a.percent = false
  closed : a.opened = a.closed
  atEnd : a.atEnd = false

theorem scan_plain (a : AuthorityScan) (cs : List Char) (ha : Ready a) (hsome : cs ≠ [])
    (h : ∀ c ∈ cs, inAuthority c = true) :
    ∃ b, cs.foldlM AuthorityScan.step a = some b ∧ Hosted b := by
  obtain ⟨hcolon, -, -, -, hpercent⟩ := outside_authority
  have hcolons : cs.count ':' = 0 := List.count_eq_zero.mpr (outside_not_mem hcolon h)
  obtain ⟨b, hb⟩ := went a cs (fun c hc => .inl (h c hc)) (by rw [ha.colons, hcolons]; decide)
  refine ⟨b, hb.run, ?_, ?_, ?_, hb.atEnd hsome⟩
  · rw [hb.colons, ha.colons, hcolons]
  · rw [hb.percent (outside_not_mem hpercent h), ha.percent]
  · rw [hb.opened, hb.closed, ha.opened, ha.closed]

theorem step_open (a : AuthorityScan) (ha : Ready a) :
    a.step '[' = some { a with opened := true, atEnd := false } := by
  simp [AuthorityScan.step, ha.percent, ha.opened]

theorem step_close (a : AuthorityScan) (hopened : a.opened = true) (hclosed : a.closed = false) :
    a.step ']' = some { a with closed := true, colons := 0, percent := false, atEnd := false } := by
  simp [AuthorityScan.step, hopened, hclosed]

theorem scan_bracketed (a : AuthorityScan) (numbers : List Nat) (ha : Ready a)
    (h : numbers.length = 8) :
    ∃ b, (Host.ipv6 numbers).render.foldlM AuthorityScan.step a = some b ∧ Hosted b := by
  have hcolons := Ipv6.render_colons numbers
  obtain ⟨b, hb⟩ := went { a with opened := true, atEnd := false } (Ipv6.render numbers)
    (Ipv6.render_chars numbers) (by rw [ha.colons]; omega)
  refine ⟨{ b with closed := true, colons := 0, percent := false, atEnd := false }, ?_, rfl, rfl,
    hb.opened, rfl⟩
  rw [Host.render, List.cons_append, List.foldlM_cons, step_open a ha]
  show (Ipv6.render numbers ++ [']']).foldlM AuthorityScan.step _ = _
  rw [List.foldlM_append, hb.run]
  show [']'].foldlM AuthorityScan.step b = _
  rw [List.foldlM_cons, step_close b hb.opened (hb.closed.trans ha.closed)]
  rfl

theorem scan_host (a : AuthorityScan) (host : Host) (ha : Ready a) (h : host.Sound)
    (hname : host.isNameable = true) :
    ∃ b, host.render.foldlM AuthorityScan.step a = some b ∧ Hosted b := by
  cases host with
  | name text =>
    refine scan_plain a text ha h.1 fun c hc => ?_
    rw [name_nameable c (h.2 c hc).1 (h.2 c hc).2]
    exact List.all_eq_true.mp hname c hc
  | ipv4 address =>
    exact scan_plain a _ ha (by simp [Host.render, Ipv4.render]) (ipv4_plain address)
  | ipv6 numbers => exact scan_bracketed a numbers ha h

def Authority.Encoded (a : Authority) : Prop :=
  (∀ c ∈ a.user, inAuthority c = true ∨ c = '%') ∧
    ∀ c ∈ a.password, inAuthority c = true ∨ c = '%'

theorem scan_userInfo (a : Authority) (h : a.Encoded) :
    ∃ b, a.renderUserInfo.foldlM AuthorityScan.step .start = some b ∧ Ready b := by
  unfold Authority.renderUserInfo
  split
  · exact ⟨.start, rfl, rfl, rfl, rfl, rfl⟩
  · have hcolon : ∀ cs : List Char, (∀ c ∈ cs, inAuthority c = true ∨ c = '%') →
        cs.count ':' = 0 := by
      intro cs hcs
      refine List.count_eq_zero.mpr fun hmem => ?_
      rcases hcs ':' hmem with hc | hc
      · rw [outside_authority.1] at hc
        cases hc
      · exact absurd hc (by decide)
    generalize hinfo : a.user ++ (if a.password = [] then [] else ':' :: a.password) = info
    have hchars : ∀ c ∈ info, inAuthority c = true ∨ c = '%' ∨ c = ':' := by
      intro c hc
      rw [← hinfo, List.mem_append] at hc
      rcases hc with hc | hc
      · exact (h.1 c hc).imp_right .inl
      · split at hc
        · cases hc
        · rcases List.mem_cons.mp hc with rfl | hc
          · exact .inr (.inr rfl)
          · exact (h.2 c hc).imp_right .inl
    have hcount : info.count ':' ≤ 1 := by
      rw [← hinfo, List.count_append, hcolon _ h.1]
      split
      · simp
      · rw [List.count_cons_self, hcolon _ h.2]
    obtain ⟨b, hb⟩ := went .start info hchars (by
      show 0 + info.count ':' ≤ 8
      omega)
    refine ⟨{ b with colons := 0, percent := false, atEnd := true }, ?_, rfl, rfl, hb.opened,
      hb.closed⟩
    rw [List.foldlM_append, hb.run]
    rfl

theorem scan_port (a : AuthorityScan) (port : Option Nat) (ha : Hosted a) :
    ∃ b, (port.elim [] fun p => ':' :: (Nat.repr p).toList).foldlM AuthorityScan.step a = some b ∧
      b.accepts = true := by
  cases port with
  | none =>
    exact ⟨a, rfl, by simp [AuthorityScan.accepts, ha.colons, ha.percent, ha.closed, ha.atEnd]⟩
  | some p =>
    have hdigits := repr_digits p
    obtain ⟨hcolon, -, -, -, hpercent⟩ := outside_authority
    have hcolons : (':' :: (Nat.repr p).toList).count ':' = 1 := by
      rw [List.count_cons_self, List.count_eq_zero.mpr (outside_not_mem hcolon hdigits)]
    obtain ⟨b, hb⟩ := went a (':' :: (Nat.repr p).toList) (fun c hc => by
      rcases List.mem_cons.mp hc with rfl | hc
      · exact .inr (.inr rfl)
      · exact .inl (hdigits c hc)) (by rw [hcolons, ha.colons]; decide)
    have hpercent := hb.percent fun hmem =>
      (List.mem_cons.mp hmem).elim (by decide) (outside_not_mem hpercent hdigits)
    have hone : b.colons = 1 := by rw [hb.colons, ha.colons, hcolons]
    refine ⟨b, hb.run, ?_⟩
    simp [AuthorityScan.accepts, hone, hb.opened, hb.closed, ha.closed, hpercent, ha.percent,
      hb.atEnd (List.cons_ne_nil _ _)]

theorem not_nameable (host : Host) (h : host.isNameable = false) :
    ∃ c ∈ host.render, onlyInNames c = true := by
  cases host with
  | name text =>
    obtain ⟨c, hc, honly⟩ := List.all_eq_false.mp h
    exact ⟨c, hc, by simpa using honly⟩
  | ipv4 address => cases h
  | ipv6 numbers => cases h

theorem step_onlyInNames (c : Char) (h : onlyInNames c = true) (a : AuthorityScan) :
    a.step c = none := by
  have hplain : inAuthority c = false := by
    simp only [onlyInNames, Bool.or_eq_true, beq_iff_eq] at h
    rw [inAuthority_eq]
    rcases h with ((rfl | rfl) | rfl) | rfl <;> decide
  have hmarks : c ≠ ':' ∧ c ≠ '[' ∧ c ≠ ']' ∧ c ≠ '@' ∧ c ≠ '%' := by
    simp only [onlyInNames, Bool.or_eq_true, beq_iff_eq] at h
    rcases h with ((rfl | rfl) | rfl) | rfl <;> decide
  simp [AuthorityScan.step, hplain, hmarks]

/-- An authority that was read can be named if its host can. -/
theorem authority_accepted (a : Authority) (hinfo : a.Encoded) (hhost : a.host.Sound) :
    authorityAccepted (a.renderUserInfo ++ a.renderHostPort) = a.host.isNameable := by
  cases hname : a.host.isNameable with
  | true =>
    obtain ⟨b, hb, hready⟩ := scan_userInfo a hinfo
    obtain ⟨d, hd, hhosted⟩ := scan_host b a.host hready hhost hname
    obtain ⟨e, he, haccepts⟩ := scan_port d a.port hhosted
    rw [authorityAccepted, Authority.renderHostPort, List.foldlM_append, hb]
    show ((a.host.render ++ _).foldlM AuthorityScan.step b).any _ = _
    rw [List.foldlM_append, hd]
    show (List.foldlM AuthorityScan.step d _).any _ = _
    rw [he]
    exact haccepts
  | false =>
    obtain ⟨c, hmem, hc⟩ := not_nameable a.host hname
    have hin : c ∈ a.renderUserInfo ++ a.renderHostPort :=
      List.mem_append_right _ (List.mem_append_left _ hmem)
    rw [authorityAccepted, scan_stopped c (step_onlyInNames c hc) _ hin]
    rfl

end MapClient.Url
