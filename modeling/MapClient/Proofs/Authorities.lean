import MapClient.Proofs.HostNames

/-!
# Authorities that are read again

The authority of a web URL is read from its own text, whether a path follows or
not. Blanks behind it do not go unnoticed: they would be the end of a host or a
port, and neither can end so.
-/

set_option autoImplicit false

namespace MapClient.Url

open MapClient.Text

theorem splitUserInfo_append (cs more : List Char) (h : '@' ∉ more) :
    splitUserInfo (cs ++ more) = ((splitUserInfo cs).1, (splitUserInfo cs).2 ++ more) := by
  have hmore : ∀ c ∈ more.reverse, decide (c ≠ '@') = true := by
    intro c hc
    simpa using fun heq : c = '@' => h (heq ▸ List.mem_reverse.mp hc)
  simp only [splitUserInfo, List.reverse_append, List.dropWhile_append_of_pos hmore,
    List.takeWhile_append_of_pos hmore]
  split <;> simp

theorem splitUserInfo_mem (cs : List Char) (c : Char) (h : c ∈ (splitUserInfo cs).2) :
    c ∈ cs := by
  rw [splitUserInfo] at h
  split at h
  · exact h
  · exact List.mem_reverse.mp (List.takeWhile_subset _ (List.mem_reverse.mp h))

def insideAfter (inside : Bool) (c : Char) : Bool :=
  if c = '[' then true else if c = ']' then false else inside

theorem splitPort_colon (inside : Bool) (c : Char) (cs : List Char)
    (h : c = ':' ∧ (!inside) = true) : splitPort inside (c :: cs) = ([], some cs) := by
  rw [splitPort, if_pos h]

theorem splitPort_cons (inside : Bool) (c : Char) (cs : List Char)
    (h : ¬(c = ':' ∧ (!inside) = true)) :
    splitPort inside (c :: cs) = (c :: (splitPort (insideAfter inside c) cs).1,
      (splitPort (insideAfter inside c) cs).2) := by
  rw [splitPort, if_neg h]
  rfl

theorem splitPort_some (inside : Bool) (cs more port : List Char)
    (h : (splitPort inside cs).2 = some port) :
    splitPort inside (cs ++ more) = ((splitPort inside cs).1, some (port ++ more)) := by
  induction cs generalizing inside with
  | nil => cases h
  | cons c cs ih =>
    by_cases hc : c = ':' ∧ (!inside) = true
    · rw [splitPort_colon inside c cs hc] at h ⊢
      obtain rfl := Option.some.inj h
      exact splitPort_colon inside c _ hc
    · rw [splitPort_cons inside c cs hc] at h ⊢
      rw [List.cons_append, splitPort_cons inside c _ hc, ih _ h]

theorem splitPort_none (inside : Bool) (cs more : List Char)
    (hmore : ':' ∉ more) (h : (splitPort inside cs).2 = none) :
    splitPort inside (cs ++ more) = ((splitPort inside cs).1 ++ more, none) := by
  induction cs generalizing inside with
  | nil =>
    show splitPort inside more = (more, none)
    clear h
    induction more generalizing inside with
    | nil => rfl
    | cons c more ih =>
      have hcolon := Ne.symm (List.ne_of_not_mem_cons hmore)
      rw [splitPort_cons inside c more fun hc => hcolon hc.1,
        ih (List.not_mem_of_not_mem_cons hmore) _]
  | cons c cs ih =>
    by_cases hc : c = ':' ∧ (!inside) = true
    · rw [splitPort_colon inside c cs hc] at h
      cases h
    · rw [splitPort_cons inside c cs hc] at h ⊢
      rw [List.cons_append, splitPort_cons inside c _ hc, ih _ h, List.cons_append]

theorem splitPort_mem (inside : Bool) (cs port : List Char)
    (h : (splitPort inside cs).2 = some port) : ∀ c ∈ port, c ∈ cs := by
  induction cs generalizing inside with
  | nil => cases h
  | cons d cs ih =>
    by_cases hd : d = ':' ∧ (!inside) = true
    · rw [splitPort_colon inside d cs hd] at h
      obtain rfl := Option.some.inj h
      exact fun c hc => List.mem_cons_of_mem d hc
    · rw [splitPort_cons inside d cs hd] at h
      exact fun c hc => List.mem_cons_of_mem d (ih _ h c hc)

theorem portDigits_left (port : Nat) (seen : Bool) (cs : List Char) (h : '\\' ∉ cs)
    (read : Option Nat) (left : List Char) (hread : portDigits port seen cs = .ok (read, left)) :
    left = [] := by
  induction cs generalizing port seen with
  | nil => exact (Prod.mk.inj (Except.ok.inj hread)).2.symm
  | cons c cs ih =>
    simp only [portDigits, if_neg (Ne.symm (List.ne_of_not_mem_cons h))] at hread
    split_ifs at hread
    exact ih _ _ (List.not_mem_of_not_mem_cons h) hread

theorem portDigits_blank (port : Nat) (seen : Bool) (cs more : List Char) (c : Char)
    (h : IsBlank c) (hcs : '\\' ∉ cs) :
    ∃ fault, portDigits port seen (cs ++ c :: more) = .error fault := by
  induction cs generalizing port seen with
  | nil =>
    rw [List.nil_append, portDigits, if_neg fun hle => not_le_blank c '0' h (by decide) hle.1,
      if_neg (ne_blank c '\\' h (by decide))]
    exact ⟨_, rfl⟩
  | cons d cs ih =>
    simp only [List.cons_append, portDigits, if_neg (Ne.symm (List.ne_of_not_mem_cons hcs))]
    split_ifs
    · exact ih _ _ (List.not_mem_of_not_mem_cons hcs)
    · exact ⟨_, rfl⟩
    · exact ⟨_, rfl⟩

theorem readHost_web (cs : List Char) (h : cs ≠ []) : readHost .web cs = netHost cs := by
  rw [readHost, if_pos (show SchemeKind.web.isSpecial = true from rfl), if_neg h]

section
variable (scheme text : List Char) (follows : Bool) (authority : Authority) (left : List Char)

/-- What the parts of an authority have to be. -/
theorem readAuthority_iff :
    readAuthority scheme text follows = .ok (authority, left) ↔
      ¬((splitUserInfo text).1 = some [] ∧ (splitUserInfo text).2 = [] ∧ follows = true) ∧
      readHost (SchemeKind.of scheme) (splitPort false (splitUserInfo text).2).1 =
        .ok authority.host ∧
      ¬(authority.host.isEmpty = true ∧
        (splitPort false (splitUserInfo text).2).2.isSome = true) ∧
      (splitPort false (splitUserInfo text).2).2.elim (.ok (none, [])) (readPort scheme) =
        .ok (authority.port, left) ∧
      ¬(authority.host.isEmpty = true ∧ (authority.user ≠ [] ∨ authority.password ≠ [])) ∧
      (authority.user, authority.password) =
        userAndPassword ((splitUserInfo text).1.getD []) := by
  obtain ⟨user, password, host, port⟩ := authority
  unfold readAuthority
  simp only [unless_ok, stages_ok]
  constructor
  · rintro ⟨hinfo, host', hhost, hsome, port', hport, huser, heq⟩
    cases heq
    exact ⟨hinfo, hhost, hsome, hport, huser, rfl⟩
  · rintro ⟨hinfo, hhost, hsome, hport, huser, heq⟩
    obtain ⟨rfl, rfl⟩ := Prod.mk.inj heq
    exact ⟨hinfo, host, hhost, hsome, (port, left), hport, huser, rfl⟩

variable (hkind : SchemeKind.of scheme = .web)
include hkind

/-- That nothing follows makes no difference to an authority that is there. -/
theorem readAuthority_follows
    (h : readAuthority scheme text follows = .ok (authority, left)) :
    readAuthority scheme text true = .ok (authority, left) := by
  rw [readAuthority_iff] at h ⊢
  refine ⟨?_, h.2⟩
  rintro ⟨-, hnone, -⟩
  have hhost := h.2.1
  rw [hnone, hkind] at hhost
  cases hhost

omit hkind in
theorem readAuthority_left (htext : '\\' ∉ text)
    (h : readAuthority scheme text follows = .ok (authority, left)) : left = [] := by
  have hport := ((readAuthority_iff scheme text follows authority left).mp h).2.2.2.1
  cases hsome : (splitPort false (splitUserInfo text).2).2 with
  | none =>
    rw [hsome] at hport
    exact (Prod.mk.inj (Except.ok.inj hport)).2.symm
  | some port =>
    rw [hsome, Option.elim_some, readPort, stages_ok] at hport
    obtain ⟨⟨read, left'⟩, hdigits, heq⟩ := hport
    obtain rfl := (Prod.mk.inj (Except.ok.inj heq)).2
    refine portDigits_left 0 false port (fun hmem => htext ?_) read left' hdigits
    exact splitUserInfo_mem text _ (splitPort_mem false _ port hsome _ hmem)

theorem readAuthority_blank (blanks : List Char) (hblanks : ∀ c ∈ blanks, IsBlank c)
    (hsome : blanks ≠ []) (htext : '\\' ∉ text) :
    ∃ fault, readAuthority scheme (text ++ blanks) follows = .error fault := by
  cases hread : readAuthority scheme (text ++ blanks) follows with
  | error fault => exact ⟨fault, rfl⟩
  | ok read =>
    exfalso
    have hat : '@' ∉ blanks := fun h => ne_blank '@' '@' (hblanks _ h) (by decide) rfl
    have hcolon : ':' ∉ blanks := fun h => ne_blank ':' ':' (hblanks _ h) (by decide) rfl
    obtain ⟨-, hhost, -, hport, -, -⟩ :=
      (readAuthority_iff scheme (text ++ blanks) follows read.1 read.2).mp hread
    rw [splitUserInfo_append text blanks hat] at hhost hport
    cases hsplit : (splitPort false (splitUserInfo text).2).2 with
    | none =>
      rw [splitPort_none false _ blanks hcolon hsplit] at hhost
      obtain ⟨front, c, rfl⟩ : ∃ front c, blanks = front ++ [c] :=
        ⟨_, _, (List.dropLast_append_getLast hsome).symm⟩
      obtain ⟨fault, hfault⟩ := netHost_blank
        ((splitPort false (splitUserInfo text).2).1 ++ front) c (hblanks c (by simp))
      rw [List.append_assoc] at hfault
      rw [hkind, readHost_web _ (by simp), hfault] at hhost
      cases hhost
    | some port =>
      rw [splitPort_some false _ blanks port hsplit] at hport
      obtain ⟨c, more, rfl⟩ := List.exists_cons_of_ne_nil hsome
      have hport' : '\\' ∉ port := fun hmem => htext <|
        splitUserInfo_mem text _ (splitPort_mem false _ port hsplit _ hmem)
      obtain ⟨fault, hfault⟩ := portDigits_blank 0 false port more c
        (hblanks c (by simp)) hport'
      simp only [Option.elim_some, readPort, hfault] at hport
      cases hport

end

end MapClient.Url
