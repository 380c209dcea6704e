import MapClient.Outcome
import MapClient.Proofs.Parts

/-!
# What is shown of a body

A load is shown with its body up to the white space at the end, and without a
line for an empty one. So two loads of one URL and status are shown alike just
if both bodies are empty, or neither is and they are the same up to there.
-/

set_option autoImplicit false

namespace MapClient

namespace Text

/-- The numbers of the characters with the property White_Space. -/
def whiteSpace : List Nat :=
  [0x9, 0xA, 0xB, 0xC, 0xD, 0x20, 0x85, 0xA0, 0x1680, 0x2000, 0x2001, 0x2002, 0x2003, 0x2004,
    0x2005, 0x2006, 0x2007, 0x2008, 0x2009, 0x200A, 0x2028, 0x2029, 0x202F, 0x205F, 0x3000]

theorem isBlank_iff (c : Char) : isBlank c = true ↔ c.toNat ∈ whiteSpace := by
  simp only [isBlank, whiteSpace, Bool.or_eq_true, Bool.and_eq_true, decide_eq_true_eq,
    beq_iff_eq, List.mem_cons, List.not_mem_nil, or_false]
  omega

theorem isBlank_false (c : Char) : isBlank c = false ↔ c.toNat ∉ whiteSpace := by
  rw [← isBlank_iff, Bool.not_eq_true]

/-- The second text is the longest beginning of the first that does not end in
white space, and nothing but white space is left out. -/
structure Trimmed (s t : String) : Prop where
  begins : ∃ back, s.toList = t.toList ++ back ∧ ∀ c ∈ back, c.toNat ∈ whiteSpace
  ends : ∀ c, t.toList.getLast? = some c → c.toNat ∉ whiteSpace
  longest : ∀ front, front <+: s.toList →
    (∀ c, front.getLast? = some c → c.toNat ∉ whiteSpace) → front <+: t.toList

theorem toList_trimEnd (s : String) : (trimEnd s).toList = dropEnd isBlank s.toList := by
  rw [trimEnd, String.toList_ofList]

theorem trimEnd_trimmed (s : String) : Trimmed s (trimEnd s) := by
  constructor
  · obtain ⟨back, hsplit, hback⟩ := dropEnd_split isBlank s.toList
    rw [toList_trimEnd]
    exact ⟨back, hsplit, fun c hc => (isBlank_iff c).mp (hback c hc)⟩
  · intro c hc
    rw [toList_trimEnd] at hc
    exact (isBlank_false c).mp (dropEnd_last hc)
  · intro front hfront hlast
    rw [toList_trimEnd]
    exact dropEnd_longest hfront fun c hc => (isBlank_false c).mpr (hlast c hc)

/-- Each of two trimmed texts is a beginning of the other, as both are longest. -/
theorem Trimmed.unique {s t t' : String} (h : Trimmed s t) (h' : Trimmed s t') : t = t' := by
  have hbegins {t : String} (h : Trimmed s t) : t.toList <+: s.toList := by
    obtain ⟨back, hsplit, -⟩ := h.begins
    exact ⟨back, hsplit.symm⟩
  have hforth : t.toList <+: t'.toList := h'.longest _ (hbegins h) h.ends
  have hback : t'.toList <+: t.toList := h.longest _ (hbegins h') h'.ends
  exact String.toList_inj.mp (hforth.eq_of_length_le hback.length_le)

theorem trimEnd_eq_iff (s s' : String) :
    trimEnd s = trimEnd s' ↔ ∃ t, Trimmed s t ∧ Trimmed s' t := by
  constructor
  · intro h
    refine ⟨trimEnd s, trimEnd_trimmed s, ?_⟩
    rw [h]
    exact trimEnd_trimmed s'
  · rintro ⟨t, ht, ht'⟩
    rw [(trimEnd_trimmed s).unique ht, (trimEnd_trimmed s').unique ht']

end Text

namespace Outcome

open MapClient.Text

theorem bodyLine_empty : bodyLine "" = "" := rfl

theorem bodyLine_nonempty (body : String) (h : body ≠ "") :
    bodyLine body = "\n" ++ trimEnd body := by
  rw [bodyLine, if_neg]
  simpa using h

theorem lineBreak_append_ne (s : String) : "\n" ++ s ≠ "" := by
  intro h
  simpa using congrArg String.toList h

/-- An empty body is told from every other, and others by what is left of them. -/
theorem bodyLine_eq_iff (b b' : String) :
    bodyLine b = bodyLine b' ↔
      b = "" ∧ b' = "" ∨ b ≠ "" ∧ b' ≠ "" ∧ trimEnd b = trimEnd b' := by
  by_cases h : b = "" <;> by_cases h' : b' = ""
  · simp [h, h']
  · have hne := lineBreak_append_ne (trimEnd b')
    simp [h, h', bodyLine_empty, bodyLine_nonempty, hne.symm]
  · have hne := lineBreak_append_ne (trimEnd b)
    simp [h, h', bodyLine_empty, bodyLine_nonempty, hne]
  · simp [h, h', bodyLine_nonempty]

/-- Loads of one URL and status are shown alike just if both bodies are empty, or
neither is and they are the same up to the white space at the end. Shown are the
URL and the status and, unless the body is empty, a line break and the longest
beginning of the body that does not end in white space, of which there is one. -/
theorem load_shown (url : String) (status : Http.Status) (b b' : String)
    (dispatchedAt completedAt dispatchedAt' completedAt' : Instant) :
    let shown := display ⟨url, .load status b, dispatchedAt, completedAt⟩
    let shown' := display ⟨url, .load status b', dispatchedAt', completedAt'⟩
    (shown = shown' ↔
      b = "" ∧ b' = "" ∨ b ≠ "" ∧ b' ≠ "" ∧ ∃ text, Trimmed b text ∧ Trimmed b' text) ∧
    ∃ text, Trimmed b text ∧ (∀ other, Trimmed b other → other = text) ∧
      shown = "load: " ++ url ++ " " ++ status.render ++ (if b = "" then "" else "\n" ++ text) := by
  intro shown shown'
  have hshown : shown = "load: " ++ url ++ " " ++ status.render ++ bodyLine b := rfl
  have hshown' : shown' = "load: " ++ url ++ " " ++ status.render ++ bodyLine b' := rfl
  constructor
  · rw [hshown, hshown', String.append_right_inj, bodyLine_eq_iff, trimEnd_eq_iff]
  · refine ⟨trimEnd b, trimEnd_trimmed b, fun other h => h.unique (trimEnd_trimmed b), ?_⟩
    rw [hshown]
    by_cases h : b = ""
    · rw [if_pos h, h, bodyLine_empty]
    · rw [if_neg h, bodyLine_nonempty b h]

example : bodyLine "" = "" ∧ bodyLine " \u2003\r\n" = "\n" ∧
    bodyLine "\n a\u200b\u3000\n" = "\n\n a\u200b" := by
  decide

end Outcome

end MapClient
