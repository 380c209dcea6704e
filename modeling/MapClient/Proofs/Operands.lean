import MapClient.CommandLine.Arguments
import MapClient.Proofs.Parts
import Mathlib.Tactic.SplitIfs

/-!
# The operands of a command

Whatever flags stand among them, the operands of a command are arguments that
follow its name, in their order, and each is taken as the text that it is.
-/

set_option autoImplicit false

namespace MapClient.CommandLine

open MapClient.Text

namespace Read

def lastOperand (r : Read) : List Argument :=
  match r.pending with
  | some (.operand a) => [a]
  | _ => []

def met (r : Read) : List (Option String) :=
  r.operands.map some ++ r.lastOperand.map ofUtf8?

theorem text_ok (a : Argument) (s : String) (h : text a = .ok s) : ofUtf8? a = some s := by
  rw [text] at h
  cases ha : ofUtf8? a with
  | none =>
    rw [ha] at h
    cases h
  | some t =>
    rw [ha] at h
    rw [Except.ok.inj h]

theorem give_ok (r r' : Read) (f : Flag) (a : Argument) (h : r.give f a = .ok r') :
    r'.operands = r.operands ∧ r'.pending = r.pending := by
  cases f with
  | baseUrl =>
    rw [give] at h
    split_ifs at h
    obtain ⟨s, -, rfl⟩ := (map_ok _ _ _).mp h
    exact ⟨rfl, rfl⟩
  | config =>
    rw [give] at h
    split_ifs at h
    obtain rfl := Except.ok.inj h
    exact ⟨rfl, rfl⟩

/-- When an operand takes effect, nothing is pending any more and it is one of
the operands. -/
theorem settle_ok (r r' : Read) (h : r.settle = .ok r') :
    r'.operands.map some = r.met ∧ r'.pending = none := by
  cases hp : r.pending with
  | none =>
    simp only [settle, hp] at h
    obtain rfl := Except.ok.inj h
    exact ⟨by simp [met, lastOperand, hp], rfl⟩
  | some p =>
    cases p with
    | operand a =>
      simp only [settle, hp] at h
      obtain ⟨s, htext, rfl⟩ := (map_ok _ _ _).mp h
      exact ⟨by simp [met, lastOperand, hp, text_ok a s htext], rfl⟩
    | flag f value =>
      cases value with
      | none =>
        simp only [settle, hp] at h
        cases h
      | some a =>
        simp only [settle, hp] at h
        obtain ⟨hops, hnone⟩ := give_ok _ r' f a h
        exact ⟨by simp [met, lastOperand, hp, hops], hnone⟩

theorem met_settled (r : Read) (h : r.pending = none) : r.met = r.operands.map some := by
  simp [met, lastOperand, h]

theorem settle_met (r r' : Read) (h : r.settle = .ok r') : r'.met = r.met := by
  obtain ⟨hops, hnone⟩ := settle_ok r r' h
  rw [met_settled r' hnone, hops]

end Read

theorem readLong_met (topic : Topic) (r r' : Read) (name : Argument) (value : Option Argument)
    (h : readLong topic r name value = .ok r') : r'.met = r.met := by
  unfold readLong at h
  cases hf : [Flag.baseUrl, Flag.config].find? fun f => utf8 f.name == name with
  | none =>
    rw [hf] at h
    cases hw : word topic name with
    | none =>
      rw [hw] at h
      cases value <;> cases h
    | some stop =>
      rw [hw] at h
      cases value with
      | some a => cases h
      | none =>
        obtain ⟨settled, -, hnever⟩ := (stages_ok r.settle _ _).mp h
        cases hnever
  | some f =>
    rw [hf] at h
    obtain ⟨between, hs, hgive⟩ := (stages_ok _ _ _).mp h
    obtain ⟨hops, hnone⟩ := Read.settle_ok r between hs
    rw [← Read.settle_met r between hs, Read.met_settled between hnone]
    cases value with
    | none =>
      obtain rfl := Except.ok.inj hgive
      simp [Read.met, Read.lastOperand]
    | some a =>
      obtain ⟨hsame, hpending⟩ := Read.give_ok between r' f a hgive
      rw [Read.met_settled r' (hpending.trans hnone), hsame]

theorem readFlag_met (topic : Topic) (r r' : Read) (a : Argument)
    (h : readFlag topic r a = .ok (some r')) : r'.met = r.met := by
  rw [readFlag] at h
  split_ifs at h
  · cases h
  · cases hshape : Shape.of a with
    | dashes =>
      rw [hshape] at h
      obtain rfl := Option.some.inj (Except.ok.inj h)
      rfl
    | long name value =>
      rw [hshape] at h
      obtain ⟨between, hlong, hsome⟩ := (map_ok _ _ _).mp h
      obtain rfl := Option.some.inj hsome
      exact readLong_met topic r between name value hlong
    | short letters =>
      rw [hshape] at h
      cases h
    | plain =>
      rw [hshape] at h
      obtain ⟨f, hwait, rfl⟩ := Option.map_eq_some_iff.mp (Except.ok.inj h)
      have hflag : r.pending = some (.flag f none) := by
        rw [Read.waiting?] at hwait
        split at hwait
        · next f' hp => rw [hp, Option.some.inj hwait]
        · cases hwait
      simp [Read.met, Read.lastOperand, hflag]

theorem readOperand_met (v : Verb) (r r' : Read) (a : Argument)
    (h : readOperand v r a = .ok r') : r'.met = r.met ++ [ofUtf8? a] := by
  rw [readOperand] at h
  split_ifs at h
  obtain ⟨between, hs, rfl⟩ := (map_ok _ _ _).mp h
  obtain ⟨hops, -⟩ := Read.settle_ok r between hs
  simp [Read.met, Read.lastOperand, hops]

/-- What follows a command holds its operands in order. -/
theorem readAfterVerb_met (v : Verb) (r r' : Read) (as : List Argument)
    (h : readAfterVerb v r as = .ok r') :
    ∃ given : List Argument, given.Sublist as ∧
      r'.operands.map some = r.met ++ given.map ofUtf8? := by
  -- an operand takes effect one argument late, so the induction carries what was met
  induction as generalizing r with
  | nil =>
    rw [readAfterVerb] at h
    exact ⟨[], .slnil, by rw [(Read.settle_ok r r' h).1, List.map_nil, List.append_nil]⟩
  | cons a as ih =>
    rw [readAfterVerb] at h
    obtain ⟨found, hflag, hnext⟩ := (stages_ok _ _ _).mp h
    cases found with
    | some between =>
      obtain ⟨given, hsub, hops⟩ := ih between hnext
      exact ⟨given, hsub.cons a, by rw [hops, readFlag_met _ r between a hflag]⟩
    | none =>
      obtain ⟨between, hop, hrest⟩ := (stages_ok _ _ _).mp hnext
      obtain ⟨given, hsub, hops⟩ := ih between hrest
      refine ⟨a :: given, hsub.cons_cons a, ?_⟩
      rw [hops, readOperand_met v r between a hop, List.append_assoc]
      rfl

theorem ofArgument?_name (a : Argument) (v : Verb) (h : Verb.ofArgument? a = some v) :
    utf8 v.name = a := by
  have hfound := List.find?_some h
  exact eq_of_beq hfound

def Given (i : Invocation) (as : List Argument) : Prop :=
  ∃ (v : Verb) (given : List Argument) (operands : List String),
    (utf8 v.name :: given).Sublist as ∧ given.map ofUtf8? = operands.map some ∧
      v.operation? operands = some i.operation

theorem readVerb_given (v : Verb) (r : Read) (as : List Argument) (i : Invocation)
    (h : readVerb v r as = .ok i) : Given i (utf8 v.name :: as) := by
  rw [readVerb] at h
  obtain ⟨inner, hafter, hrest⟩ := (stages_ok _ _ _).mp h
  obtain ⟨given, hsub, hops⟩ := readAfterVerb_met v .blank inner as hafter
  cases hop : v.operation? inner.operands with
  | none =>
    rw [hop] at hrest
    cases hrest
  | some operation =>
    rw [hop] at hrest
    obtain ⟨outer, -, hsettled⟩ := (stages_ok _ _ _).mp hrest
    obtain rfl := Except.ok.inj hsettled
    exact ⟨v, given, inner.operands, hsub.cons_cons _, hops.symm, hop⟩

theorem Given.later {i : Invocation} {as : List Argument} (h : Given i as) (a : Argument) :
    Given i (a :: as) := by
  obtain ⟨v, given, operands, hsub, hrest⟩ := h
  exact ⟨v, given, operands, hsub.cons a, hrest⟩

theorem readFrom_given (r : Read) (as : List Argument) (i : Invocation)
    (h : readFrom r as = .ok i) : Given i as := by
  induction as generalizing r with
  | nil =>
    rw [readFrom] at h
    obtain ⟨settled, -, hnever⟩ := (stages_ok _ _ _).mp h
    cases hnever
  | cons a as ih =>
    rw [readFrom] at h
    obtain ⟨found, hflag, hnext⟩ := (stages_ok _ _ _).mp h
    cases found with
    | some between => exact (ih between hnext).later a
    | none =>
      dsimp only at hnext
      split at hnext
      · next v hv =>
        split_ifs at hv
        rw [← ofArgument?_name a v hv]
        exact readVerb_given v r as i hnext
      · split_ifs at hnext

end MapClient.CommandLine
