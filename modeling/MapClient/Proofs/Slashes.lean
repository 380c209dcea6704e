import MapClient.Proofs.Parts
import MapClient.Proofs.Simulation

/-!
# Slashes at the end of a base

The base of a submitter is the longest beginning of a text that does not end in a
slash. So slashes at the end of the text change nothing, whatever they belong
to, and a session does not tell how many there were.
-/

set_option autoImplicit false

namespace MapClient

open MapClient.Text MapClient.Transport

namespace Submitter

def slashes (n : Nat) : String := .ofList (List.replicate n '/')

structure Unslashed (b base : String) : Prop where
  begins : base.toList <+: b.toList
  ends : base.toList.getLast? ≠ some '/'
  longest : ∀ front, front <+: b.toList → front.getLast? ≠ some '/' → front <+: base.toList

theorem toList_trimSlashes (b : String) :
    (trimSlashes b).toList = dropEnd (· = '/') b.toList := by
  rw [trimSlashes, String.toList_ofList]

theorem trimSlashes_unslashed (b : String) : Unslashed b (trimSlashes b) := by
  constructor
  · obtain ⟨back, hsplit, -⟩ := dropEnd_split (· = '/') b.toList
    rw [toList_trimSlashes]
    exact ⟨back, hsplit.symm⟩
  · intro hlast
    rw [toList_trimSlashes] at hlast
    exact absurd (dropEnd_last hlast) (by decide)
  · intro front hfront hlast
    rw [toList_trimSlashes]
    refine dropEnd_longest hfront fun c hc => decide_eq_false ?_
    rintro rfl
    exact hlast hc

theorem trimSlashes_slashes (b : String) (n : Nat) :
    trimSlashes (b ++ slashes n) = trimSlashes b := by
  have hall : ∀ c ∈ List.replicate n '/', decide (c = '/') = true := by simp
  rw [trimSlashes, slashes, String.toList_append, String.toList_ofList, dropEnd_append _ hall,
    trimSlashes]

theorem trimSlashes_again (b : String) : trimSlashes (trimSlashes b) = trimSlashes b := by
  have hself : dropEnd (· = '/') (trimSlashes b).toList = (trimSlashes b).toList := by
    refine dropEnd_self fun c hc => decide_eq_false ?_
    rintro rfl
    exact (trimSlashes_unslashed b).ends hc
  rw [trimSlashes, hself, String.ofList_toList]

end Submitter

namespace Session

/-- Slashes at the end of a base do not show in a session, in what other
surroundings it is held. The base is the longest beginning of the text that does
not end in a slash, and makes the same submitter again. -/
theorem trailing_slashes (client : Client) (b : String) (n : Nat) (steps : List Step)
    (env : Surroundings) (w : World) (clock : Nat → Instant) (boundaries : Nat → String)
    (received : List Request) (logged : List Log.Event) (readings drawn : Nat) :
    let s := Submitter.ofBase client b
    let slashed := Submitter.ofBase client (b ++ Submitter.slashes n)
    slashed.base = s.base ∧
    (∀ path, slashed.endpoint path = s.endpoint path) ∧
    List.Forall₂ Answer.Alike (run env s steps w)
      (run ⟨clock, boundaries, env.unreached⟩ slashed steps
        ⟨w.script, received, logged, readings, drawn⟩) ∧
    run env slashed steps w = run env s steps w ∧
    Submitter.Unslashed b s.base ∧
    Submitter.ofBase client s.base = s := by
  intro s slashed
  have hsame : slashed = s := by
    simp only [slashed, s, Submitter.ofBase, Submitter.trimSlashes_slashes]
  rw [hsame]
  refine ⟨rfl, fun _ => rfl, ?_, rfl, Submitter.trimSlashes_unslashed b, ?_⟩
  · exact run_paired env ⟨clock, boundaries, env.unreached⟩ rfl s steps rfl
  · simp only [s, Submitter.ofBase, Submitter.trimSlashes_again]

example : Submitter.trimSlashes "http:///?q=/" = "http:///?q=" ∧
    Submitter.trimSlashes "///" = "" := by
  decide

end Session

end MapClient
