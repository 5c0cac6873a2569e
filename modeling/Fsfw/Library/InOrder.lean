import Fsfw.Library.Run

/-!
# What passes through queues in order

The states of a step function have queues, what enters and leaves them is seen in the outputs.  When
in every step what was in a queue, and then what enters it, is what leaves it, and then what is in
it, then this holds of runs, too: nothing is lost, repeated or overtaken (`Step.run_inOrder`).

Outputs that are numbered one after another in every step are so in every run (`Step.run_numbered`).
-/

namespace Step

variable {σ ι ω α : Type*} {step : Step σ ι ω} {I : σ → Prop}

/-- What every step from a state that satisfies the invariant says of its input and its output, a
run says of all of them. -/
theorem run_forall₂
    {R : ι → ω → Prop} (hstep : ∀ s i s' o, I s → step s i = some (s', o) → I s' ∧ R i o)
    {s s' : σ} {is : List ι} {os : List ω} (hs : I s) (hrun : step.run s is = some (s', os)) :
  List.Forall₂ R is os
  := by
  induction is generalizing s os with
  | nil =>
      cases hrun
      exact .nil
  | cons i is ih =>
      obtain ⟨s₁, o, os', h, hrun', rfl⟩ := run_cons_inv hrun
      obtain ⟨hs₁, ho⟩ := hstep s i s₁ o hs h
      exact .cons ho (ih hs₁ hrun')

theorem run_outputs
    {Q : ω → Prop} (hstep : ∀ s i s' o, I s → step s i = some (s', o) → I s' ∧ Q o)
    {s s' : σ} {is : List ι} {os : List ω} (hs : I s) (hrun : step.run s is = some (s', os)) :
  ∀ o ∈ os, Q o
  := by
  have hall := run_forall₂ (R := fun _ => Q) hstep hs hrun
  clear hrun
  induction hall with
  | nil =>
      intro o ho
      cases ho
  | cons ho _ ih => exact List.forall_mem_cons.mpr ⟨ho, ih⟩

/-- Queues that are in order in every step are in order in every run. -/
theorem run_inOrder
    {waiting : σ → List α} {entered left : ω → List α}
    (hstep : ∀ s i s' o, I s → step s i = some (s', o) →
      I s' ∧ waiting s ++ entered o = left o ++ waiting s')
    {s s' : σ} {is : List ι} {os : List ω} (hs : I s) (hrun : step.run s is = some (s', os)) :
  waiting s ++ os.flatMap entered = os.flatMap left ++ waiting s'
  := by
  induction is generalizing s os with
  | nil =>
      cases hrun
      rw [List.flatMap_nil, List.flatMap_nil, List.append_nil, List.nil_append]
  | cons i is ih =>
      obtain ⟨s₁, o, os', h, hrun', rfl⟩ := run_cons_inv hrun
      obtain ⟨hs₁, ho⟩ := hstep s i s₁ o hs h
      calc
        waiting s ++ (o :: os').flatMap entered
          = (waiting s ++ entered o) ++ os'.flatMap entered := by
            rw [List.flatMap_cons, List.append_assoc]
        _ = left o ++ (waiting s₁ ++ os'.flatMap entered) := by
            rw [ho, List.append_assoc]
        _ = (o :: os').flatMap left ++ waiting s' := by
            rw [ih hs₁ hrun', List.flatMap_cons, List.append_assoc]

/-- Outputs that are numbered in every step, from the number on that the state tells, are numbered
in every run. -/
theorem run_numbered
    {next : α → α} (number : σ → α) {numbers : ω → List α}
    (hstep : ∀ s i s' o, I s → step s i = some (s', o) →
      I s' ∧ numbers o = List.iterate next (number s) (numbers o).length
        ∧ number s' = next^[(numbers o).length] (number s))
    {s s' : σ} {is : List ι} {os : List ω} (hs : I s) (hrun : step.run s is = some (s', os)) :
  os.flatMap numbers = List.iterate next (number s) (os.flatMap numbers).length
  := by
  induction is generalizing s os with
  | nil =>
      cases hrun
      rfl
  | cons i is ih =>
      obtain ⟨s₁, o, os', h, hrun', rfl⟩ := run_cons_inv hrun
      obtain ⟨hs₁, ho, hnumber⟩ := hstep s i s₁ o hs h
      rw [List.flatMap_cons, List.length_append, List.iterate_add, ← ho, ← hnumber, ← ih hs₁ hrun']

end Step
