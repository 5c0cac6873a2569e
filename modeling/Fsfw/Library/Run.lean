import Mathlib

/-!
# Runs of step functions

A step function `step : Step σ ι ω` takes a state and an input to the next state and an
output, or is undefined.  `step.run s is` feeds the inputs `is` one after another from the
state `s`, and collects the outputs.  `step.Along P s is` says that every input of the run
satisfies `P` in the state it is given in.

An invariant that every step from a state satisfying it restores holds at the end of every
run (`Step.run_invariant`).  A relation between the states of two step functions that every
pair of steps restores, with equal outputs, relates the ends of their runs, whose outputs are
equal (`Step.run_simulation`).  It may count the steps (`Step.run_simulation_counted`).

`step.Always Q s is` says that every state that is reached satisfies `Q`.  When the steps that keep
`Q` are those whose input satisfies `P`, this is `step.Along P s is` (`Step.always_iff_along`).
-/

/-- Step functions with states `σ`, inputs `ι` and outputs `ω`. -/
abbrev Step (σ ι ω : Type*) := σ → ι → Option (σ × ω)

namespace Step

variable {σ τ ι ω : Type*}

/-- Feed the inputs one after another, and collect the outputs. -/
def run (step : Step σ ι ω) : σ → List ι → Option (σ × List ω)
  | s, [] => some (s, [])
  | s, i :: is =>
      match step s i with
      | none => none
      | some (s', o) =>
          match run step s' is with
          | none => none
          | some (s'', os) => some (s'', o :: os)

/-- Every input satisfies `P` in the state it is given in. -/
def Along (step : Step σ ι ω) (P : σ → ι → Prop) : σ → List ι → Prop
  | _, [] => True
  | s, i :: is => P s i ∧ ∀ s' o, step s i = some (s', o) → Along step P s' is

/-- Every state that is reached along a run satisfies `Q`, the first one included. -/
def Always (step : Step σ ι ω) (Q : σ → Prop) (s : σ) (is : List ι) : Prop :=
  ∀ before, before <+: is → ∀ s' os, step.run s before = some (s', os) → Q s'

/-- The first step of a run is followed by the run of the remaining inputs. -/
theorem run_cons
    {step : Step σ ι ω} {s s' s'' : σ} {i : ι} {is : List ι} {o : ω} {os : List ω}
    (h : step s i = some (s', o)) (hs : step.run s' is = some (s'', os)) :
  step.run s (i :: is) = some (s'', o :: os)
  := by
  simp only [run, h, hs]

/-- A run that starts with the input `i` starts with a step. -/
theorem run_cons_inv
    {step : Step σ ι ω} {s s'' : σ} {i : ι} {is : List ι} {os : List ω}
    (h : step.run s (i :: is) = some (s'', os)) :
  ∃ s' o os', step s i = some (s', o) ∧ step.run s' is = some (s'', os') ∧ os = o :: os'
  := by
  simp only [run] at h
  split at h
  · cases h
  · rename_i s' o hstep
    split at h
    · cases h
    · rename_i os' hrun
      cases h
      use s', o, os', hstep, hrun

/-- A run of `is ++ js` is a run of `is` followed by a run of `js`. -/
theorem run_append
    {step : Step σ ι ω} {s s' s'' : σ} {is js : List ι} {os os' : List ω}
    (h : step.run s is = some (s', os)) (hs : step.run s' js = some (s'', os')) :
  step.run s (is ++ js) = some (s'', os ++ os')
  := by
  induction is generalizing s os with
  | nil =>
      cases h
      apply hs
  | cons i is ih =>
      obtain ⟨s₁, o, os₁, h₁, h', rfl⟩ := run_cons_inv h
      apply run_cons h₁ (ih h')

/-- A condition on the inputs alone holds along a run when every input satisfies it. -/
theorem along_of_forall
    {step : Step σ ι ω} {P : ι → Prop} {is : List ι} (h : ∀ i ∈ is, P i) (s : σ) :
  step.Along (fun _ i => P i) s is
  := by
  induction is generalizing s with
  | nil =>
      trivial
  | cons i is ih =>
      use h i List.mem_cons_self
      intro s' o _
      apply ih (fun i' hi' => h i' (List.mem_cons_of_mem i hi'))

/-- A weaker condition holds along the same runs. -/
theorem along_mono
    {step : Step σ ι ω} {P Q : σ → ι → Prop} (hPQ : ∀ s i, P s i → Q s i) {s : σ} {is : List ι}
    (h : step.Along P s is) :
  step.Along Q s is
  := by
  induction is generalizing s with
  | nil =>
      trivial
  | cons i is ih =>
      use hPQ s i h.1
      intro s' o h'
      apply ih (h.2 s' o h')

/-- If every step from a state satisfying the invariant restores it, whenever the input
satisfies `P`, then every run along which `P` holds ends in such a state, if it starts in one. -/
theorem run_preserves_along
    {step : Step σ ι ω} {I : σ → Prop} {P : σ → ι → Prop}
    (hstep : ∀ s i s' o, I s → P s i → step s i = some (s', o) → I s')
    {s s' : σ} {is : List ι} {os : List ω} (hs : I s) (his : step.Along P s is)
    (hrun : step.run s is = some (s', os)) :
  I s'
  := by
  induction is generalizing s os with
  | nil =>
      cases hrun
      apply hs
  | cons i is ih =>
      obtain ⟨s₁, o, os', h, hrun', rfl⟩ := run_cons_inv hrun
      apply ih (hstep s i s₁ o hs his.1 h) (his.2 s₁ o h) hrun'

/-- If every step from a state satisfying the invariant restores it, then every run from
such a state ends in such a state. -/
theorem run_preserves
    {step : Step σ ι ω} {I : σ → Prop}
    (hstep : ∀ s i s' o, I s → step s i = some (s', o) → I s')
    {s s' : σ} {is : List ι} {os : List ω} (hs : I s) (hrun : step.run s is = some (s', os)) :
  I s'
  := by
  apply run_preserves_along (P := fun _ _ => True) _ hs _ hrun
  · intro s i s' o hs _
    apply hstep s i s' o hs
  · apply along_of_forall
    intro _ _
    trivial

/-- If every step is defined, then so is every run. -/
theorem run_total
    {step : Step σ ι ω} (hstep : ∀ s i, ∃ s' o, step s i = some (s', o)) (s : σ)
    (is : List ι) :
  ∃ s' os, step.run s is = some (s', os)
  := by
  induction is generalizing s with
  | nil =>
      use s, []
      rfl
  | cons i is ih =>
      obtain ⟨s', o, h⟩ := hstep s i
      obtain ⟨s'', os, hrun⟩ := ih s'
      use s'', o :: os
      apply run_cons h hrun

/-- If every step from a state satisfying the invariant is defined and restores it, then
every run from such a state is defined and ends in such a state. -/
theorem run_invariant
    {step : Step σ ι ω} {I : σ → Prop} {P : σ → ι → Prop}
    (hstep : ∀ s i, I s → P s i → ∃ s' o, step s i = some (s', o) ∧ I s')
    {s : σ} {is : List ι} (hs : I s) (his : step.Along P s is) :
  ∃ s' os, step.run s is = some (s', os) ∧ I s'
  := by
  induction is generalizing s with
  | nil =>
      use s, [], rfl
  | cons i is ih =>
      obtain ⟨s', o, h, hs'⟩ := hstep s i hs his.1
      obtain ⟨s'', os, hrun, hs''⟩ := ih hs' (his.2 s' o h)
      use s'', o :: os, run_cons h hrun

/-- Two conditions on steps that agree in the states satisfying an invariant hold along the
same runs, when the steps that meet the second one restore the invariant. -/
theorem along_congr
    {step : Step σ ι ω} {I : σ → Prop} {P Q : σ → ι → Prop}
    (hPQ : ∀ s i, I s → (P s i ↔ Q s i))
    (hstep : ∀ s i s' o, I s → Q s i → step s i = some (s', o) → I s')
    {s : σ} (hs : I s) (is : List ι) :
  step.Along P s is ↔ step.Along Q s is
  := by
  induction is generalizing s with
  | nil =>
      rfl
  | cons i is ih =>
      constructor
      · intro h
        have hQ := (hPQ s i hs).mp h.1
        use hQ
        intro s' o h'
        apply (ih (hstep s i s' o hs hQ h')).mp (h.2 s' o h')
      · intro h
        use (hPQ s i hs).mpr h.1
        intro s' o h'
        apply (ih (hstep s i s' o hs h.1 h')).mpr (h.2 s' o h')

/-- A condition that follows from an invariant which every step restores holds along every run. -/
theorem along_of_invariant
    {step : Step σ ι ω} {I : σ → Prop} {P : σ → ι → Prop} (hP : ∀ s i, I s → P s i)
    (hstep : ∀ s i s' o, I s → step s i = some (s', o) → I s') {s : σ} (hs : I s) (is : List ι) :
  step.Along P s is
  := by
  rw [along_congr (Q := fun _ _ => True) (fun s i hs => iff_true_intro (hP s i hs)) _ hs]
  · apply along_of_forall
    intro _ _
    trivial
  · intro s i s' o hs _
    apply hstep s i s' o hs

/-- If a state satisfies `Q` after a step exactly when it does so before the step and the input
satisfies `P`, then the end of a run satisfies `Q` exactly when the start does so and `P` holds
along the run. -/
theorem run_iff_along
    {step : Step σ ι ω} {P : σ → ι → Prop} {Q : σ → Prop}
    (hstep : ∀ s i s' o, step s i = some (s', o) → (Q s' ↔ Q s ∧ P s i))
    {s s' : σ} {is : List ι} {os : List ω} (hrun : step.run s is = some (s', os)) :
  Q s' ↔ Q s ∧ step.Along P s is
  := by
  induction is generalizing s os with
  | nil =>
      cases hrun
      simp only [Along, and_true]
  | cons i is ih =>
      obtain ⟨s₁, o, os', h, hrun', rfl⟩ := run_cons_inv hrun
      rw [ih hrun', hstep s i s₁ o h, and_assoc, Along]
      constructor
      · rintro ⟨hQ, hP, his⟩
        use hQ, hP
        intro s₂ o' h'
        cases h.symm.trans h'
        apply his
      · rintro ⟨hQ, hP, his⟩
        use hQ, hP, his s₁ o h

/-- If the steps from the states satisfying an invariant restore it and are mapped to steps of
another step function, also where they are undefined, then runs are mapped to runs. -/
theorem run_map
    {step : Step σ ι ω} {step' : Step τ ι ω} {I : σ → Prop} {f : σ → τ}
    (hinv : ∀ s i s' o, I s → step s i = some (s', o) → I s')
    (hstep : ∀ s i, I s → (step s i).map (Prod.map f id) = step' (f s) i)
    {s : σ} (hs : I s) (is : List ι) :
  (step.run s is).map (Prod.map f id) = step'.run (f s) is
  := by
  induction is generalizing s with
  | nil =>
      rfl
  | cons i is ih =>
      rw [run, run, ← hstep s i hs]
      cases h : step s i with
      | none =>
          rfl
      | some r =>
          obtain ⟨s', o⟩ := r
          simp only [Option.map_some, Prod.map_apply, id]
          rw [← ih (hinv s i s' o hs h)]
          cases step.run s' is with
          | none => rfl
          | some r => rfl

/-- If related states have steps with equal outputs to related states, whenever the input
satisfies `P`, then related states have runs with equal outputs to related states, whenever
`P` holds along the run. -/
theorem run_simulation_along
    {step : Step σ ι ω} {step' : Step τ ι ω} {R : σ → τ → Prop} {P : σ → ι → Prop}
    (hstep : ∀ s t i, R s t → P s i →
      ∃ s' t' o, step s i = some (s', o) ∧ step' t i = some (t', o) ∧ R s' t')
    {s : σ} {t : τ} (hst : R s t) {is : List ι} (his : step.Along P s is) :
  ∃ s' t' os, step.run s is = some (s', os) ∧ step'.run t is = some (t', os) ∧ R s' t'
  := by
  induction is generalizing s t with
  | nil =>
      use s, t, [], rfl, rfl
  | cons i is ih =>
      obtain ⟨s', t', o, h, h', hst'⟩ := hstep s t i hst his.1
      obtain ⟨s'', t'', os, hrun, hrun', hst''⟩ := ih hst' (his.2 s' o h)
      use s'', t'', o :: os, run_cons h hrun, run_cons h' hrun'

/-- If related states have steps with equal outputs to related states, then related states
have runs with equal outputs to related states. -/
theorem run_simulation
    {step : Step σ ι ω} {step' : Step τ ι ω} {R : σ → τ → Prop}
    (hstep : ∀ s t i, R s t →
      ∃ s' t' o, step s i = some (s', o) ∧ step' t i = some (t', o) ∧ R s' t')
    {s : σ} {t : τ} (hst : R s t) (is : List ι) :
  ∃ s' t' os, step.run s is = some (s', os) ∧ step'.run t is = some (t', os) ∧ R s' t'
  := by
  apply run_simulation_along (P := fun _ _ => True) _ hst
  · apply along_of_forall
    intro _ _
    trivial
  · intro s t i hst _
    apply hstep s t i hst

/-- The same for relations that count the steps, up to a number of them, when an input of the second
step function has an input of the first one and says more. -/
theorem run_simulation_counted
    {ι' : Type*} {step : Step σ ι ω} {step' : Step τ ι' ω} {f : ι' → ι} {R : ℕ → σ → τ → Prop}
    {P : σ → ι → Prop} {n : ℕ}
    (hstep : ∀ k s t i, k < n → R k s t → P s i →
      ∃ i' s' t' o, f i' = i ∧ step s i = some (s', o) ∧ step' t i' = some (t', o) ∧
        R (k + 1) s' t')
    {k : ℕ} {s : σ} {t : τ} (hst : R k s t) {is : List ι} (his : step.Along P s is)
    (hlen : k + is.length ≤ n) :
  ∃ is' s' t' os, is'.map f = is ∧ step.run s is = some (s', os) ∧
    step'.run t is' = some (t', os) ∧ R (k + is.length) s' t'
  := by
  induction is generalizing k s t with
  | nil =>
      use [], s, t, [], rfl, rfl, rfl
      exact hst
  | cons i is ih =>
      rw [List.length_cons] at hlen
      obtain ⟨i', s', t', o, hi, h, h', hst'⟩ := hstep k s t i (by omega) hst his.1
      obtain ⟨is', s'', t'', os, his', hrun, hrun', hst''⟩ := ih hst' (his.2 s' o h) (by omega)
      use i' :: is', s'', t'', o :: os
      use by rw [List.map_cons, hi, his'], run_cons h hrun, run_cons h' hrun'
      rwa [List.length_cons, Nat.add_comm is.length, ← Nat.add_assoc]

/-- The states reached are the first one and those after each step. -/
theorem always_cons_iff
    {step : Step σ ι ω} {Q : σ → Prop} {s : σ} {i : ι} {is : List ι} :
  step.Always Q s (i :: is)
    ↔ Q s ∧ ∀ s' o, step s i = some (s', o) → step.Always Q s' is
  := by
  constructor
  · intro h
    constructor
    · apply h [] List.nil_prefix s [] rfl
    · intro s' o hstep before hbefore s'' os hrun
      apply h (i :: before) (List.cons_prefix_cons.mpr ⟨rfl, hbefore⟩) s'' (o :: os)
      apply run_cons hstep hrun
  · rintro ⟨hs, h⟩ before hbefore s'' os hrun
    cases before with
    | nil =>
        cases hrun
        apply hs
    | cons j before =>
        obtain ⟨rfl, hrest⟩ := List.cons_prefix_cons.mp hbefore
        obtain ⟨s', o, os', hstep, hrun', rfl⟩ := run_cons_inv hrun
        apply h s' o hstep before hrest s'' os' hrun'

/-- If the inputs that satisfy `P` are those that lead from the states satisfying `Q` to such
states, then every state that is reached satisfies `Q` exactly when `P` holds along the run. -/
theorem always_iff_along
    {step : Step σ ι ω} {P : σ → ι → Prop} {Q : σ → Prop}
    (hstep : ∀ s i, Q s → ((∀ s' o, step s i = some (s', o) → Q s') ↔ P s i))
    {s : σ} (hs : Q s) (is : List ι) :
  step.Always Q s is ↔ step.Along P s is
  := by
  induction is generalizing s with
  | nil =>
      simp only [Along, iff_true]
      intro before hbefore s' os hrun
      cases List.prefix_nil.mp hbefore
      cases hrun
      apply hs
  | cons i is ih =>
      rw [always_cons_iff, Along, ← hstep s i hs]
      constructor
      · rintro ⟨-, h⟩
        have hQ : ∀ s' o, step s i = some (s', o) → Q s' := by
          intro s' o h'
          apply h s' o h' [] List.nil_prefix s' [] rfl
        use hQ
        intro s' o h'
        apply (ih (hQ s' o h')).mp (h s' o h')
      · rintro ⟨hQ, h⟩
        use hs
        intro s' o h'
        apply (ih (hQ s' o h')).mpr (h s' o h')

end Step
