import Mathlib.Data.List.Basic

/-!
# Labelled runs

A `StepSystem` is a set of initial states and a labelled step relation. `StepSystem.Run M h s`
says that `s` is reached from an initial state by steps whose labels are `h`, newest first.
Safety facts about all reachable states go through `Run.invariant`; a deterministic system given
by a function on inputs is embedded by `StepSystem.ofFun`, and `Run.feed` turns an input list into a
run. `Clocked` is the timing discipline of a sequential process on one clock: no label
starts before the label before it has finished.
-/

/-- Initial states and labelled steps. -/
structure StepSystem (σ : Type u) (α : Type v) where
  init : σ → Prop
  step : σ → α → σ → Prop

namespace StepSystem

/-- `M.Run h s`: the state `s` is reached with the labels `h`, newest first. -/
inductive Run (M : StepSystem σ α) : List α → σ → Prop
  | init : M.init s → M.Run [] s
  | step : M.Run h s → M.step s a s' → M.Run (a :: h) s'

variable {M : StepSystem σ α}

theorem Run.invariant {I : List α → σ → Prop} (init : ∀ s, M.init s → I [] s)
    (step : ∀ h s a s', M.Run h s → I h s → M.step s a s' → I (a :: h) s')
    (run : M.Run h s) : I h s := by
  induction run with
  | init h => exact init _ h
  | step hrun hstep ih => exact step _ _ _ _ hrun ih hstep

/-- `M.Steps s h s'`: the state `s'` is reached from `s` with the labels `h`, newest first. -/
inductive Steps (M : StepSystem σ α) (s : σ) : List α → σ → Prop
  | refl : Steps M s [] s
  | step : Steps M s h s' → M.step s' a s'' → Steps M s (a :: h) s''

theorem Run.append (run : M.Run older s) (steps : M.Steps s newer s') : M.Run (newer ++ older) s' := by
  induction steps with
  | refl => exact run
  | step _ hstep ih => exact ih.step hstep

/-- A run is made of steps from an initial state. -/
theorem Run.steps (run : M.Run h s) : ∃ s₀, M.init s₀ ∧ M.Steps s₀ h s := by
  induction run with
  | init hinit => exact ⟨_, hinit, .refl⟩
  | step _ hstep ih =>
    obtain ⟨s₀, hinit, hsteps⟩ := ih
    exact ⟨s₀, hinit, hsteps.step hstep⟩

/-- The runs whose steps all meet a condition on the history before and on the step. -/
inductive RunWhere (M : StepSystem σ α) (C : List α → σ → α → σ → Prop) : List α → σ → Prop
  | init : M.init s → RunWhere M C [] s
  | step : RunWhere M C h s → M.step s a s' → C h s a s' → RunWhere M C (a :: h) s'

theorem RunWhere.run (H : RunWhere M C h s) : M.Run h s := by
  induction H with
  | init hinit => exact .init hinit
  | step _ hstep _ ih => exact ih.step hstep

theorem RunWhere.mono (hC : ∀ h s a s', C h s a s' → C' h s a s') (H : RunWhere M C h s) :
    RunWhere M C' h s := by
  induction H with
  | init hinit => exact .init hinit
  | step _ hstep hcond ih => exact ih.step hstep (hC _ _ _ _ hcond)

theorem RunWhere.of_append (H : RunWhere M C (newer ++ older) s) : ∃ s₀, RunWhere M C older s₀ := by
  induction newer generalizing s with
  | nil => exact ⟨s, H⟩
  | cons a newer ih =>
    cases H with
    | step hrun _ _ => exact ih hrun

/-- A condition on the labels alone can be read off the history. -/
theorem RunWhere.ofRun (run : M.Run h s)
    (hC : ∀ a older, a :: older <:+ h → ∀ s s', C older s a s') : RunWhere M C h s := by
  induction run with
  | init hinit => exact .init hinit
  | step _ hstep ih =>
    have hbefore := ih fun a older hsuffix => hC a older (hsuffix.trans (List.suffix_cons _ _))
    exact hbefore.step hstep (hC _ _ (List.suffix_refl _) _ _)

/-- The last step of a run. -/
theorem Run.cons_inv (run : M.Run (a :: h) s') : ∃ s, M.Run h s ∧ M.step s a s' := by
  cases run with
  | step hrun hstep => exact ⟨_, hrun, hstep⟩

/-- Every suffix of a history is the history of an earlier state of the run. -/
theorem Run.of_append (run : M.Run (newer ++ older) s) : ∃ s₀, M.Run older s₀ := by
  induction newer generalizing s with
  | nil => exact ⟨s, run⟩
  | cons a newer ih =>
    obtain ⟨s₁, hrun, _⟩ := Run.cons_inv run
    exact ih hrun

/-- The step that produced a given label of a run. -/
theorem Run.step_of_append (run : M.Run (newer ++ a :: older) s) :
    ∃ s₀ s₁, M.Run older s₀ ∧ M.step s₀ a s₁ := by
  obtain ⟨s₁, hrun⟩ := Run.of_append run
  obtain ⟨s₀, h₀, hstep⟩ := hrun.cons_inv
  exact ⟨s₀, s₁, h₀, hstep⟩

/-- The system of a step function on inputs; an input may be refused. -/
def ofFun (start : σ) (next : σ → ι → Option (α × σ)) : StepSystem σ α where
  init s := s = start
  step s a s' := ∃ i, next s i = some (a, s')

/-- Feed a list of inputs, collecting the labels newest first; a refused input is skipped. -/
def feed (next : σ → ι → Option (α × σ)) : List ι → List α × σ → List α × σ
  | [], c => c
  | i :: is, (h, s) =>
    match next s i with
    | some (a, s') => feed next is (a :: h, s')
    | none => feed next is (h, s)

theorem Run.feed {next : σ → ι → Option (α × σ)} (is : List ι)
    (run : (ofFun start next).Run h s) :
    (ofFun start next).Run (StepSystem.feed next is (h, s)).1
      (StepSystem.feed next is (h, s)).2 := by
  induction is generalizing h s with
  | nil => exact run
  | cons i is ih =>
    unfold StepSystem.feed
    split
    · next hnext => exact ih (run.step ⟨i, hnext⟩)
    · exact ih run

theorem Steps.feed {next : σ → ι → Option (α × σ)} (is : List ι)
    (steps : (ofFun start next).Steps s₀ h s) :
    (ofFun start next).Steps s₀ (StepSystem.feed next is (h, s)).1
      (StepSystem.feed next is (h, s)).2 := by
  induction is generalizing h s with
  | nil => exact steps
  | cons i is ih =>
    unfold StepSystem.feed
    split
    · next hnext => exact ih (steps.step ⟨i, hnext⟩)
    · exact ih steps

/-- Every step that feeding the inputs makes meets a condition. -/
def FeedWhere (next : σ → ι → Option (α × σ)) (C : List α → σ → α → σ → Prop) :
    List ι → List α × σ → Prop
  | [], _ => True
  | i :: is, (h, s) =>
    match next s i with
    | some (a, s') => C h s a s' ∧ FeedWhere next C is (a :: h, s')
    | none => FeedWhere next C is (h, s)

instance decidableFeedWhere (next : σ → ι → Option (α × σ)) (C : List α → σ → α → σ → Prop)
    [∀ h s a s', Decidable (C h s a s')] (is : List ι) (c : List α × σ) :
    Decidable (FeedWhere next C is c) :=
  match is, c with
  | [], _ => isTrue trivial
  | i :: is, (h, s) =>
    match hnext : next s i with
    | some (a, s') =>
      have := decidableFeedWhere next C is (a :: h, s')
      decidable_of_iff (C h s a s' ∧ FeedWhere next C is (a :: h, s')) (by rw [FeedWhere, hnext])
    | none =>
      have := decidableFeedWhere next C is (h, s)
      decidable_of_iff (FeedWhere next C is (h, s)) (by rw [FeedWhere, hnext])

theorem RunWhere.feed {next : σ → ι → Option (α × σ)} (is : List ι)
    (run : (ofFun start next).RunWhere C h s) (H : FeedWhere next C is (h, s)) :
    (ofFun start next).RunWhere C (StepSystem.feed next is (h, s)).1
      (StepSystem.feed next is (h, s)).2 := by
  induction is generalizing h s with
  | nil => exact run
  | cons i is ih =>
    unfold StepSystem.feed
    unfold FeedWhere at H
    split
    · next hnext =>
      rw [hnext] at H
      exact ih (run.step ⟨i, hnext⟩ H.1) H.2
    · next hnext =>
      rw [hnext] at H
      exact ih run H

end StepSystem

/-! ## One sequential process on a clock -/

section
variable (start finish : α → Nat)

/-- The labels `h`, newest first, do not overlap in time and are over at `now`. -/
def Clocked (now : Nat) : List α → Prop
  | [] => True
  | a :: h => finish a ≤ now ∧ start a ≤ finish a ∧ Clocked (start a) h

instance decidableClocked (now : Nat) (h : List α) : Decidable (Clocked start finish now h) :=
  match h with
  | [] => isTrue trivial
  | a :: h =>
    have := decidableClocked (start a) h
    inferInstanceAs (Decidable (finish a ≤ now ∧ start a ≤ finish a ∧ Clocked start finish _ h))

variable {start finish}

theorem Clocked.mono (hle : now ≤ now') (H : Clocked start finish now h) :
    Clocked start finish now' h := by
  cases h with
  | nil => trivial
  | cons a h => exact ⟨Nat.le_trans H.1 hle, H.2⟩

theorem Clocked.tail (H : Clocked start finish now (a :: h)) : Clocked start finish (start a) h :=
  H.2.2

/-- Every label is over at `now`. -/
theorem Clocked.finish_le (H : Clocked start finish now h) (ha : a ∈ h) : finish a ≤ now := by
  induction h generalizing now with
  | nil => cases ha
  | cons b h ih =>
    obtain ⟨hfin, hle, htail⟩ := H
    rcases List.mem_cons.mp ha with rfl | ha
    · exact hfin
    · exact Nat.le_trans (ih htail ha) (Nat.le_trans hle hfin)

end
