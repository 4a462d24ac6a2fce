import Mathlib.Logic.Basic

/-!
# Ordered checks

A validator that runs checks one after the other and stops at the first that fails is a computation
in `Except`. `eq_ok` lemmas turn such a computation into the conjunction of its conditions, in both
directions; `Avoids` is the opposite question, which errors it can end with.
-/

namespace Checks

/-- Stop with `why` if a condition holds. -/
def reject (bad : Prop) [Decidable bad] (why : ε) : Except ε Unit :=
  if bad then .error why else .ok ()

/-- The value, or stop with `why`. -/
def require (value : Option α) (why : ε) : Except ε α :=
  match value with
  | some a => .ok a
  | none => .error why

@[simp] theorem reject_eq_ok {bad : Prop} [Decidable bad] {why : ε} :
    reject bad why = .ok u ↔ ¬ bad := by
  unfold reject
  split <;> simp [*]

@[simp] theorem require_eq_ok {value : Option α} {why : ε} :
    require value why = .ok a ↔ value = some a := by
  cases value <;> simp [require]

@[simp] theorem bind_eq_ok {x : Except ε α} {f : α → Except ε β} :
    x >>= f = .ok b ↔ ∃ a, x = .ok a ∧ f a = .ok b := by
  cases x with
  | error e =>
    constructor
    · intro h
      cases h
    · rintro ⟨a, ha, -⟩
      cases ha
  | ok a =>
    constructor
    · exact fun h => ⟨a, rfl, h⟩
    · rintro ⟨a', ha', h⟩
      cases ha'
      exact h

@[simp] theorem pure_eq_ok {a b : α} : (pure a : Except ε α) = .ok b ↔ a = b := by
  simp [pure, Except.pure]

@[simp] theorem mapError_eq_ok {x : Except ε α} {f : ε → ε'} : x.mapError f = .ok a ↔ x = .ok a := by
  cases x with
  | error e =>
    constructor
    · intro h
      cases h
    · intro h
      cases h
  | ok b =>
    constructor
    · intro h
      cases h
      rfl
    · intro h
      cases h
      rfl

/-- The computation does not end with this error. -/
def Avoids (why : ε) (x : Except ε α) : Prop := x ≠ .error why

section
variable {why : ε} {x : Except ε α}

theorem Avoids.ok (a : α) : Avoids why (.ok a : Except ε α) := fun h => by cases h

theorem Avoids.error (h : other ≠ why) : Avoids why (.error other : Except ε α) :=
  fun heq => h (Except.error.inj heq)

theorem Avoids.reject {bad : Prop} [Decidable bad] (h : other ≠ why) :
    Avoids why (Checks.reject bad other) := by
  unfold Checks.reject
  split
  · exact .error h
  · exact .ok ()

/-- An outcome that is passed on unless it is this one. -/
theorem Avoids.outcome {other : ε} [Decidable (other ≠ why)] :
    Avoids why (Checks.reject (other ≠ why) other) := by
  unfold Checks.reject
  split
  · next h => exact .error h
  · exact .ok ()

theorem Avoids.require {value : Option α} (h : other ≠ why) :
    Avoids why (Checks.require value other) := by
  cases value with
  | none => exact .error h
  | some a => exact .ok a

theorem Avoids.mapError {x : Except ε' α} {f : ε' → ε} (h : ∀ e, f e ≠ why) : Avoids why (x.mapError f) := by
  cases x with
  | error e => exact .error (h e)
  | ok a => exact .ok a

theorem Avoids.bind {f : α → Except ε β} (hx : Avoids why x)
    (hf : ∀ a, x = .ok a → Avoids why (f a)) : Avoids why (x >>= f) := by
  cases x with
  | error e => exact fun h => hx (congrArg Except.error (Except.error.inj h))
  | ok a => exact hf a rfl

end

end Checks
