import Mathlib.Algebra.Order.BigOperators.Group.Finset
import Mathlib.Data.Nat.Basic

/-!
# Earliest due first

A server serves one entry at a time, always the earliest due one, and an entry that was served is due
again only after that. Then every other entry goes before a waiting one at most once: the work that goes
before it is its `backlog`, and `OnTime` bounds by it when the server is ready for the entry. A server may
have work of its own besides the entries; `extra` is what is left of it.
-/

namespace EarliestDue
open Finset

variable [Fintype ι] [DecidableEq ι] {w : ι → Nat}

/-- The work of the other entries that are due no later. -/
def backlog (w : ι → Nat) (due : ι → Nat) (i : ι) : Nat :=
  ∑ k ∈ univ.filter fun k => k ≠ i ∧ due k ≤ due i, w k

/-- The work of all other entries. -/
def others (w : ι → Nat) (i : ι) : Nat := ∑ k ∈ univ.erase i, w k

theorem backlog_le (due : ι → Nat) (i : ι) : backlog w due i ≤ others w i := by
  refine sum_le_sum_of_subset fun k hk => ?_
  exact mem_erase.mpr ⟨(mem_filter.mp hk).2.1, mem_univ k⟩

/-- An entry that was served goes before the waiting one no more. -/
theorem backlog_serve {due : ι → Nat} (hne : k ≠ i) (hk : due k ≤ due i) (hlater : due i < d) :
    backlog w (Function.update due k d) i + w k = backlog w due i := by
  have hi : Function.update due k d i = due i := Function.update_of_ne hne.symm _ _
  have herase : (univ.filter fun j => j ≠ i ∧ Function.update due k d j ≤ due i) =
      (univ.filter fun j => j ≠ i ∧ due j ≤ due i).erase k := by
    ext j
    rw [mem_erase, mem_filter, mem_filter]
    by_cases hj : j = k
    · subst hj
      rw [Function.update_self]
      have hlate : ¬ d ≤ due i := Nat.not_le_of_lt hlater
      simp [hlate]
    · rw [Function.update_of_ne hj]
      simp [hj]
  unfold backlog
  rw [hi, herase]
  exact sum_erase_add _ _ (mem_filter.mpr ⟨mem_univ k, hne, hk⟩)

/-- The server is ready for the entry, after the work that goes before it, a bounded time after it is
due. -/
def OnTime (w : ι → Nat) (bound : Nat) (due : ι → Nat) (ready extra : Nat) (i : ι) : Prop :=
  ready + extra + backlog w due i ≤ due i + bound

namespace OnTime
variable {due : ι → Nat}

/-- An entry that was just served. -/
theorem served (hready : ready ≤ due i) (hbound : extra + others w i ≤ bound) :
    OnTime w bound due ready extra i := by
  have hle : backlog w due i ≤ others w i := backlog_le due i
  unfold OnTime
  omega

/-- Another entry is served, in a slot that begins no later than `gap` after the server is ready and the
entry is due. -/
theorem serve (H : OnTime w bound due ready extra i) (hne : k ≠ i)
    (hfirst : due i ≤ start → due k ≤ due i) (hprompt : start ≤ max ready (due i + gap))
    (hslot : ready' ≤ start + w k) (hlater : start < d) (hextra : extra' ≤ extra)
    (hbound : w k + extra' + others w i ≤ bound) (hgap : gap + extra' + others w i ≤ bound) :
    OnTime w bound (Function.update due k d) ready' extra' i := by
  have hi : Function.update due k d i = due i := Function.update_of_ne hne.symm _ _
  have hle : backlog w due i ≤ others w i := backlog_le due i
  unfold OnTime at H ⊢
  rw [hi]
  by_cases hdue : due i ≤ start
  · -- The entry is waiting: its backlog shrinks by the slot.
    have hserve : backlog w (Function.update due k d) i + w k = backlog w due i :=
      backlog_serve hne (hfirst hdue) (by omega)
    rcases Nat.le_total start ready with hready | hready
    · omega
    · omega
  · have hle' : backlog w (Function.update due k d) i ≤ others w i := backlog_le _ i
    omega

/-- The server does a part of its own work. -/
theorem work (H : OnTime w bound due ready extra i) (hprompt : start ≤ max ready (due i + gap))
    (hslot : ready' ≤ start + part) (hextra : due i ≤ start → extra' + part ≤ extra)
    (hbound : part + extra' + others w i ≤ bound) (hgap : gap + extra + others w i ≤ bound) :
    OnTime w bound due ready' extra' i := by
  have hle : backlog w due i ≤ others w i := backlog_le due i
  unfold OnTime at H ⊢
  by_cases hdue : due i ≤ start
  · have hpart := hextra hdue
    rcases Nat.le_total start ready with hready | hready
    · omega
    · omega
  · omega

theorem ready_le (H : OnTime w bound due ready extra i) : ready ≤ due i + bound := by
  unfold OnTime at H
  omega

end OnTime

/-! ## Overtaking -/

omit [Fintype ι] in
/-- Entries served one after the other, newest first, with the instants they were served at. -/
inductive Serving : (ι → Nat) → List (Nat × ι) → (ι → Nat) → Prop
  | nil : Serving due [] due
  | cons : Serving due h due' → (∀ j, due' j ≤ start → due' k ≤ due' j) → start < d →
    Serving due ((start, k) :: h) (Function.update due' k d)

omit [Fintype ι] in
/-- What was served while an entry is due is due later than the entry. -/
theorem Serving.later {due due' : ι → Nat} (H : Serving due h due') (hdue : due i ≤ t)
    (hstart : ∀ p ∈ h, t ≤ p.1 ∧ p.2 ≠ i) :
    due' i = due i ∧ (h.map Prod.snd).Nodup ∧ ∀ p ∈ h, due i < due' p.2 := by
  induction H with
  | nil => exact ⟨rfl, .nil, nofun⟩
  | @cons h due' start k d _ hfirst hlater ih =>
    obtain ⟨ht, hne⟩ := hstart _ List.mem_cons_self
    obtain ⟨heq, hnodup, hrest⟩ := ih fun p hp => hstart p (List.mem_cons_of_mem _ hp)
    have hk : due' k ≤ due i := heq ▸ hfirst i (by omega)
    refine ⟨?_, ?_, fun p hp => ?_⟩
    · rw [Function.update_of_ne hne.symm, heq]
    · refine List.nodup_cons.mpr ⟨fun hmem => ?_, hnodup⟩
      obtain ⟨p, hp, rfl⟩ := List.mem_map.mp hmem
      have hlate := hrest p hp
      omega
    · by_cases hpk : p.2 = k
      · rw [hpk, Function.update_self]
        omega
      · rw [Function.update_of_ne hpk]
        rcases List.mem_cons.mp hp with rfl | hp
        · exact absurd rfl hpk
        · exact hrest p hp

/-- Every other entry overtakes a waiting one at most once. -/
theorem Serving.overtake {due due' : ι → Nat} (H : Serving due h due') (hdue : due i ≤ t)
    (hstart : ∀ p ∈ h, t ≤ p.1 ∧ p.2 ≠ i) :
    (h.map Prod.snd).Nodup ∧ h.length ≤ Fintype.card ι - 1 := by
  obtain ⟨-, hnodup, -⟩ := H.later hdue hstart
  refine ⟨hnodup, ?_⟩
  have hi : i ∉ h.map Prod.snd := by
    intro hmem
    obtain ⟨p, hp, heq⟩ := List.mem_map.mp hmem
    exact (hstart p hp).2 heq
  have hcard := (List.nodup_cons.mpr ⟨hi, hnodup⟩).length_le_card
  rw [List.length_cons, List.length_map] at hcard
  omega

end EarliestDue
