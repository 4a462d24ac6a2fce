import Mathlib.Logic.Function.Basic

/-!
# Samples that events take and void

The general form of "last good value with a fault flag": a key holds the last sample taken of it
and whether that sample still counts. An event takes a sample of one key or voids a set of keys
(or does neither), and `replay` is the state after a history. `replay_last_iff` and
`replay_valid_iff` read a slot back as a fact about the history: the sample is the latest one of
its key, and it counts exactly when nothing newer voids the key.
-/

namespace Samples

/-- What one event does to a family of samples. -/
inductive Effect (κ : Type u) (ν : Type v) where
  | skip
  | take (k : κ) (v : ν)
  | void (s : κ → Prop)

/-- The last sample of a key, and whether it still counts. -/
structure Slot (ν : Type v) where
  last : Option ν
  valid : Prop

def Slot.empty : Slot ν := ⟨none, False⟩

namespace Effect

/-- The event takes a sample of `k`. -/
def Takes (k : κ) : Effect κ ν → Prop
  | .take k' _ => k' = k
  | _ => False

/-- The event voids the sample of `k`. -/
def Voids (k : κ) : Effect κ ν → Prop
  | .void s => s k
  | _ => False

theorem Takes.eq_take {e : Effect κ ν} (h : e.Takes k) : ∃ v, e = .take k v := by
  cases e with
  | take k' v => cases h; exact ⟨v, rfl⟩
  | _ => cases h

variable [DecidableEq κ]

def apply : Effect κ ν → (κ → Slot ν) → κ → Slot ν
  | .skip, slots => slots
  | .take k v, slots => Function.update slots k ⟨some v, True⟩
  | .void s, slots => fun k => ⟨(slots k).last, (slots k).valid ∧ ¬ s k⟩

theorem apply_of_take (slots : κ → Slot ν) : (Effect.take k v).apply slots k = ⟨some v, True⟩ := by
  simp [apply]

theorem apply_of_not_takes {e : Effect κ ν} (h : ¬ e.Takes k) (slots : κ → Slot ν) :
    e.apply slots k = ⟨(slots k).last, (slots k).valid ∧ ¬ e.Voids k⟩ := by
  cases e with
  | skip => simp [apply, Voids]
  | take k' v => simp [apply, Voids, Function.update_of_ne (Ne.symm h : k ≠ k')]
  | void s => rfl

end Effect

/-- `a` is the event of `h` that took the latest sample of `k`, and `newer` came after it. -/
structure Latest (effect : α → Effect κ ν) (h : List α) (k : κ) (v : ν) (newer : List α) (a : α)
    (older : List α) : Prop where
  split : h = newer ++ a :: older
  takes : effect a = .take k v
  none_newer : ∀ b ∈ newer, ¬ (effect b).Takes k

theorem Latest.cons {effect : α → Effect κ ν} (H : Latest effect h k v newer a older)
    (hb : ¬ (effect b).Takes k) : Latest effect (b :: h) k v (b :: newer) a older where
  split := by rw [H.split]; rfl
  takes := H.takes
  none_newer c hc := by
    rcases List.mem_cons.mp hc with rfl | hc
    · exact hb
    · exact H.none_newer c hc

variable [DecidableEq κ] (effect : α → Effect κ ν)

/-- The slots after a history, newest first. -/
def replay : List α → κ → Slot ν
  | [] => fun _ => .empty
  | a :: h => (effect a).apply (replay h)

variable {effect}

theorem replay_cons_of_take (ha : effect a = .take k v) :
    replay effect (a :: h) k = ⟨some v, True⟩ := by
  simp only [replay, ha, Effect.apply_of_take]

theorem replay_cons_of_not_takes (ha : ¬ (effect a).Takes k) :
    replay effect (a :: h) k =
      ⟨(replay effect h k).last, (replay effect h k).valid ∧ ¬ (effect a).Voids k⟩ :=
  Effect.apply_of_not_takes ha _

/-- The stored sample is the latest one of the history. -/
theorem replay_last (hlast : (replay effect h k).last = some v) :
    ∃ newer a older, Latest effect h k v newer a older ∧
      ((replay effect h k).valid ↔ ∀ b ∈ newer, ¬ (effect b).Voids k) := by
  induction h with
  | nil => cases hlast
  | cons b h ih =>
    by_cases hb : (effect b).Takes k
    · obtain ⟨w, hw⟩ := hb.eq_take
      rw [replay_cons_of_take hw] at hlast ⊢
      cases hlast
      exact ⟨[], b, h, ⟨rfl, hw, by simp⟩, by simp⟩
    · rw [replay_cons_of_not_takes hb] at hlast ⊢
      obtain ⟨newer, a, older, hlatest, hvalid⟩ := ih hlast
      refine ⟨b :: newer, a, older, hlatest.cons hb, ?_⟩
      simp [hvalid, and_comm]

/-- A slot is empty exactly when the history never takes a sample of its key. -/
theorem replay_last_none : (replay effect h k).last = none ↔ ∀ b ∈ h, ¬ (effect b).Takes k := by
  induction h with
  | nil => simp [replay, Slot.empty]
  | cons b h ih =>
    by_cases hb : (effect b).Takes k
    · obtain ⟨w, hw⟩ := hb.eq_take
      simp [replay_cons_of_take hw, hb]
    · simp [replay_cons_of_not_takes hb, ih, hb]

theorem replay_valid_last (hvalid : (replay effect h k).valid) :
    ∃ v, (replay effect h k).last = some v := by
  induction h with
  | nil => cases hvalid
  | cons b h ih =>
    by_cases hb : (effect b).Takes k
    · obtain ⟨w, hw⟩ := hb.eq_take
      exact ⟨w, by rw [replay_cons_of_take hw]⟩
    · rw [replay_cons_of_not_takes hb] at hvalid ⊢
      exact ih hvalid.1

/-- A sample that counts: the latest one of its key, with nothing newer voiding the key. -/
theorem replay_valid (hvalid : (replay effect h k).valid) :
    ∃ v newer a older, (replay effect h k).last = some v ∧ Latest effect h k v newer a older ∧
      ∀ b ∈ newer, ¬ (effect b).Voids k := by
  obtain ⟨v, hlast⟩ := replay_valid_last hvalid
  obtain ⟨newer, a, older, hlatest, hiff⟩ := replay_last hlast
  exact ⟨v, newer, a, older, hlast, hlatest, hiff.mp hvalid⟩

/-- Every sample that counts was taken by an event with the property `P`. -/
def Counted (effect : α → Effect κ ν) (h : List α) (P : α → Prop) : Prop :=
  ∀ k, (replay effect h k).valid → ∃ v newer a older, (replay effect h k).last = some v ∧
    Latest effect h k v newer a older ∧ P a

namespace Counted

theorem nil (effect : α → Effect κ ν) (P : α → Prop) : Counted effect [] P :=
  fun _ h => by cases h

theorem mono (H : Counted effect h P) (hPQ : ∀ a, P a → Q a) : Counted effect h Q := by
  intro k hvalid
  obtain ⟨v, newer, a, older, hlast, hlatest, ha⟩ := H k hvalid
  exact ⟨v, newer, a, older, hlast, hlatest, hPQ a ha⟩

theorem cons (H : Counted effect h P) (ha : ∀ k, (effect a).Takes k → P a) :
    Counted effect (a :: h) P := by
  intro k hvalid
  by_cases hk : (effect a).Takes k
  · obtain ⟨v, hv⟩ := hk.eq_take
    exact ⟨v, [], a, h, by rw [replay_cons_of_take hv], ⟨rfl, hv, by simp⟩, ha k hk⟩
  · rw [replay_cons_of_not_takes hk] at hvalid ⊢
    obtain ⟨v, newer, b, older, hlast, hlatest, hb⟩ := H k hvalid.1
    exact ⟨v, a :: newer, b, older, hlast, hlatest.cons hk, hb⟩

/-- After an event that voids every key no sample counts. -/
theorem void (ha : effect a = .void fun _ => True) (h : List α) (P : α → Prop) :
    Counted effect (a :: h) P := by
  intro k hvalid
  simp only [replay, ha, Effect.apply, not_true_eq_false, and_false] at hvalid

end Counted

end Samples
