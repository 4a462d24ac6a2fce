import ModbusGateway.Custom.Poll
import ModbusGateway.Theory.Samples

/-!
# Custom points as a family of samples

Every call of the custom poller acts on the points as an effect of `Theory/Samples`: a response that
decodes takes a sample of its point, a failed or undecodable one voids that point, and a lost peer
and an offline call void all of them. `CustomStore` is the simulation relation. The data of a point
is the decode of its last sample alone, since two valid responses of one point write the same parts
of its value.
-/

namespace ModbusGateway
open Samples

/-- Everything of a value but its grade. -/
structure AtsValue.SameData (v w : AtsValue) : Prop where
  numeric : v.numeric = w.numeric
  text : v.text = w.text
  lastGoodMs : v.lastGoodMs = w.lastGoodMs
  rawWords : v.rawWords = w.rawWords
  rawCount : v.rawCount = w.rawCount

namespace AtsValue.SameData

theorem refl (v : AtsValue) : v.SameData v := ⟨rfl, rfl, rfl, rfl, rfl⟩

theorem trans {u v w : AtsValue} (h : u.SameData v) (h' : v.SameData w) : u.SameData w :=
  ⟨h.numeric.trans h'.numeric, h.text.trans h'.text, h.lastGoodMs.trans h'.lastGoodMs,
    h.rawWords.trans h'.rawWords, h.rawCount.trans h'.rawCount⟩

theorem grade (v : AtsValue) (q : Quality) (reason : String) : (v.grade q reason).SameData v :=
  ⟨rfl, rfl, rfl, rfl, rfl⟩

end AtsValue.SameData

/-! ## Readings of one point -/

/-- Both are numbers, or both are texts of one length. -/
def CustomReading.SameShape : CustomReading → CustomReading → Prop
  | .number _, .number _ => True
  | .text a, .text b => a.length = b.length
  | _, _ => False

theorem decodeAscii_length (h : decodeAscii p words ended i n = some chars) :
    chars.length = n := by
  induction n generalizing ended i chars with
  | zero => cases h; rfl
  | succ n ih =>
    simp only [decodeAscii] at h
    split at h
    · cases h
    · obtain ⟨rest, hrest, rfl⟩ := Option.map_eq_some_iff.mp h
      rw [List.length_cons, ih hrest]

/-- What a successful decode says about its reading. -/
theorem customDecode_cases (h : customDecode d p words count = some reading) :
    (p.dataType = .ascii ∧ ∃ chars, reading = .text chars ∧ chars.length = p.length) ∨
      (p.dataType ≠ .ascii ∧ ∃ n, reading = .number n) := by
  unfold customDecode at h
  split at h
  · next hascii =>
    obtain ⟨chars, hchars, rfl⟩ := Option.map_eq_some_iff.mp h
    exact .inl ⟨hascii, chars, rfl, decodeAscii_length hchars⟩
  · next hascii =>
    refine .inr ⟨hascii, ?_⟩
    obtain ⟨n, -, hn⟩ := Option.bind_eq_some_iff.mp h
    dsimp only at hn
    split at hn
    · cases hn
    · split at hn
      · cases hn
      · cases hn; exact ⟨_, rfl⟩

theorem customDecode_sameShape (h : customDecode d p words count = some reading)
    (h' : customDecode d p words' count = some reading') : reading.SameShape reading' := by
  rcases customDecode_cases h with ⟨ha, chars, rfl, hlen⟩ | ⟨ha, n, rfl⟩
  · rcases customDecode_cases h' with ⟨-, chars', rfl, hlen'⟩ | ⟨ha', -⟩
    · exact hlen.trans hlen'.symm
    · exact absurd ha ha'
  · rcases customDecode_cases h' with ⟨ha', -⟩ | ⟨-, n', rfl⟩
    · exact absurd ha' ha
    · trivial

/-- A valid response covers everything the valid response before it had written. -/
theorem AtsValue.accept_sameData {v v₀ : AtsValue} (hshape : a.SameShape b)
    (hv : v.SameData (v₀.accept a words count t)) :
    (v.accept b words' count t').SameData (v₀.accept b words' count t') := by
  obtain ⟨hnumeric, htext, -, hwords, -⟩ := hv
  have hraw : (v.accept b words' count t').rawWords = (v₀.accept b words' count t').rawWords := by
    funext j
    by_cases hj : j < count
    · simp only [AtsValue.accept, if_pos hj]
    · simp only [AtsValue.accept, if_neg hj, hwords]
  cases a with
  | number _ =>
    cases b with
    | number _ => exact ⟨rfl, htext, rfl, hraw, rfl⟩
    | text _ => cases hshape
  | text x =>
    cases b with
    | number _ => cases hshape
    | text y =>
      refine ⟨hnumeric, ?_, rfl, hraw, rfl⟩
      funext j
      by_cases hj : j ≤ y.length
      · simp only [AtsValue.accept, AtsValue.store, if_pos hj]
      · simp only [AtsValue.accept, AtsValue.store, if_neg hj, htext]
        exact if_neg fun h => hj (Nat.le_trans h (Nat.le_of_eq hshape))

theorem AtsValue.SameData.accept {v w : AtsValue} (h : v.SameData w) (a : CustomReading)
    (words : Nat → UInt16) (count t : Nat) :
    (v.accept a words count t).SameData (w.accept a words count t) := by
  obtain ⟨hnumeric, htext, -, hwords, -⟩ := h
  cases a with
  | number _ => exact ⟨rfl, htext, rfl, by simp only [AtsValue.accept, hwords], rfl⟩
  | text _ =>
    exact ⟨hnumeric, by simp only [AtsValue.accept, AtsValue.store, htext], rfl,
      by simp only [AtsValue.accept, hwords], rfl⟩

/-! ## Responses -/

namespace CustomRequest
variable {map : CustomMap}

/-- The response on a point that was never acquired: what it says by itself. -/
def decoded (r : CustomRequest map) : AtsValue × Bool :=
  r.applyTo (.unacquired "Not acquired")

/-- The response is a success that decodes. -/
def Valid (r : CustomRequest map) : Prop := r.reply.result.error = .ok ∧ r.decoded.2 = true

instance (r : CustomRequest map) : Decidable r.Valid :=
  inferInstanceAs (Decidable (_ ∧ _))

instance (r : CustomRequest map) : Decidable r.transportFailed :=
  inferInstanceAs (Decidable (_ ∧ _))

def reading (r : CustomRequest map) : Option CustomReading :=
  customDecode (map.defs r.point) (map.points r.point) r.reply.words (map.defs r.point).wordCount

theorem applyTo_of_some {r : CustomRequest map} (h : r.reading = some a) (v : AtsValue) :
    r.applyTo v =
      (v.accept a r.reply.words (map.defs r.point).wordCount r.completed, true) := by
  have hentry : map.entries[(r.point : Nat)]? = some map.entries[r.point] := by simp
  unfold reading CustomMap.defs CustomMap.points at h
  simp only [applyTo, customMapApply, hentry, CustomMap.defs, ne_eq, not_true_eq_false, if_false, h]

theorem applyTo_of_none {r : CustomRequest map} (h : r.reading = none) (v : AtsValue) :
    r.applyTo v = (v.grade .unverified
      "Invalid/nonfinite decoded value or out-of-range state", false) := by
  have hentry : map.entries[(r.point : Nat)]? = some map.entries[r.point] := by simp
  unfold reading CustomMap.defs CustomMap.points at h
  simp only [applyTo, customMapApply, hentry, CustomMap.defs, ne_eq, not_true_eq_false, if_false, h]

/-- A response is accepted or not whatever the value it is applied to. -/
theorem applyTo_snd (r : CustomRequest map) (v : AtsValue) : (r.applyTo v).2 = r.decoded.2 := by
  unfold decoded
  cases h : r.reading with
  | none => rw [applyTo_of_none h, applyTo_of_none h]
  | some a => rw [applyTo_of_some h, applyTo_of_some h]

theorem decoded_snd (r : CustomRequest map) : r.decoded.2 = r.reading.isSome := by
  unfold decoded
  cases h : r.reading with
  | none => rw [applyTo_of_none h]; rfl
  | some a => rw [applyTo_of_some h]; rfl

theorem decoded_lastGoodMs {r : CustomRequest map} (h : r.decoded.2 = true) :
    r.decoded.1.lastGoodMs = r.completed := by
  rw [decoded_snd] at h
  obtain ⟨a, ha⟩ := Option.isSome_iff_exists.mp h
  unfold decoded
  rw [applyTo_of_some ha]
  rfl

/-- A rejected response leaves the data of the value alone. -/
theorem applyTo_rejected {r : CustomRequest map} (h : r.decoded.2 = false) (v : AtsValue) :
    (r.applyTo v).1.SameData v ∧ (r.applyTo v).1.quality = .unverified := by
  rw [decoded_snd] at h
  have hnone : r.reading = none := by simpa using h
  rw [applyTo_of_none hnone]
  exact ⟨.grade .., rfl⟩

/-- A valid response makes a value that holds an older one of the same point hold it alone. -/
theorem applyTo_accepted {r q : CustomRequest map} (h : r.decoded.2 = true)
    (hq : q.decoded.2 = true) (hpoint : r.point = q.point) {v : AtsValue}
    (hv : v.SameData q.decoded.1) : (r.applyTo v).1.SameData r.decoded.1 := by
  rw [decoded_snd] at h hq
  obtain ⟨a, ha⟩ := Option.isSome_iff_exists.mp h
  obtain ⟨b, hb⟩ := Option.isSome_iff_exists.mp hq
  have hshape : b.SameShape a := by
    unfold reading at ha hb
    rw [hpoint] at ha
    exact customDecode_sameShape hb ha
  unfold decoded at hv ⊢
  rw [applyTo_of_some hb, ← hpoint] at hv
  rw [applyTo_of_some ha, applyTo_of_some ha]
  exact AtsValue.accept_sameData hshape hv

theorem applyTo_first {r : CustomRequest map} (h : r.decoded.2 = true) {v : AtsValue}
    (hv : v.SameData (.unacquired "Not acquired")) : (r.applyTo v).1.SameData r.decoded.1 := by
  rw [decoded_snd] at h
  obtain ⟨a, ha⟩ := Option.isSome_iff_exists.mp h
  unfold decoded
  rw [applyTo_of_some ha, applyTo_of_some ha]
  exact hv.accept ..

theorem applyTo_quality {r : CustomRequest map} (h : r.decoded.2 = true) (v : AtsValue) :
    (r.applyTo v).1.quality = .good := by
  rw [decoded_snd] at h
  obtain ⟨a, ha⟩ := Option.isSome_iff_exists.mp h
  rw [applyTo_of_some ha]
  rfl

end CustomRequest

/-! ## Effects -/

variable {map : CustomMap}

def customRequestEffect (r : CustomRequest map) : Effect (Fin map.count) (CustomRequest map) :=
  if r.Valid then .take r.point r
  else if r.transportFailed then .void fun _ => True
  else .void fun i => i = r.point

def customEffect : CustomLabel map → Effect (Fin map.count) (CustomRequest map)
  | .idle _ => .skip
  | .offline _ => .void fun _ => True
  | .request r => customRequestEffect r

/-- What no newer call may do to a point for its sample to count. -/
def CustomLabel.Undisturbed (i : Fin map.count) : CustomLabel map → Prop
  | .idle _ => True
  | .offline _ => False
  | .request r => r.point ≠ i ∧ ¬ r.transportFailed

/-- The call is a request of the point that was answered by a valid response. -/
def CustomLabel.Answers (i : Fin map.count) : CustomLabel map → Prop
  | .request r => r.point = i ∧ r.Valid
  | _ => False

/-- Only a valid response takes a sample, and it is the sample. -/
theorem customRequestEffect_take {q r : CustomRequest map}
    (h : customRequestEffect q = .take i r) : q = r ∧ r.point = i ∧ r.Valid := by
  unfold customRequestEffect at h
  split at h
  · next hvalid => cases h; exact ⟨rfl, rfl, hvalid⟩
  · split at h <;> cases h

theorem CustomLabel.takes_of_answers {l : CustomLabel map} (h : l.Answers i) :
    (customEffect l).Takes i := by
  cases l with
  | idle | offline => cases h
  | request r =>
    simp only [customEffect, customRequestEffect, if_pos h.2]
    exact h.1

theorem CustomLabel.undisturbed_of_effect {l : CustomLabel map}
    (ht : ¬ (customEffect l).Takes i) (hv : ¬ (customEffect l).Voids i) : l.Undisturbed i := by
  cases l with
  | idle => trivial
  | offline => exact hv trivial
  | request r =>
    simp only [customEffect, customRequestEffect] at ht hv
    by_cases hvalid : r.Valid
    · rw [if_pos hvalid] at ht
      exact ⟨ht, fun hlost => hlost.1 hvalid.1⟩
    · rw [if_neg hvalid] at hv
      split at hv
      · exact absurd trivial hv
      · next hlost => exact ⟨fun h => hv h.symm, hlost⟩

/-! ## One call -/

/-- The state a request leaves behind, `s` being the state in which it was issued. -/
def customSettle (s : CustomPoll map) (r : CustomRequest map) : CustomPoll map :=
  if r.reply.result.error = .ok then customRequestSucceeded s r else customRequestFailed s r

theorem customPollStep_idle {s : CustomPoll map} (h : customPollStep s now reply = (s', none)) :
    s' = s := by
  unfold customPollStep at h
  split at h
  · cases h; rfl
  · split at h
    · cases h; rfl
    · dsimp only at h
      split at h <;> cases h

theorem customPollStep_request {s : CustomPoll map}
    (h : customPollStep s now reply = (s', some r)) :
    s.nextRequestMs ≤ now ∧ r.now = now ∧ r.reply = reply ∧
      earliestDue s.nextDue now = some r.point ∧ s' = customSettle (customIssueRequest s r) r := by
  unfold customPollStep at h
  split at h
  · cases h
  · next hdue =>
    refine ⟨Nat.le_of_not_lt hdue, ?_⟩
    split at h
    · cases h
    · next hpoint =>
      dsimp only at h
      unfold customSettle
      split at h
      · next hok => cases h; exact ⟨rfl, rfl, hpoint, (if_pos hok).symm⟩
      · next hok => cases h; exact ⟨rfl, rfl, hpoint, (if_neg hok).symm⟩

/-- What a call of the custom poller can be: one that asks nothing, a request, or a lost link. -/
inductive CustomStep (s : CustomPoll map) : CustomLabel map → CustomPoll map → Prop
  | idle : customPollStep s now reply = (s, none) → CustomStep s (.idle now) s
  | request {r : CustomRequest map} : customPollStep s r.now r.reply = (s', some r) →
    CustomStep s (.request r) s'
  | offline : CustomStep s (.offline now) (customPollOffline s now)

theorem customSystem_step {s : CustomPoll map} (h : (customSystem map).step s l s') :
    CustomStep s l s' := by
  obtain ⟨call, h⟩ := h
  cases call with
  | offline now => cases h; exact .offline
  | step now reply =>
    simp only [customNext] at h
    split at h
    · next hidle =>
      cases h
      obtain rfl := customPollStep_idle hidle
      exact .idle hidle
    · next hrequest =>
      cases h
      obtain ⟨-, rfl, rfl, -⟩ := customPollStep_request hrequest
      exact .request hrequest

/-! ## The simulation -/

/-- The data of a point whose last sample is `r`. -/
def heldValue : Option (CustomRequest map) → AtsValue
  | none => .unacquired "Not acquired"
  | some r => r.decoded.1

/-- The poller's values hold the samples `slots`. -/
structure CustomStore (s : CustomPoll map) (slots : Fin map.count → Slot (CustomRequest map)) :
    Prop where
  acquired : ∀ i, s.acquired i = true ↔ ∃ r, (slots i).last = some r
  good : ∀ i, (s.values i).quality = .good ↔ (slots i).valid
  sample : ∀ i r, (slots i).last = some r → r.point = i ∧ r.decoded.2 = true
  data : ∀ i, (s.values i).SameData (heldValue (slots i).last)

namespace CustomStore
variable {s s' : CustomPoll map} {slots : Fin map.count → Slot (CustomRequest map)}

theorem init : CustomStore (customPollInit map) (fun _ => .empty) where
  acquired i := by simp [customPollInit, Slot.empty]
  good i := by simp [customPollInit, Slot.empty, AtsValue.unacquired]
  sample i r h := by cases h
  data i := .refl _

theorem congr (H : CustomStore s slots) (hv : s'.values = s.values)
    (ha : s'.acquired = s.acquired) : CustomStore s' slots where
  acquired i := by rw [ha]; exact H.acquired i
  good i := by rw [hv]; exact H.good i
  sample := H.sample
  data i := by rw [hv]; exact H.data i

/-- Grading down some of the points voids their samples. -/
theorem void (H : CustomStore s slots) (p : Fin map.count → Prop)
    (ha : s'.acquired = s.acquired)
    (hp : ∀ i, p i → (s'.values i).quality ≠ .good ∧ (s'.values i).SameData (s.values i))
    (hnp : ∀ i, ¬ p i → s'.values i = s.values i) :
    CustomStore s' ((Effect.void p).apply slots) where
  acquired i := by rw [ha]; exact H.acquired i
  good i := by
    by_cases hi : p i
    · exact ⟨fun h => absurd h (hp i hi).1, fun h => absurd hi h.2⟩
    · rw [hnp i hi]
      exact (H.good i).trans ⟨fun h => ⟨h, hi⟩, fun h => h.1⟩
  sample := H.sample
  data i := by
    by_cases hi : p i
    · exact (hp i hi).2.trans (H.data i)
    · rw [hnp i hi]; exact H.data i

theorem offline (H : CustomStore s slots) (now : Nat) :
    CustomStore (customPollOffline s now) ((Effect.void fun _ => True).apply slots) := by
  refine H.void _ rfl (fun i _ => ⟨?_, .grade ..⟩) fun i h => absurd trivial h
  simp [customPollOffline, AtsValue.grade]

/-- A valid response takes a sample of its point. -/
theorem take (H : CustomStore s slots) (hvalid : r.decoded.2 = true)
    (hv : s'.values = Function.update s.values r.point (r.applyTo (s.values r.point)).1)
    (ha : s'.acquired = Function.update s.acquired r.point true) :
    CustomStore s' ((Effect.take r.point r).apply slots) := by
  refine ⟨fun i => ?_, fun i => ?_, fun i q h => ?_, fun i => ?_⟩
  all_goals by_cases hi : i = r.point
  all_goals simp only [hv, ha, Effect.apply] at *
  all_goals try simp only [Function.update_of_ne hi] at *
  · subst hi; simp
  · exact H.acquired i
  · subst hi; simp [CustomRequest.applyTo_quality hvalid]
  · exact H.good i
  · subst hi
    simp only [Function.update_self, Option.some.injEq] at h
    subst h
    exact ⟨rfl, hvalid⟩
  · exact H.sample i q h
  · subst hi
    simp only [Function.update_self]
    have hdata := H.data r.point
    cases hlast : (slots r.point).last with
    | none =>
      rw [hlast] at hdata
      exact CustomRequest.applyTo_first hvalid hdata
    | some q =>
      obtain ⟨hpoint, hq⟩ := H.sample _ q hlast
      rw [hlast] at hdata
      exact CustomRequest.applyTo_accepted hvalid hq hpoint.symm hdata
  · exact H.data i

/-- A request acts on the values as its effect. -/
theorem settle (H : CustomStore s slots) (r : CustomRequest map) :
    CustomStore (customSettle (customIssueRequest s r) r)
      ((customRequestEffect r).apply slots) := by
  have hcopy : (customIssueRequest s r).values = s.values := rfl
  unfold customSettle customRequestEffect
  by_cases hok : r.reply.result.error = .ok
  · rw [if_pos hok]
    by_cases hdecoded : r.decoded.2 = true
    · rw [if_pos ⟨hok, hdecoded⟩]
      refine H.take hdecoded rfl ?_
      simp only [customRequestSucceeded, hcopy, CustomRequest.applyTo_snd, if_pos hdecoded]
      rfl
    · have hrejected := CustomRequest.applyTo_rejected (Bool.eq_false_iff.mpr hdecoded)
        (s.values r.point)
      rw [if_neg fun h => hdecoded h.2, if_neg fun h => h.1 hok]
      refine H.void _ ?_ ?_ ?_
      · simp only [customRequestSucceeded, hcopy, CustomRequest.applyTo_snd, if_neg hdecoded]
        rfl
      · rintro i rfl
        simp only [customRequestSucceeded, Function.update_self, hcopy]
        exact ⟨by simp [hrejected.2], hrejected.1⟩
      · intro i hi
        exact Function.update_of_ne hi ..
  · have hfailed : CustomStore
        { s with values := Function.update s.values r.point
                  ((s.values r.point).grade .comm "Modbus read failed") }
        ((Effect.void fun i => i = r.point).apply slots) := by
      refine H.void _ rfl ?_ ?_
      · rintro i rfl
        simp only [Function.update_self]
        exact ⟨by simp [AtsValue.grade], .grade ..⟩
      · intro i hi
        exact Function.update_of_ne hi ..
    rw [if_neg hok, if_neg fun h => hok h.1]
    by_cases hx : r.reply.result.exceptionCode = 0
    · have hoffline := hfailed.offline r.completed
      have hall : (Effect.void fun _ => True).apply
          ((Effect.void fun i => i = r.point).apply slots) =
            (Effect.void fun _ => True).apply slots := by
        funext k; simp [Effect.apply]
      rw [hall] at hoffline
      rw [if_pos ⟨hok, hx⟩]
      simp only [customRequestFailed, if_pos hx]
      exact hoffline.congr rfl rfl
    · rw [if_neg fun h => hx h.2]
      simp only [customRequestFailed, if_neg hx]
      exact hfailed.congr rfl rfl

/-- Along every run the values simulate the history. -/
theorem ofRun (run : (customSystem map).Run h s) : CustomStore s (replay customEffect h) := by
  refine run.invariant (I := fun h s => CustomStore s (replay customEffect h)) ?_ ?_
  · rintro s rfl
    exact .init
  · rintro h s l s' - ih hstep
    cases customSystem_step hstep with
    | offline => exact ih.offline _
    | idle => exact ih
    | request hrequest =>
      obtain ⟨-, -, -, -, rfl⟩ := customPollStep_request hrequest
      exact ih.settle _

end CustomStore

/-! ## The snapshot -/

theorem customPollSnapshot_sameData (s : CustomPoll map) (now : Nat) (i : Fin map.count) :
    (customPollSnapshot s now i).SameData (s.values i) := by
  unfold customPollSnapshot
  split
  · exact .grade ..
  · exact .refl _

theorem customPollSnapshot_good {s : CustomPoll map}
    (h : (customPollSnapshot s now i).quality = .good) :
    (s.values i).quality = .good ∧ (s.acquired i = true →
      now < (s.values i).lastGoodMs ∨ now - (s.values i).lastGoodMs ≤ customMapStaleMs map i) := by
  unfold customPollSnapshot at h
  split at h
  · cases h
  · next hfresh =>
    refine ⟨h, fun hacq => ?_⟩
    by_contra hold
    exact hfresh ⟨hacq, by omega, by omega⟩

/-- A point reported GOOD holds the decode of the latest request issued for it, which is fresh
unless the clock is behind it, and after which nothing lost the peer or took the poller offline.
Whatever it is reported as, its data is the decode of its latest valid response. -/
theorem customPollSnapshot_sound (run : (customSystem map).Run h s) (i : Fin map.count)
    (now : Nat) :
    ((customPollSnapshot s now i).quality = .good →
      ∃ newer r older, h = newer ++ .request r :: older ∧ r.point = i ∧ r.Valid ∧
        (customPollSnapshot s now i).SameData r.decoded.1 ∧
        (customPollSnapshot s now i).lastGoodMs = r.completed ∧
        (now < r.completed ∨ now - r.completed ≤ customMapStaleMs map i) ∧
        ∀ l ∈ newer, l.Undisturbed i) ∧
    ((∃ newer r older, h = newer ++ .request r :: older ∧ r.point = i ∧ r.Valid ∧
        (∀ l ∈ newer, ¬ l.Answers i) ∧
        (customPollSnapshot s now i).SameData r.decoded.1) ∨
      (∀ l ∈ h, ¬ l.Answers i) ∧
        (customPollSnapshot s now i).SameData ((customPollInit map).values i)) := by
  have H := CustomStore.ofRun run
  have hcopy := (customPollSnapshot_sameData s now i).trans (H.data i)
  -- The label that took the sample a slot holds is the request itself.
  have hlabel {newer l older r} (hlatest : Latest customEffect h i r newer l older) :
      l = .request r ∧ r.point = i ∧ r.Valid := by
    have htakes := hlatest.takes
    cases l with
    | idle | offline => cases htakes
    | request q =>
      obtain ⟨rfl, hpoint, hvalid⟩ := customRequestEffect_take htakes
      exact ⟨rfl, hpoint, hvalid⟩
  refine ⟨fun hgood => ?_, ?_⟩
  · obtain ⟨hquality, hfresh⟩ := customPollSnapshot_good hgood
    obtain ⟨r, newer, l, older, hlast, hlatest, hvoid⟩ := replay_valid ((H.good i).mp hquality)
    obtain ⟨rfl, hpoint, hvalid⟩ := hlabel hlatest
    rw [hlast] at hcopy
    have htime := hcopy.lastGoodMs.trans (CustomRequest.decoded_lastGoodMs hvalid.2)
    have hsame := (customPollSnapshot_sameData s now i).lastGoodMs
    have hage := hfresh ((H.acquired i).mpr ⟨r, hlast⟩)
    rw [← hsame, htime] at hage
    exact ⟨newer, r, older, hlatest.split, hpoint, hvalid, hcopy, htime, hage, fun l hl =>
      CustomLabel.undisturbed_of_effect (hlatest.none_newer l hl) (hvoid l hl)⟩
  · cases hlast : (replay customEffect h i).last with
    | none =>
      rw [hlast] at hcopy
      exact .inr ⟨fun l hl hans => replay_last_none.mp hlast l hl (CustomLabel.takes_of_answers hans),
        hcopy⟩
    | some r =>
      obtain ⟨newer, l, older, hlatest, -⟩ := replay_last hlast
      obtain ⟨rfl, hpoint, hvalid⟩ := hlabel hlatest
      rw [hlast] at hcopy
      exact .inl ⟨newer, r, older, hlatest.split, hpoint, hvalid, fun l hl hans =>
        hlatest.none_newer l hl (CustomLabel.takes_of_answers hans), hcopy⟩

/-- A map of one analog point, function 3, address 10, polled every second. -/
def voltageMap : CustomMap where
  entries := [
    { pointDef :=
        { objectType := OBJECT_ANALOG_INPUT, instanceNumber := 1, name := 0, description := 2
          units := 95, stateCount := 0, stateText := none, offset := 10, wordCount := 1
          bitLsb := 0, bitWidth := 0 }
      point :=
        { dataType := .u16, function := 3, order := 0, length := 0, pollMs := 1000
          scale := 1.0, offset := 0.0 } }]
  strings := ['V', '\x00', '\x00']

theorem customPollSnapshot_sound_voltage :
    (customPollSnapshot (customAfter voltageMap
      [.step 1000 (wordReply 4900), .step 2100 oldMapReply, .step 7200 (wordReply 4910)]).2
        7300 ⟨0, by decide⟩).quality = .good ∧
    ∃ r : CustomRequest voltageMap, r.Valid ∧ (customPollSnapshot (customAfter voltageMap
      [.step 1000 (wordReply 4900), .step 2100 oldMapReply, .step 7200 (wordReply 4910)]).2
        7300 ⟨0, by decide⟩).SameData r.decoded.1 := by
  have hgood : (customPollSnapshot (customAfter voltageMap
      [.step 1000 (wordReply 4900), .step 2100 oldMapReply, .step 7200 (wordReply 4910)]).2
        7300 ⟨0, by decide⟩).quality = .good := by decide +kernel
  obtain ⟨-, r, -, -, -, hvalid, hsame, -⟩ :=
    (customPollSnapshot_sound (customSystem_run _ _) _ _).1 hgood
  exact ⟨hgood, r, hvalid, hsame⟩

end ModbusGateway
