import ModbusGateway.Theory.EarliestDue
import ModbusGateway.Verify.MapSafety
import ModbusGateway.Verify.Spacing

/-!
# The schedule of a custom map

A request puts its point behind all that is due by then, so the poller serves its points earliest due
first in the sense of `Theory/EarliestDue`. `CustomTurn` is what every request does to the schedule, and
`customPollStep_valid` and `customPollStep_exception` are what it does when it is answered.
-/

namespace ModbusGateway

/-! ## Accepted maps -/

theorem customMapParse_safeMap
    (h : customMapParse strtod memory map₀ csv errorSize = (true, map, error)) : SafeMap map := by
  unfold customMapParse at h
  split at h
  · next parsed hok =>
    cases h
    obtain ⟨-, points, H, rfl⟩ := parseMap_eq_ok.mp hok
    exact H.safe
  · cases h

theorem SafeMap.pollMs (H : SafeMap map) (i : Fin map.count) :
    1000 ≤ (map.points i).pollMs ∧ (map.points i).pollMs ≤ 3600000 := by
  have hi := H.decodable _ (List.getElem_mem i.isLt)
  exact ⟨hi.pollMs_ge, hi.pollMs_le⟩

theorem customMapStaleMs_eq (map : CustomMap) (i : Fin map.count) :
    customMapStaleMs map i =
      max (max ((map.points i).pollMs * 3) (map.count * 3 * 250 + 1200)) 5000 := by
  have hentry : map.entries[(i : Nat)]? = some map.entries[i] := by simp
  unfold customMapStaleMs
  rw [hentry]
  rfl

/-! ## One request -/

variable {map : CustomMap}

/-- The clock is a 64-bit count of microseconds divided by 1000, and an elapsed time has 32 bits. -/
structure CustomRequest.InClock (r : CustomRequest map) : Prop where
  now : r.now * 1000 < 2 ^ 64
  elapsed : r.reply.result.elapsedMs < 2 ^ 32

theorem CustomRequest.InClock.room {r : CustomRequest map} (H : r.InClock) :
    r.now + r.reply.result.elapsedMs + 3600000 < 2 ^ 64 := by
  have hnow := H.now
  have helapsed := H.elapsed
  omega

theorem CustomRequest.InClock.completed {r : CustomRequest map} (H : r.InClock) :
    r.completed = r.now + r.reply.result.elapsedMs :=
  u64_of_lt (by have hroom := H.room; omega)

/-- What every request does to the schedule. -/
structure CustomTurn (s : CustomPoll map) (r : CustomRequest map) (s' : CustomPoll map) : Prop where
  ready : s.nextRequestMs ≤ r.now
  earliest : ∀ k, s.nextDue k ≤ r.now → s.nextDue r.point ≤ s.nextDue k
  later : ∃ d, r.now < d ∧ s'.nextDue = Function.update s.nextDue r.point d

theorem customPollStep_turn {s : CustomPoll map} (hsafe : SafeMap map)
    (h : customPollStep s now reply = (s', some r)) (hclock : r.InClock) : CustomTurn s r s' := by
  obtain ⟨hready, hnow, -, hearliest, rfl⟩ := customPollStep_request h
  subst hnow
  refine ⟨hready, fun k hk => earliestDue_le hearliest hk, ?_⟩
  have hroom := hclock.room
  have hpoll := hsafe.pollMs r.point
  have hcompleted := hclock.completed
  unfold customSettle
  split
  · refine ⟨_, ?_, rfl⟩
    rw [u64_of_lt (by omega)]
    omega
  · refine ⟨u64 (r.completed + max (map.points r.point).pollMs 5000), ?_, ?_⟩
    · rw [u64_of_lt (by omega)]
      omega
    · unfold customRequestFailed
      dsimp only
      split <;> rfl

/-- A request with a valid answer. -/
theorem customPollStep_valid {s : CustomPoll map} (hsafe : SafeMap map)
    (h : customPollStep s now reply = (s', some r)) (hclock : r.InClock) (hvalid : r.Valid) :
    s'.nextRequestMs = r.now + r.reply.result.elapsedMs + 250 ∧
      s'.nextDue = Function.update s.nextDue r.point
        (r.now + r.reply.result.elapsedMs + (map.points r.point).pollMs) ∧
      s'.acquired = Function.update s.acquired r.point true ∧
      s'.values = Function.update s.values r.point (r.applyTo (s.values r.point)).1 := by
  obtain ⟨-, -, -, -, rfl⟩ := customPollStep_request h
  have hroom := hclock.room
  have hpoll := hsafe.pollMs r.point
  have hcompleted := hclock.completed
  unfold customSettle
  rw [if_pos hvalid.1]
  refine ⟨?_, ?_, ?_, rfl⟩
  · change u64 (r.completed + 250) = _
    rw [u64_of_lt (by omega), hcompleted]
  · change Function.update s.nextDue r.point (u64 (r.completed + (map.points r.point).pollMs)) = _
    rw [u64_of_lt (by omega), hcompleted]
  · change (if (r.applyTo (s.values r.point)).2 then _ else _) = _
    rw [CustomRequest.applyTo_snd, if_pos hvalid.2]
    rfl

/-- A request that is answered by an exception. -/
theorem customPollStep_exception {s : CustomPoll map}
    (h : customPollStep s now reply = (s', some r)) (hclock : r.InClock)
    (herror : r.reply.result.error = .exception) (hcode : r.reply.result.exceptionCode ≠ 0) :
    s'.nextRequestMs ≤ r.now + r.reply.result.elapsedMs + 30000 ∧
      s'.acquired = s.acquired ∧
      s'.values = Function.update s.values r.point
        ((s.values r.point).grade .comm "Modbus read failed") := by
  obtain ⟨-, -, -, -, rfl⟩ := customPollStep_request h
  have hroom := hclock.room
  have hcompleted := hclock.completed
  unfold customSettle
  rw [if_neg (by rw [herror]; nofun)]
  unfold customRequestFailed
  simp only [if_neg hcode]
  refine ⟨?_, rfl, rfl⟩
  have hbackoff (n : Nat) : u64 (r.completed + backoffMs n) ≤ r.completed + 30000 :=
    u64_le.trans (Nat.add_le_add_left (backoffMs_bounds n).1 _)
  rw [← hcompleted]
  exact hbackoff _

theorem applyTo_valid_lastGoodMs {r : CustomRequest map} (h : r.Valid) (v : AtsValue) :
    (r.applyTo v).1.lastGoodMs = r.completed ∧ (r.applyTo v).1.quality = .good := by
  obtain ⟨a, ha⟩ := Option.isSome_iff_exists.mp (r.decoded_snd ▸ h.2)
  rw [CustomRequest.applyTo_of_some ha]
  exact ⟨rfl, rfl⟩

/-! ## Answered sweeps -/

/-- No more than `delay` after the first instant at which the next request may be issued. -/
def CustomPoll.Within (s : CustomPoll map) (delay now : Nat) : Prop :=
  ∀ t, s.nextRequestMs ≤ t → (∃ k, s.nextDue k ≤ t) → now ≤ t + delay

theorem CustomPoll.within_iff {s : CustomPoll map} :
    s.Within delay now ↔ ∀ k, now ≤ max s.nextRequestMs (s.nextDue k) + delay := by
  constructor
  · intro h k
    exact h _ (Nat.le_max_left _ _) ⟨k, Nat.le_max_right _ _⟩
  · intro h t hready hdue
    obtain ⟨k, hk⟩ := hdue
    have hlatest := h k
    omega

instance (s : CustomPoll map) (delay now : Nat) : Decidable (s.Within delay now) :=
  decidable_of_iff _ CustomPoll.within_iff.symm

instance decidableRequested (h : List (CustomLabel map)) : Decidable (∃ q, .request q ∈ h) :=
  match h with
  | [] => isFalse fun ⟨_, hq⟩ => nomatch hq
  | .request q :: _ => isTrue ⟨q, List.mem_cons_self⟩
  | .idle _ :: h | .offline _ :: h =>
    have := decidableRequested h
    decidable_of_iff (∃ q, .request q ∈ h) (by simp)

instance CustomRequest.decidableInClock (r : CustomRequest map) : Decidable r.InClock :=
  decidable_of_iff (r.now * 1000 < 2 ^ 64 ∧ r.reply.result.elapsedMs < 2 ^ 32)
    ⟨fun h => ⟨h.1, h.2⟩, fun h => ⟨h.now, h.elapsed⟩⟩

/-- Every request is answered within `elapsed`, those of the points `bad` by an exception and the others
by a valid response; but for the first one it is issued at most `gap` after it can be. -/
def Answered (bad : Fin map.count → Prop) (elapsed gap : Nat) (h : List (CustomLabel map))
    (s : CustomPoll map) : CustomLabel map → CustomPoll map → Prop
  | .idle _, _ => True
  | .offline _, _ => False
  | .request r, _ =>
    r.InClock ∧ r.reply.result.elapsedMs ≤ elapsed ∧
      (bad r.point → r.reply.result.error = .exception ∧ r.reply.result.exceptionCode ≠ 0) ∧
      (¬ bad r.point → r.Valid) ∧
      ((∃ q, .request q ∈ h) → s.Within gap r.now)

instance (bad : Fin map.count → Prop) [DecidablePred bad] (elapsed gap : Nat)
    (h : List (CustomLabel map)) (s : CustomPoll map) (l : CustomLabel map) (s' : CustomPoll map) :
    Decidable (Answered bad elapsed gap h s l s') :=
  match l with
  | .idle _ => isTrue trivial
  | .offline _ => isFalse id
  | .request r => inferInstanceAs (Decidable (r.InClock ∧ r.reply.result.elapsedMs ≤ elapsed ∧
      (bad r.point → r.reply.result.error = .exception ∧ r.reply.result.exceptionCode ≠ 0) ∧
      (¬ bad r.point → r.Valid) ∧ ((∃ q, .request q ∈ h) → s.Within gap r.now)))

/-- A point that was acquired and whose last request had a valid answer. -/
structure CustomPoll.Current (s : CustomPoll map) (i : Fin map.count) : Prop where
  good : (s.values i).quality = .good
  due : s.nextDue i = (s.values i).lastGoodMs + (map.points i).pollMs
  before : (s.values i).lastGoodMs + 250 ≤ s.nextRequestMs

open EarliestDue

/-- A request of another point keeps the wait of a point bounded. -/
theorem CustomTurn.onTime {s : CustomPoll map} {w : Fin map.count → Nat} (H : CustomTurn s r s')
    (hi : OnTime w bound s.nextDue (s.nextRequestMs + gap) 0 i) (hne : r.point ≠ i)
    (hwithin : s.Within gap r.now) (hslot : s'.nextRequestMs + gap ≤ r.now + w r.point)
    (hbound : w r.point + others w i ≤ bound) (hgap : gap + others w i ≤ bound) :
    OnTime w bound s'.nextDue (s'.nextRequestMs + gap) 0 i := by
  obtain ⟨d, hlater, hdue⟩ := H.later
  have hprompt : r.now ≤ max (s.nextRequestMs + gap) (s.nextDue i + gap) := by
    have hfirst := hwithin (max s.nextRequestMs (s.nextDue i)) (Nat.le_max_left _ _)
      ⟨i, Nat.le_max_right _ _⟩
    omega
  rw [hdue]
  exact hi.serve hne (H.earliest i) hprompt hslot hlater (Nat.le_refl 0) (by omega) (by omega)

/-- How long a request of a point keeps the poller, until the next one is issued. -/
def slotMs (bad : Fin map.count → Prop) [DecidablePred bad] (elapsed gap : Nat) (k : Fin map.count) :
    Nat :=
  if bad k then elapsed + 30000 + gap else elapsed + 250 + gap

/-- What is known of the points that are answered with valid responses. -/
structure Sweeping (bad : Fin map.count → Prop) [DecidablePred bad] (elapsed gap : Nat)
    (h : List (CustomLabel map)) (s : CustomPoll map) (i : Fin map.count) : Prop where
  started : ∃ q, .request q ∈ h
  current : s.Current i
  onTime : OnTime (slotMs bad elapsed gap) (elapsed + 30000 + gap + others (slotMs bad elapsed gap) i)
    s.nextDue (s.nextRequestMs + gap) 0 i
  quiet : OnTime (fun _ => elapsed + 250 + gap)
      (elapsed + 250 + gap + others (fun _ => elapsed + 250 + gap) i)
      s.nextDue (s.nextRequestMs + gap) 0 i ∨
    ∃ q, .request q ∈ h ∧ bad q.point ∧ (s.values i).lastGoodMs < q.now

section
variable {bad : Fin map.count → Prop} [DecidablePred bad] {s : CustomPoll map}

theorem slotMs_le (k : Fin map.count) : slotMs bad elapsed gap k ≤ elapsed + 30000 + gap := by
  unfold slotMs
  split <;> omega

/-- The point that was asked. -/
theorem Sweeping.asked (hsafe : SafeMap map) (hgap : gap ≤ 250)
    (hstep : customPollStep s now reply = (s', some r)) (hclock : r.InClock) (hvalid : r.Valid) :
    Sweeping bad elapsed gap (.request r :: h) s' r.point := by
  obtain ⟨hnext, hdue, -, hvalues⟩ := customPollStep_valid hsafe hstep hclock hvalid
  have hpoll := hsafe.pollMs r.point
  have hvalue : s'.values r.point = (r.applyTo (s.values r.point)).1 := by
    rw [hvalues, Function.update_self]
  obtain ⟨htime, hgood⟩ := applyTo_valid_lastGoodMs hvalid (s.values r.point)
  rw [hclock.completed] at htime
  have hdue' : s'.nextDue r.point = r.now + r.reply.result.elapsedMs + (map.points r.point).pollMs := by
    rw [hdue, Function.update_self]
  have hready : s'.nextRequestMs + gap ≤ s'.nextDue r.point := by omega
  exact {
    started := ⟨r, List.mem_cons_self⟩
    current := ⟨by rw [hvalue, hgood], by rw [hdue', hvalue, htime], by rw [hvalue, htime]; omega⟩
    onTime := .served hready (by omega)
    quiet := .inl (.served hready (by omega)) }

/-- Another point, when a request was answered. -/
theorem Sweeping.other (H : Sweeping bad elapsed gap h s i)
    (hstep : customPollStep s now reply = (s', some r)) (hturn : CustomTurn s r s')
    (hanswer : Answered bad elapsed gap h s (.request r) s') (hne : r.point ≠ i)
    (hvalue : s'.values i = s.values i)
    (hslot : s'.nextRequestMs ≤ r.now + elapsed + 30000)
    (hquick : ¬ bad r.point → s'.nextRequestMs ≤ r.now + elapsed + 250) :
    Sweeping bad elapsed gap (.request r :: h) s' i := by
  obtain ⟨hclock, -, -, -, hwithin⟩ := hanswer
  have hwithin := hwithin H.started
  have hready := hturn.ready
  have hbefore := H.current.before
  refine ⟨⟨r, List.mem_cons_self⟩, ⟨by rw [hvalue, H.current.good], ?_, ?_⟩, ?_, ?_⟩
  · obtain ⟨d, -, hdue⟩ := hturn.later
    rw [hdue, Function.update_of_ne hne.symm, hvalue, H.current.due]
  · have hwait := customPollStep_waits hstep (by rw [hclock.completed]; have := hclock.room; omega)
    rw [hclock.completed] at hwait
    rw [hvalue]
    omega
  · have hw : s'.nextRequestMs + gap ≤ r.now + slotMs bad elapsed gap r.point := by
      unfold slotMs
      split
      · omega
      · next hbad =>
        have hquick := hquick hbad
        omega
    have hle : slotMs bad elapsed gap r.point ≤ elapsed + 30000 + gap := slotMs_le _
    exact hturn.onTime H.onTime hne hwithin hw (by omega) (by omega)
  · by_cases hbad : bad r.point
    · exact .inr ⟨r, List.mem_cons_self, hbad, by rw [hvalue]; omega⟩
    · have hquick := hquick hbad
      rcases H.quiet with hon | ⟨q, hq, hbadq, hlate⟩
      · exact .inl (hturn.onTime hon hne hwithin (by omega) (Nat.le_refl _) (by omega))
      · exact .inr ⟨q, List.mem_cons_of_mem _ hq, hbadq, by rw [hvalue]; exact hlate⟩

/-- Every acquired point that is answered with valid responses, in every such run. -/
theorem Sweeping.ofRun (hsafe : SafeMap map) (hgap : gap ≤ 250)
    (run : StepSystem.RunWhere (customSystem map) (Answered bad elapsed gap) h s) :
    ∀ i, ¬ bad i → s.acquired i = true → Sweeping bad elapsed gap h s i := by
  induction run with
  | init hinit =>
    cases hinit
    intro i _ hacq
    cases hacq
  | @step h s l s' _ hstep hanswer ih =>
    cases customSystem_step hstep with
    | offline => cases hanswer
    | idle =>
      intro i hi hacq
      have H := ih i hi hacq
      refine ⟨H.started.imp fun _ => List.mem_cons_of_mem _, H.current, H.onTime,
        H.quiet.imp_right ?_⟩
      rintro ⟨q, hq, hlate⟩
      exact ⟨q, List.mem_cons_of_mem _ hq, hlate⟩
    | @request _ r hrequest =>
      have hturn := customPollStep_turn hsafe hrequest hanswer.1
      have helapsed := hanswer.2.1
      intro i hi hacq
      by_cases hbad : bad r.point
      · obtain ⟨herror, hcode⟩ := hanswer.2.2.1 hbad
        obtain ⟨hslot, hacquired, hvalues⟩ :=
          customPollStep_exception hrequest hanswer.1 herror hcode
        have hne : r.point ≠ i := fun heq => hi (heq ▸ hbad)
        have hvalue : s'.values i = s.values i := by
          rw [hvalues, Function.update_of_ne hne.symm]
        exact (ih i hi (hacquired ▸ hacq)).other hrequest hturn hanswer hne hvalue (by omega)
          fun h => absurd hbad h
      · have hvalid := hanswer.2.2.2.1 hbad
        by_cases heq : r.point = i
        · subst heq
          exact .asked hsafe hgap hrequest hanswer.1 hvalid
        · obtain ⟨hslot, -, hacquired, hvalues⟩ :=
            customPollStep_valid hsafe hrequest hanswer.1 hvalid
          have hvalue : s'.values i = s.values i := by
            rw [hvalues, Function.update_of_ne (Ne.symm heq)]
          rw [hacquired, Function.update_of_ne (Ne.symm heq)] at hacq
          exact (ih i hi hacq).other hrequest hturn hanswer heq hvalue (by omega)
            fun _ => by omega

end

end ModbusGateway
