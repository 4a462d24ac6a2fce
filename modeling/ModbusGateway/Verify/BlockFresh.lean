import ModbusGateway.Verify.BlockTiming
import ModbusGateway.Verify.IdentityGate
import ModbusGateway.Verify.PointQuality

/-!
# How old the scan blocks get

Three periods are enough for every scan block but the electrical overview, whatever the order of the
reads is: a block waits for each other block and for one identity recheck at most. The overview has 6 s,
and a sweep over the other blocks can take longer; it depends on what goes before it when it falls due
and on how long the answers take.
-/

namespace ModbusGateway
open EarliestDue

/-! ## A controller that answers -/

/-- No more than `delay` after the first instant at which the next request may be issued. -/
def GatewayPoll.Within (s : GatewayPoll) (delay now : Nat) : Prop :=
  ∀ t, s.nextRequestMs ≤ t →
    (s.profileValid = false ∨ s.profileCheckMs ≤ t ∨ ∃ b, s.nextDue b ≤ t) → now ≤ t + delay

theorem GatewayPoll.within_iff {s : GatewayPoll} : s.Within delay now ↔
    (s.profileValid = false → now ≤ s.nextRequestMs + delay) ∧
      now ≤ max s.nextRequestMs s.profileCheckMs + delay ∧
      ∀ b, now ≤ max s.nextRequestMs (s.nextDue b) + delay := by
  constructor
  · intro h
    refine ⟨fun hclosed => h _ (Nat.le_refl _) (.inl hclosed), ?_, fun b => ?_⟩
    · exact h _ (Nat.le_max_left _ _) (.inr (.inl (Nat.le_max_right _ _)))
    · exact h _ (Nat.le_max_left _ _) (.inr (.inr ⟨b, Nat.le_max_right _ _⟩))
  · rintro ⟨hclosed, hcheck, hdue⟩ t hready (h | h | ⟨b, hb⟩)
    · have hle := hclosed h
      omega
    · omega
    · have hle := hdue b
      omega

instance GatewayPoll.decidableWithin (s : GatewayPoll) (delay now : Nat) :
    Decidable (s.Within delay now) :=
  decidable_of_iff _ GatewayPoll.within_iff.symm

instance decidableIssued (h : List PollLabel) : Decidable (∃ q, PollLabel.request q ∈ h) :=
  match h with
  | [] => isFalse fun ⟨_, hq⟩ => nomatch hq
  | .request q :: _ => isTrue ⟨q, List.mem_cons_self⟩
  | .idle _ :: h | .offline _ :: h =>
    have := decidableIssued h
    decidable_of_iff (∃ q, .request q ∈ h) (by simp)

instance PollRequest.decidableConfirms (c : GatewayPollConfig) (stage : Nat) (r : PollRequest) :
    Decidable (r.Confirms c stage) := by
  unfold PollRequest.Confirms
  split <;> infer_instance

/-- Every identity check is passed and every read succeeds, within 100 ms; but for the first one, a
request is issued in the first instant in which it can be. -/
def Healthy (c : GatewayPollConfig) (h : List PollLabel) (s : GatewayPoll) :
    PollLabel → GatewayPoll → Prop
  | .idle _, _ => True
  | .offline _, _ => False
  | .request r, _ =>
    r.InClock ∧ r.reply.result.elapsedMs ≤ 100 ∧
      (r.block = none → r.Confirms c (recheckProfile s r.now).profileStage) ∧
      (r.block ≠ none → r.reply.result.error = .ok) ∧
      ((∃ q, .request q ∈ h) → s.Within 0 r.now)

instance decidableHealthy (c : GatewayPollConfig) (h : List PollLabel) (s : GatewayPoll) (l : PollLabel)
    (s' : GatewayPoll) : Decidable (Healthy c h s l s') :=
  match l with
  | .idle _ => isTrue trivial
  | .offline _ => isFalse id
  | .request r => inferInstanceAs (Decidable (r.InClock ∧ r.reply.result.elapsedMs ≤ 100 ∧
      (r.block = none → r.Confirms c (recheckProfile s r.now).profileStage) ∧
      (r.block ≠ none → r.reply.result.error = .ok) ∧
      ((∃ q, .request q ∈ h) → s.Within 0 r.now)))

/-! ## One request -/

/-- The identity checks that are outstanding. -/
def checksLeft (s : GatewayPoll) : Nat := if s.profileValid then 0 else 4 - s.profileStage

/-- What a request of a controller that answers can be. -/
inductive Served (s : GatewayPoll) (r : PollRequest) (s' : GatewayPoll) : Prop
  | check (block : r.block = none) (model : s'.model = s.model) (due : s'.nextDue = s.nextDue)
    (next : s'.nextRequestMs = r.now + r.reply.result.elapsedMs + 250)
    (left : checksLeft s' + 1 = checksLeft (recheckProfile s r.now))
    (closed : (recheckProfile s r.now).profileValid = false)
    (reopened : s'.profileValid = true →
      s'.profileCheckMs = r.now + r.reply.result.elapsedMs + 300000)
  | read (b : BlockIndex) (block : r.block = some b) (opened : s.profileValid = true)
    (early : r.now < s.profileCheckMs) (opened' : s'.profileValid = true)
    (kept : s'.profileCheckMs = s.profileCheckMs)
    (next : s'.nextRequestMs = r.now + r.reply.result.elapsedMs + 250)
    (earliest : earliestDue s.nextDue r.now = some b)
    (due : s'.nextDue = Function.update s.nextDue b
      (r.now + r.reply.result.elapsedMs + (atsScanBlocks b).periodMs))
    (others : ∀ k, k ≠ b → s'.model k = s.model k) (acquired : (s'.model b).acquired = true)
    (good : (s'.model b).failed = false)
    (time : (s'.model b).lastGoodMs = r.now + r.reply.result.elapsedMs)

theorem gatewayPollStep_served {s : GatewayPoll} (h : gatewayPollStep c s now reply = (s', some r))
    (hhealthy : Healthy c hist s (.request r) s')
    (hstage : s.profileValid = false → s.profileStage ≤ 3)
    (hpast : ∀ b, (s.model b).lastGoodMs ≤ r.now) : Served s r s' := by
  obtain ⟨hclock, -, hconf, hok, -⟩ := hhealthy
  cases hb : r.block with
  | none =>
    have hle : (recheckProfile s r.now).profileStage ≤ 3 := by
      obtain ⟨-, hnow, -, hchoose, -⟩ := gatewayPollStep_request h
      subst hnow
      rw [hb] at hchoose
      exact recheckProfile_stage_le hstage (chooseRequest_identity hchoose).1
    obtain ⟨hclosed, hmodel, hnext, hgate⟩ := gatewayPollStep_confirmed h hb hclock hle (hconf hb)
    have hdue := gatewayPollStep_identity_nextDue h hb
    rcases hgate with ⟨hlt, hvalid, hstage'⟩ | ⟨heq, hvalid, hcheck⟩
    · refine .check hb hmodel hdue hnext ?_ hclosed fun hopen => ?_
      · simp only [checksLeft, hclosed, hvalid, hstage', Bool.false_eq_true, if_false]
        omega
      · rw [hvalid] at hopen
        cases hopen
    · refine .check hb hmodel hdue hnext ?_ hclosed fun _ => hcheck
      simp only [checksLeft, hclosed, hvalid, heq, Bool.false_eq_true, if_false, if_true]
  | some b =>
    obtain ⟨hopen, hearly, hopen', hkept, hnext, hdue, hothers, hacq, hgood, htime⟩ :=
      gatewayPollStep_read h hb hclock (hok (by rw [hb]; nofun)) (hpast b)
    have hearliest : earliestDue s.nextDue r.now = some b := by
      obtain ⟨-, hnow, -, hchoose, -⟩ := gatewayPollStep_request h
      subst hnow
      rw [hb] at hchoose
      have hpicked := (chooseRequest_data hchoose).2.1
      rwa [recheckProfile_nextDue] at hpicked
    exact .read b hb hopen hearly hopen' hkept hnext hearliest hdue hothers hacq hgood htime

theorem Served.next {s s' : GatewayPoll} (H : Served s r s') :
    s'.nextRequestMs = r.now + r.reply.result.elapsedMs + 250 := by
  cases H <;> assumption

/-! ## Runs -/

/-- The pace of the requests. -/
structure Paced (h : List PollLabel) (s : GatewayPoll) : Prop where
  stage : s.profileValid = false → s.profileStage ≤ 3
  past : ∀ q, .request q ∈ h → q.now ≤ s.nextRequestMs
  recent : (∃ q, .request q ∈ h) → ∃ q, .request q ∈ h ∧ s.nextRequestMs ≤ q.now + 350
  before : ∀ b, (s.model b).lastGoodMs ≤ s.nextRequestMs

/-- The identity checks that may go before a block that is due. -/
def checksFor (s : GatewayPoll) (b : BlockIndex) : Nat :=
  if s.profileValid ∧ s.profileCheckMs ≤ s.nextDue b + 9450 then 4 else checksLeft s

/-- What is known of a block that was read. -/
structure Serviced (h : List PollLabel) (s : GatewayPoll) (b : BlockIndex) : Prop where
  started : ∃ q, .request q ∈ h
  good : (s.model b).failed = false
  due : s.nextDue b = (s.model b).lastGoodMs + (atsScanBlocks b).periodMs
  onTime : OnTime (fun _ => 350) 9450 s.nextDue s.nextRequestMs (350 * checksFor s b) b

theorem others_blocks (b : BlockIndex) : others (fun _ => 350) b = 7700 := by
  revert b
  decide

theorem checksLeft_le (s : GatewayPoll) : checksLeft s ≤ 4 := by
  unfold checksLeft
  split <;> omega

/-- A recheck is due and starts over, or the state stays as it is. -/
theorem checksLeft_recheck (s : GatewayPoll) (now : Nat) :
    (s.profileValid = true ∧ s.profileCheckMs ≤ now ∧ checksLeft (recheckProfile s now) = 4) ∨
      (¬ (s.profileValid = true ∧ s.profileCheckMs ≤ now) ∧ recheckProfile s now = s) := by
  unfold recheckProfile
  split
  · next h => exact .inl ⟨h.1, h.2, rfl⟩
  · next h => exact .inr ⟨h, rfl⟩

theorem recheckProfile_of_early {s : GatewayPoll} (h : now < s.profileCheckMs) : recheckProfile s now = s := by
  unfold recheckProfile
  rw [if_neg fun hdue => Nat.not_le_of_lt h hdue.2]

theorem checksFor_le (s : GatewayPoll) (b : BlockIndex) : checksFor s b ≤ 4 := by
  have hle := checksLeft_le s
  unfold checksFor
  split <;> omega

theorem Paced.ofServed {s s' : GatewayPoll} (H : Paced h s) (hready : s.nextRequestMs ≤ r.now)
    (helapsed : r.reply.result.elapsedMs ≤ 100) (hserved : Served s r s')
    (hstage : s'.profileValid = false → s'.profileStage ≤ 3) : Paced (.request r :: h) s' := by
  have hnext := hserved.next
  refine ⟨hstage, fun q hq => ?_, fun _ => ⟨r, List.mem_cons_self, by omega⟩, fun b => ?_⟩
  · rcases List.mem_cons.mp hq with hq | hq
    · cases hq
      omega
    · have hpast := H.past q hq
      omega
  · have hbefore := H.before b
    cases hserved with
    | check _ hmodel =>
      rw [hmodel]
      omega
    | read k _ _ _ _ _ _ _ _ hothers _ _ htime =>
      by_cases hb : b = k
      · subst hb
        omega
      · rw [hothers b hb]
        omega

/-- The first instant for the next request is no later than any block is due. -/
theorem GatewayPoll.Within.le {s : GatewayPoll} (h : s.Within delay now) (b : BlockIndex) :
    now ≤ max s.nextRequestMs (s.nextDue b) + delay :=
  (GatewayPoll.within_iff.mp h).2.2 b

/-- A block that is read now. -/
theorem Serviced.ofRead {s' : GatewayPoll}
    (hnext : s'.nextRequestMs = r.now + r.reply.result.elapsedMs + 250)
    (hdue : s'.nextDue b = r.now + r.reply.result.elapsedMs + (atsScanBlocks b).periodMs)
    (hgood : (s'.model b).failed = false)
    (htime : (s'.model b).lastGoodMs = r.now + r.reply.result.elapsedMs) :
    Serviced (.request r :: h) s' b := by
  have hperiod := atsScanBlocks_periodMs b
  have hchecks := checksFor_le s' b
  have hothers := others_blocks b
  exact ⟨⟨r, List.mem_cons_self⟩, hgood, by rw [hdue, htime], .served (by omega) (by omega)⟩

/-- A block that is not read now. -/
theorem Serviced.ofOther {s s' : GatewayPoll} (H : Serviced h s b) (P : Paced h s)
    (hready : s.nextRequestMs ≤ r.now) (helapsed : r.reply.result.elapsedMs ≤ 100)
    (hwithin : s.Within 0 r.now) (hserved : Served s r s') (hb : r.block ≠ some b) :
    Serviced (.request r :: h) s' b := by
  have hprompt : r.now ≤ max s.nextRequestMs (s.nextDue b + 0) := hwithin.le b
  have hothers := others_blocks b
  have hbound := H.onTime.ready_le
  have hbefore := P.before b
  have hperiod := atsScanBlocks_periodMs b
  have hdueb := H.due
  have hchecks := checksFor_le s b
  cases hserved with
  | check _ hmodel hdue hnext hsub hclosed hreopened =>
    -- A check takes one off the checks that may go before the block.
    have hlater : checksFor s' b = checksLeft s' := by
      unfold checksFor
      rw [if_neg]
      rintro ⟨hopen, hcheck⟩
      rw [hreopened hopen, hdue] at hcheck
      omega
    have hfewer : checksFor s' b + 1 ≤ checksFor s b := by
      rw [hlater, hsub]
      unfold checksFor
      rcases checksLeft_recheck s r.now with ⟨hopen, hcheck, hfour⟩ | ⟨-, hsame⟩
      · rw [hfour, if_pos ⟨hopen, by omega⟩]
      · have hle := checksLeft_le s
        rw [hsame]
        split <;> omega
    refine ⟨⟨r, List.mem_cons_self⟩, by rw [hmodel, H.good], by rw [hdue, hmodel, H.due], ?_⟩
    have hslot : s'.nextRequestMs ≤ r.now + 350 := by omega
    rw [hdue]
    exact H.onTime.work hprompt hslot (fun _ => by omega) (by omega) (by omega)
  | read k hk hopen _ hopen' hkept hnext hearliest hdue hothersSame =>
    have hne : k ≠ b := fun heq => hb (by rw [hk, heq])
    have hdueb' : s'.nextDue b = s.nextDue b := by rw [hdue, Function.update_of_ne hne.symm]
    have hsame : checksFor s' b = checksFor s b := by
      simp only [checksFor, checksLeft, hopen, hopen', hkept, hdueb', if_true]
    refine ⟨⟨r, List.mem_cons_self⟩, by rw [hothersSame b hne.symm, H.good],
      by rw [hdueb', hothersSame b hne.symm, H.due], ?_⟩
    have hslot : s'.nextRequestMs ≤ r.now + 350 := by omega
    have hperiodk := atsScanBlocks_periodMs k
    rw [hdue]
    exact H.onTime.serve hne (fun hdue => earliestDue_le hearliest hdue) hprompt hslot (by omega)
      (by omega) (by omega) (by omega)

/-- The run of a controller that answers: its pace, and every block that was read. -/
theorem healthy_serviced
    (run : StepSystem.RunWhere (pollSystem c) (Healthy c) h s) :
    Paced h s ∧ ∀ b, (s.model b).acquired = true → Serviced h s b := by
  induction run with
  | init hinit =>
    cases hinit
    refine ⟨⟨fun _ => Nat.zero_le 3, fun _ hq => (by cases hq), ?_, fun b => Nat.le_refl 0⟩, ?_⟩
    · rintro ⟨q, hq⟩
      cases hq
    · intro b hacq
      cases hacq
  | @step h s l s' hbefore hstep hhealthy ih =>
    obtain ⟨P, H⟩ := ih
    have hstage : s'.profileValid = false → s'.profileStage ≤ 3 :=
      profileStage_le (hbefore.run.step hstep)
    cases pollSystem_step hstep with
    | offline => cases hhealthy
    | @idle now =>
      have hmem (q : PollRequest) (hq : PollLabel.request q ∈ .idle now :: h) :
          .request q ∈ h := by
        rcases List.mem_cons.mp hq with hq | hq
        · cases hq
        · exact hq
      refine ⟨⟨P.stage, fun q hq => P.past q (hmem q hq), ?_, P.before⟩, ?_⟩
      · rintro ⟨q, hq⟩
        obtain ⟨q', hq', hle⟩ := P.recent ⟨q, hmem q hq⟩
        exact ⟨q', List.mem_cons_of_mem _ hq', hle⟩
      · intro b hacq
        have Hb := H b hacq
        exact ⟨Hb.started.imp fun _ => List.mem_cons_of_mem _, Hb.good, Hb.due, Hb.onTime⟩
    | @request _ r hrequest =>
      obtain ⟨hready, -, -, -, -⟩ := gatewayPollStep_request hrequest
      have hserved := gatewayPollStep_served hrequest hhealthy P.stage fun b =>
        (P.before b).trans hready
      obtain ⟨-, helapsed, -, -, hwithin⟩ := hhealthy
      refine ⟨P.ofServed hready helapsed hserved hstage, fun b hacq => ?_⟩
      by_cases hb : r.block = some b
      · cases hserved with
        | check hnone =>
          rw [hnone] at hb
          cases hb
        | read k hk _ _ _ _ hnext _ hdue _ _ hgood htime =>
          obtain rfl : k = b := Option.some.inj (hk.symm.trans hb)
          exact .ofRead hnext (by rw [hdue, Function.update_self]) hgood htime
      · have hacq' : (s.model b).acquired = true := by
          cases hserved with
          | check _ hmodel => rwa [hmodel] at hacq
          | read k hk _ _ _ _ _ _ _ hothers =>
            rwa [hothers b fun heq => hb (by rw [hk, heq])] at hacq
        have Hb := H b hacq'
        exact Hb.ofOther P hready helapsed (hwithin Hb.started) hserved hb

/-! ## The overview -/

/-- The blocks that are due before the overview. -/
def earlier (s : GatewayPoll) : Nat :=
  (Finset.univ.filter fun b => s.nextDue b < s.nextDue 0).card

/-- The requests that go before the overview once it is due. -/
def ahead (s : GatewayPoll) : Nat := checksLeft s + earlier s

def requestCount : List PollLabel → Nat
  | [] => 0
  | .request _ :: h => requestCount h + 1
  | .idle _ :: h | .offline _ :: h => requestCount h

/-- From the start of request `n` to the answer of the one that `left` requests go before, when request `i`
takes `elapsed i`. -/
def untilAnswer (elapsed : Nat → Nat) : (n left : Nat) → Nat
  | n, 0 => elapsed n
  | n, left + 1 => elapsed n + 250 + untilAnswer elapsed (n + 1) left

/-- The answers come within the times of `elapsed`. -/
def Timed (elapsed : Nat → Nat) (h : List PollLabel) : PollLabel → Prop
  | .request r => r.reply.result.elapsedMs ≤ elapsed (requestCount h)
  | .idle _ | .offline _ => True

/-- When the overview is due and none of the requests since then has been made, or a recheck starts: the
requests that go before it, with their answers and 250 ms each, leave time for its own. -/
def Roomy (elapsed : Nat → Nat) (h : List PollLabel) (s : GatewayPoll) : PollLabel → Prop
  | .request r =>
    (s.model 0).acquired = true → s.nextDue 0 ≤ r.now →
      ((∀ q, .request q ∈ h → q.now < s.nextDue 0) ∨
        s.profileValid = true ∧ s.profileCheckMs ≤ r.now) →
      r.now + untilAnswer elapsed (requestCount h) (ahead (recheckProfile s r.now)) ≤
        (s.model 0).lastGoodMs + 6000
  | .idle _ | .offline _ => True

instance decidableAllBefore (h : List PollLabel) (due : Nat) :
    Decidable (∀ q, PollLabel.request q ∈ h → q.now < due) :=
  match h with
  | [] => isTrue nofun
  | .request q :: h =>
    have := decidableAllBefore h due
    decidable_of_iff (q.now < due ∧ ∀ q, .request q ∈ h → q.now < due) (by simp)
  | .idle _ :: h | .offline _ :: h =>
    have := decidableAllBefore h due
    decidable_of_iff (∀ q, .request q ∈ h → q.now < due) (by simp)

instance decidableTimed (elapsed : Nat → Nat) (h : List PollLabel) :
    (l : PollLabel) → Decidable (Timed elapsed h l)
  | .request r => inferInstanceAs (Decidable (r.reply.result.elapsedMs ≤ elapsed (requestCount h)))
  | .idle _ | .offline _ => inferInstanceAs (Decidable True)

instance decidableRoomy (elapsed : Nat → Nat) (h : List PollLabel) (s : GatewayPoll) :
    (l : PollLabel) → Decidable (Roomy elapsed h s l)
  | .request r =>
    inferInstanceAs (Decidable ((s.model 0).acquired = true → s.nextDue 0 ≤ r.now →
      ((∀ q, .request q ∈ h → q.now < s.nextDue 0) ∨
        s.profileValid = true ∧ s.profileCheckMs ≤ r.now) →
      r.now + untilAnswer elapsed (requestCount h) (ahead (recheckProfile s r.now)) ≤
        (s.model 0).lastGoodMs + 6000))
  | .idle _ | .offline _ => inferInstanceAs (Decidable True)

/-- More requests ahead take longer. -/
theorem untilAnswer_mono {elapsed : Nat → Nat} (hle : left ≤ left') :
    untilAnswer elapsed n left ≤ untilAnswer elapsed n left' := by
  induction left generalizing n left' with
  | zero =>
    cases left' with
    | zero => exact Nat.le_refl _
    | succ left' => exact (Nat.le_add_right _ _).trans (Nat.le_add_right _ _)
  | succ left ih =>
    cases left' with
    | zero => cases hle
    | succ left' => exact Nat.add_le_add_left (ih (Nat.le_of_succ_le_succ hle)) _

theorem earlier_serve {s s' : GatewayPoll} (hk : s.nextDue k < s.nextDue 0)
    (hlater : s.nextDue 0 < d) (hdue : s'.nextDue = Function.update s.nextDue k d) :
    earlier s' + 1 = earlier s := by
  have hne : (0 : BlockIndex) ≠ k := by
    rintro rfl
    exact Nat.lt_irrefl _ hk
  have herase : (Finset.univ.filter fun b => s'.nextDue b < s'.nextDue 0) =
      (Finset.univ.filter fun b => s.nextDue b < s.nextDue 0).erase k := by
    ext b
    rw [Finset.mem_erase, Finset.mem_filter, Finset.mem_filter, hdue, Function.update_of_ne hne]
    by_cases hb : b = k
    · subst hb
      rw [Function.update_self]
      have hlate : ¬ d < s.nextDue 0 := Nat.not_lt_of_le hlater.le
      simp [hlate]
    · rw [Function.update_of_ne hb]
      simp [hb]
  unfold earlier
  rw [herase]
  exact Finset.card_erase_add_one (Finset.mem_filter.mpr ⟨Finset.mem_univ k, hk⟩)

/-- The overview is not due yet, or what goes before it leaves time for it. -/
def InTime (elapsed : Nat → Nat) (h : List PollLabel) (s : GatewayPoll) : Prop :=
  (s.model 0).acquired = true → (∀ q, .request q ∈ h → q.now < s.nextDue 0) ∨
    s.nextRequestMs + untilAnswer elapsed (requestCount h) (ahead s) ≤ (s.model 0).lastGoodMs + 6000

/-- What is not the reading of the overview leaves it as it is. -/
theorem Served.other {s s' : GatewayPoll} (hserved : Served s r s') (hb : r.block ≠ some 0) :
    s'.model 0 = s.model 0 ∧ s'.nextDue 0 = s.nextDue 0 := by
  cases hserved with
  | check _ hmodel hdue => exact ⟨by rw [hmodel], by rw [hdue]⟩
  | read k hk _ _ _ _ _ _ hdue hothers =>
    have hne : (0 : BlockIndex) ≠ k := fun heq => hb (by rw [hk, heq])
    exact ⟨hothers 0 hne, by rw [hdue, Function.update_of_ne hne]⟩

/-- A request that goes before the overview is one less ahead of it. -/
theorem ahead_served {s s' : GatewayPoll} (hserved : Served s r s') (hb : r.block ≠ some 0)
    (hdue : s.nextDue 0 ≤ r.now) : ahead s' + 1 = ahead (recheckProfile s r.now) := by
  cases hserved with
  | check _ _ hsame _ hleft =>
    have heq : earlier s' = earlier (recheckProfile s r.now) := by
      unfold earlier
      rw [hsame, recheckProfile_nextDue]
    unfold ahead
    omega
  | read k hk hopen hearly hopen' _ _ hearliest hnew =>
    have hne : k ≠ 0 := fun heq => hb (by rw [hk, heq])
    have hlt : s.nextDue k < s.nextDue 0 := earliestDue_lt_zero hearliest hne hdue
    have hperiod := atsScanBlocks_periodMs k
    have hserve : earlier s' + 1 = earlier s := earlier_serve hlt (by omega) hnew
    rw [recheckProfile_of_early hearly, ahead, ahead, checksLeft, if_pos hopen', checksLeft, if_pos hopen]
    omega

/-- Nothing is ahead of the overview when it is read. -/
theorem ahead_read {s s' : GatewayPoll} (hserved : Served s r s') (hb : r.block = some 0)
    (hdue : s.nextDue 0 ≤ r.now) : ahead (recheckProfile s r.now) = 0 := by
  cases hserved with
  | check hnone =>
    rw [hnone] at hb
    cases hb
  | read k hk hopen hearly _ _ _ hearliest =>
    obtain rfl : k = 0 := Option.some.inj (hk.symm.trans hb)
    have hfirst : earlier s = 0 := by
      refine Finset.card_eq_zero.mpr (Finset.filter_eq_empty_iff.mpr fun b _ hlt => ?_)
      have hle := earliestDue_le hearliest (hlt.le.trans hdue)
      exact Nat.lt_irrefl _ (hlt.trans_le hle)
    rw [recheckProfile_of_early hearly, ahead, checksLeft, if_pos hopen, hfirst]

theorem InTime.ofServed {s s' : GatewayPoll} (H : InTime elapsed h s) (P : Paced h s)
    (hserviced : (s.model 0).acquired = true → Serviced h s 0)
    (hready : s.nextRequestMs ≤ r.now) (htimed : Timed elapsed h (.request r))
    (hwithin : (∃ q, .request q ∈ h) → s.Within 0 r.now) (hserved : Served s r s')
    (hroomy : Roomy elapsed h s (.request r)) : InTime elapsed (.request r :: h) s' := by
  intro hacq'
  have hnext := hserved.next
  by_cases hb : r.block = some 0
  · -- The overview itself was read, and is due again later.
    cases hserved with
    | check hnone =>
      rw [hnone] at hb
      cases hb
    | read k hk _ _ _ _ _ _ hdue =>
      obtain rfl : k = 0 := Option.some.inj (hk.symm.trans hb)
      refine .inl fun q hq => ?_
      have hperiod := atsScanBlocks_periodMs 0
      rw [hdue, Function.update_self]
      rcases List.mem_cons.mp hq with hq | hq
      · cases hq
        omega
      · have hpast := P.past q hq
        omega
  · obtain ⟨hmodel, hdue⟩ := hserved.other hb
    rw [hmodel] at hacq'
    rw [hmodel, hdue]
    by_cases hlate : s.nextDue 0 ≤ r.now
    · have hfewer := ahead_served hserved hb hlate
      have hroom : r.now + untilAnswer elapsed (requestCount h) (ahead (recheckProfile s r.now)) ≤
          (s.model 0).lastGoodMs + 6000 := by
        rcases H hacq' with hfirst | hintime
        · exact hroomy hacq' hlate (.inl hfirst)
        · rcases checksLeft_recheck s r.now with ⟨hopen, hcheck, -⟩ | ⟨-, hsame⟩
          · exact hroomy hacq' hlate (.inr ⟨hopen, hcheck⟩)
          · by_cases hfirst : ∀ q, .request q ∈ h → q.now < s.nextDue 0
            · exact hroomy hacq' hlate (.inl hfirst)
            · -- The wait has begun: the request is made as soon as the pause is over.
              have hwaiting : s.nextDue 0 ≤ s.nextRequestMs := by
                refine Nat.le_of_not_lt fun hlt => hfirst fun q hq => ?_
                exact (P.past q hq).trans_lt hlt
              have hle := (hwithin (hserviced hacq').started).le 0
              rw [hsame]
              omega
      have hspan : untilAnswer elapsed (requestCount h) (ahead s' + 1) ≤
          untilAnswer elapsed (requestCount h) (ahead (recheckProfile s r.now)) := untilAnswer_mono hfewer.le
      refine .inr ?_
      rw [untilAnswer] at hspan
      unfold Timed at htimed
      rw [requestCount]
      omega
    · refine .inl fun q hq => ?_
      rcases List.mem_cons.mp hq with hq | hq
      · cases hq
        omega
      · have hpast := P.past q hq
        omega

theorem InTime.ofRun (run : StepSystem.RunWhere (pollSystem c)
    (fun h s l s' => Healthy c h s l s' ∧ Timed elapsed h l ∧ Roomy elapsed h s l) h s) :
    InTime elapsed h s := by
  induction run with
  | init hinit =>
    cases hinit
    intro hacq
    cases hacq
  | @step h s l s' hbefore hstep hcond ih =>
    obtain ⟨hhealthy, htimed, hroomy⟩ := hcond
    obtain ⟨P, H⟩ := healthy_serviced (hbefore.mono fun _ _ _ _ h => h.1)
    cases pollSystem_step hstep with
    | offline => cases hhealthy
    | @idle now =>
      intro hacq
      refine (ih hacq).imp_left fun hfirst q hq => ?_
      rcases List.mem_cons.mp hq with hq | hq
      · cases hq
      · exact hfirst q hq
    | @request _ r hrequest =>
      obtain ⟨hready, -, -, -, -⟩ := gatewayPollStep_request hrequest
      have hserved := gatewayPollStep_served hrequest hhealthy P.stage fun b =>
        (P.before b).trans hready
      exact ih.ofServed P (H 0) hready htimed hhealthy.2.2.2.2 hserved hroomy

/-! ## The age of the blocks -/

/-- The answers take as long as `elapsed` says. -/
def Exact (elapsed : Nat → Nat) (h : List PollLabel) : PollLabel → Prop
  | .request r => r.reply.result.elapsedMs = elapsed (requestCount h)
  | .idle _ | .offline _ => True

/-- The overview waits, and what goes before it does not leave time for it. -/
structure Late (elapsed : Nat → Nat) (h : List PollLabel) (s : GatewayPoll) : Prop where
  acquired : (s.model 0).acquired = true
  due : s.nextDue 0 ≤ s.nextRequestMs
  late : (s.model 0).lastGoodMs + 6000 < s.nextRequestMs + untilAnswer elapsed (requestCount h) (ahead s)

/-- The overview has been stale before its answer came. -/
def WentStale (c : GatewayPollConfig) (elapsed : Nat → Nat) (h : List PollLabel) : Prop :=
  ∃ older s₀ now, older <:+ h ∧ StepSystem.RunWhere (pollSystem c) (Healthy c) older s₀ ∧
    (s₀.model 0).acquired = true ∧ s₀.Within (elapsed (requestCount older)) now ∧
    (atsScanBlocks 0).staleMs < now - (s₀.model 0).lastGoodMs

theorem WentStale.cons (H : WentStale c elapsed h) (l : PollLabel) : WentStale c elapsed (l :: h) := by
  obtain ⟨older, s₀, now, hsuffix, hstale⟩ := H
  exact ⟨older, s₀, now, hsuffix.trans (List.suffix_cons l h), hstale⟩

/-- A request in a wait that ends too late is the reading of the overview, or it still does. -/
theorem late_served {s s' : GatewayPoll} (hserved : Served s r s') (htimed : Exact elapsed h (.request r))
    (hacq : (s.model 0).acquired = true) (hdue : s.nextDue 0 ≤ r.now)
    (hlate : (s.model 0).lastGoodMs + 6000 <
      r.now + untilAnswer elapsed (requestCount h) (ahead (recheckProfile s r.now))) :
    (s.model 0).lastGoodMs + 6000 < r.now + elapsed (requestCount h) ∨ Late elapsed (.request r :: h) s' := by
  by_cases hb : r.block = some 0
  · rw [ahead_read hserved hb hdue] at hlate
    exact .inl hlate
  · obtain ⟨hmodel, hsame⟩ := hserved.other hb
    have hnext := hserved.next
    rw [← ahead_served hserved hb hdue, untilAnswer, ← (htimed : _ = elapsed _)] at hlate
    refine .inr ⟨by rw [hmodel, hacq], by omega, ?_⟩
    rw [hmodel, requestCount]
    omega

theorem ahead_recheck (s : GatewayPoll) (now : Nat) : ahead s ≤ ahead (recheckProfile s now) := by
  rcases checksLeft_recheck s now with ⟨hopen, -, hfour⟩ | ⟨-, hsame⟩
  · unfold ahead earlier
    rw [recheckProfile_nextDue, hfour, checksLeft, if_pos hopen]
    omega
  · rw [hsame]

/-- In a run of a controller that answers, where the test fails the overview gets stale: it has been, or it
waits and will be when it is read. -/
theorem atsSweep_late (run : StepSystem.RunWhere (pollSystem c)
    (fun h s l s' => Healthy c h s l s' ∧ Exact elapsed h l) h s) :
    StepSystem.RunWhere (pollSystem c)
        (fun h s l s' => Healthy c h s l s' ∧ Timed elapsed h l ∧ Roomy elapsed h s l) h s ∨
      Late elapsed h s ∨ WentStale c elapsed h := by
  induction run with
  | init hinit => exact .inl (.init hinit)
  | @step h s l s' hbefore hstep hcond ih =>
    obtain ⟨hhealthy, htimed⟩ := hcond
    have hrun := hbefore.mono fun _ _ _ _ h => h.1
    obtain ⟨P, H⟩ := healthy_serviced hrun
    cases pollSystem_step hstep with
    | offline => cases hhealthy
    | @idle now =>
      rcases ih with hroomy | hlate | hstale
      · exact .inl (hroomy.step hstep ⟨trivial, trivial, trivial⟩)
      · exact .inr (.inl ⟨hlate.acquired, hlate.due, hlate.late⟩)
      · exact .inr (.inr (hstale.cons _))
    | @request _ r hrequest =>
      obtain ⟨hready, -, -, -, -⟩ := gatewayPollStep_request hrequest
      have hserved := gatewayPollStep_served hrequest hhealthy P.stage fun b =>
        (P.before b).trans hready
      have hends (hacq : (s.model 0).acquired = true) (hdue : s.nextDue 0 ≤ r.now)
          (hlate : (s.model 0).lastGoodMs + 6000 <
            r.now + untilAnswer elapsed (requestCount h) (ahead (recheckProfile s r.now))) :
          Late elapsed (.request r :: h) s' ∨ WentStale c elapsed (.request r :: h) := by
        refine (late_served hserved htimed hacq hdue hlate).symm.imp_right fun hstale => ?_
        have hwithin := hhealthy.2.2.2.2 (H 0 hacq).started
        refine ⟨h, s, r.now + elapsed (requestCount h), List.suffix_cons _ _, hrun, hacq,
          fun t ht hwork => Nat.add_le_add_right (hwithin t ht hwork) _, ?_⟩
        have hlimit : (atsScanBlocks 0).staleMs = 6000 := rfl
        omega
      rcases ih with hroomy | hlate | hstale
      · by_cases htest : Roomy elapsed h s (.request r)
        · exact .inl (hroomy.step hstep ⟨hhealthy, Nat.le_of_eq htimed, htest⟩)
        · unfold Roomy at htest
          simp only [Classical.not_imp, Nat.not_le] at htest
          obtain ⟨hacq, hdue, -, hfails⟩ := htest
          exact .inr (hends hacq hdue hfails)
      · have hmore : untilAnswer elapsed (requestCount h) (ahead s) ≤
            untilAnswer elapsed (requestCount h) (ahead (recheckProfile s r.now)) :=
          untilAnswer_mono (ahead_recheck s r.now)
        exact .inr (hends hlate.acquired (hlate.due.trans hready) (by have := hlate.late; omega))
      · exact .inr (.inr (hstale.cons _))

end ModbusGateway
