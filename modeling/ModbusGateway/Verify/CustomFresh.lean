import ModbusGateway.Verify.CustomTiming

/-!
# How old the points of a custom map get

`custom_map_stale_ms` leaves room for a sweep over all points at the pace of a healthy peer, whatever
the poll intervals are. It leaves none for the pause after an exception: one point that is answered by
exceptions makes the others stale, and never more than that.
-/

namespace ModbusGateway
open EarliestDue

variable {map : CustomMap}

theorem others_const (q : Nat) (i : Fin map.count) :
    others (fun _ => q) i = (map.count - 1) * q := by
  unfold others
  rw [Finset.sum_const_nat fun _ _ => rfl, Finset.card_erase_of_mem (Finset.mem_univ i),
    Finset.card_univ, Fintype.card_fin]

theorem CustomPoll.Within.le {s : CustomPoll map} (h : s.Within delay now) (i : Fin map.count) :
    now ≤ max s.nextRequestMs (s.nextDue i) + delay :=
  CustomPoll.within_iff.mp h i

/-- A point whose wait is bounded is no older than its interval and this bound. -/
theorem CustomPoll.Current.age_le {s : CustomPoll map} (H : s.Current i)
    (hwait : OnTime w bound s.nextDue (s.nextRequestMs + gap) 0 i) (hgap : gap ≤ bound)
    (hnow : s.Within (gap + elapsed) now) :
    now - (s.values i).lastGoodMs ≤ (map.points i).pollMs + bound + elapsed := by
  have hready := hwait.ready_le
  have hle := hnow.le i
  have hdue := H.due
  omega

/-- A sweep at half a second a point is over before any point is stale. -/
theorem sweep_le_stale (i : Fin map.count) (hq : q ≤ 500) (helapsed : elapsed ≤ 250) :
    (map.points i).pollMs + (q + others (fun _ => q) i) + elapsed ≤ customMapStaleMs map i := by
  have hsweep : (map.count - 1) * q ≤ (map.count - 1) * 500 := Nat.mul_le_mul_left _ hq
  have hpos : 0 < map.count := Nat.lt_of_le_of_lt (Nat.zero_le _) i.isLt
  rw [customMapStaleMs_eq, others_const]
  omega

theorem customPollSnapshot_of_age {s : CustomPoll map}
    (h : now - (s.values i).lastGoodMs ≤ customMapStaleMs map i) :
    customPollSnapshot s now i = s.values i := by
  unfold customPollSnapshot
  rw [if_neg]
  exact fun hstale => absurd hstale.2.2 (Nat.not_lt_of_le h)

/-- While every request is answered, no acquired point is stale: neither now nor before the next answer
has come in. -/
theorem customSweep_fresh
    (hparse : customMapParse strtod memory map₀ csv errorSize = (true, map, error))
    (hpace : elapsed + gap ≤ 250)
    (run : StepSystem.RunWhere (customSystem map) (Answered (fun _ => False) elapsed gap) h s)
    (hacq : s.acquired i = true) (hnow : s.Within (gap + elapsed) now) :
    now - (s.values i).lastGoodMs ≤ customMapStaleMs map i ∧
      customPollSnapshot s now i = s.values i := by
  have hsafe := customMapParse_safeMap hparse
  have H := Sweeping.ofRun hsafe (by omega) run i not_false hacq
  have hwait : OnTime (fun _ => elapsed + 250 + gap)
      (elapsed + 250 + gap + others (fun _ => elapsed + 250 + gap) i)
      s.nextDue (s.nextRequestMs + gap) 0 i := by
    rcases H.quiet with hwait | ⟨q, -, hbad, -⟩
    · exact hwait
    · exact hbad.elim
  have hage := H.current.age_le hwait (by omega) hnow
  have hstale := hage.trans (sweep_le_stale i (by omega) (by omega))
  exact ⟨hstale, customPollSnapshot_of_age hstale⟩

/-! ## One point that is answered by exceptions -/

theorem others_slotMs {j : Fin map.count} (hne : i ≠ j) :
    others (slotMs (· = j) elapsed gap) i ≤
      elapsed + 30000 + gap + (map.count - 1) * (elapsed + 250 + gap) := by
  have hj : j ∈ Finset.univ.erase i := Finset.mem_erase.mpr ⟨hne.symm, Finset.mem_univ j⟩
  have hrest (k : Fin map.count) (hk : k ∈ (Finset.univ.erase i).erase j) :
      slotMs (· = j) elapsed gap k = elapsed + 250 + gap :=
    if_neg (Finset.ne_of_mem_erase hk)
  have hslot : slotMs (· = j) elapsed gap j = elapsed + 30000 + gap := if_pos rfl
  have hcard : ((Finset.univ.erase i).erase j).card ≤ map.count - 1 := by
    rw [Finset.card_erase_of_mem hj, Finset.card_erase_of_mem (Finset.mem_univ i), Finset.card_univ,
      Fintype.card_fin]
    exact Nat.sub_le _ _
  unfold others
  rw [← Finset.add_sum_erase _ _ hj, hslot, Finset.sum_const_nat hrest]
  exact Nat.add_le_add_left (Nat.mul_le_mul_right _ hcard) _

/-- The exceptions of one point never fail another one. They can make it stale, if one has come in since
its last good response, by at most two of the longest pauses. -/
theorem customException_isolated
    (hparse : customMapParse strtod memory map₀ csv errorSize = (true, map, error))
    (run : StepSystem.RunWhere (customSystem map) (Answered (· = j) 100 0) h s)
    (hne : i ≠ j) (hacq : s.acquired i = true) (hnow : s.Within 100 now) :
    (s.values i).quality = .good ∧
      ((customPollSnapshot s now i).quality = .comm →
        customMapStaleMs map i < now - (s.values i).lastGoodMs ∧
          ∃ q, .request q ∈ h ∧ q.point = j ∧ (s.values i).lastGoodMs < q.now) ∧
      now - (s.values i).lastGoodMs ≤ customMapStaleMs map i + 60000 := by
  have hsafe := customMapParse_safeMap hparse
  have H := Sweeping.ofRun hsafe (by omega) run i hne hacq
  have hnow₀ : s.Within (0 + 100) now := hnow
  refine ⟨H.current.good, fun hcomm => ?_, ?_⟩
  · have hold : customMapStaleMs map i < now - (s.values i).lastGoodMs := by
      refine Nat.lt_of_not_le fun hle => ?_
      rw [customPollSnapshot_of_age hle, H.current.good] at hcomm
      cases hcomm
    refine ⟨hold, ?_⟩
    rcases H.quiet with hwait | hlate
    · have hage := H.current.age_le hwait (by omega) hnow₀
      have hstale := hage.trans (sweep_le_stale i (by omega) (by omega))
      omega
    · exact hlate
  · have hage := H.current.age_le H.onTime (by omega) hnow₀
    have hothers : others (slotMs (· = j) 100 0) i ≤
        100 + 30000 + 0 + (map.count - 1) * (100 + 250 + 0) := others_slotMs hne
    rw [customMapStaleMs_eq]
    omega

/-! ## A map of two points -/

/-- A current beside the voltage. -/
def currentSpec : PointSpec :=
  { voltageSpec with instanceNumber := 101, name := "Current".toList }

def currentRow : CsvRow :=
  ["101", "Current", "AI", "3", "0", "u16", "AB", "2", "", "5", "", "", "", "1000",
    "Phase A"].map String.toList

theorem currentSpec_isValid : currentSpec.Valid :=
  { voltageSpec_isValid with
    instance_ge := by decide
    instance_le := by decide
    unreserved := by decide
    name_ge := by decide
    name_le := by decide
    name_unreserved := by decide +kernel }

theorem currentRow_isRow : currentSpec.IsRow strtodTwo currentRow where
  fits := ⟨rfl, by decide +kernel⟩
  instanceNumber := ⟨by decide, by decide, rfl⟩
  name := rfl
  object := rfl
  function := ⟨by decide, by decide, rfl⟩
  address := ⟨by decide, by decide, rfl⟩
  kind := rfl
  order := rfl
  scale := by
    have hscale := voltageRow_isRow.scale
    -- By way of the text itself, or the rows are compared field by field.
    have hcurrent : currentRow.field 7 = "2".toList := rfl
    have hvoltage : voltageRow.field 7 = "2".toList := rfl
    rw [hvoltage] at hscale
    rw [hcurrent]
    exact hscale
  offset := rfl
  units := .inl ⟨by decide, by decide, rfl⟩
  bit := rfl
  states := rfl
  length := rfl
  pollMs := ⟨by decide, by decide, rfl⟩
  description := rfl

theorem pairSpecs_valid : ValidPoints [voltageSpec, currentSpec] where
  each p hp := by
    rcases List.mem_cons.mp hp with rfl | hp
    · exact voltageSpec_isValid
    · cases List.mem_singleton.mp hp
      exact currentSpec_isValid
  count_ge := by decide
  count_le := by decide
  names := List.pairwise_pair.mpr (by decide)
  identifiers := List.pairwise_pair.mpr (by decide)
  states := by decide

/-- The voltage and the current, both read every second. -/
def pairMap : CustomMap := CustomMap.ofPoints ([voltageSpec, currentSpec].map PointSpec.toMapPoint)

theorem pairMap_parsed : ∃ csv, customMapParse strtodTwo true {} csv 192 = (true, pairMap, []) := by
  have hfirst : Csv.Row Plain voltageRow ([','].intercalate voltageRow) :=
    .bare (by decide) (by decide +kernel)
  have hsecond : Csv.Row Plain currentRow ([','].intercalate currentRow) :=
    .bare (by decide) (by decide +kernel)
  have hrows : Rendering strtodTwo [voltageSpec, currentSpec] _ :=
    ⟨['\n'], [voltageRow, currentRow], _, rfl, .lf, .cons hfirst .lf (.last hsecond),
      .cons voltageRow_isRow (.cons currentRow_isRow .nil)⟩
  exact ⟨_, hrows.customMapParse_eq pairSpecs_valid (by decide +kernel) {} 192⟩

def voltagePoint : Fin pairMap.count := ⟨0, by decide +kernel⟩
def currentPoint : Fin pairMap.count := ⟨1, by decide +kernel⟩

/-- Both points are read, and the voltage once more when it is due. -/
def sweepCalls : List PollCall :=
  [.step 1000 (wordReply 49), .step 1270 (wordReply 48), .step 2020 (wordReply 50)]

theorem customSweep_fresh_pair : ∃ h s,
    StepSystem.RunWhere (customSystem pairMap) (Answered (fun _ => False) 20 0) h s ∧
      customPollSnapshot s 2310 voltagePoint = s.values voltagePoint := by
  obtain ⟨csv, hparse⟩ := pairMap_parsed
  have hfeed : StepSystem.FeedWhere customNext (Answered (fun _ => False) 20 0) sweepCalls
      ([], customPollInit pairMap) := by decide +kernel
  have hrun : StepSystem.RunWhere (customSystem pairMap) (Answered (fun _ => False) 20 0)
      (customAfter pairMap sweepCalls).1 (customAfter pairMap sweepCalls).2 :=
    StepSystem.RunWhere.feed sweepCalls (.init rfl) hfeed
  have hacq : (customAfter pairMap sweepCalls).2.acquired voltagePoint = true := by decide +kernel
  have hnow : (customAfter pairMap sweepCalls).2.Within (0 + 20) 2310 := by decide +kernel
  exact ⟨_, _, hrun, (customSweep_fresh hparse (by decide) hrun hacq hnow).2⟩

/-- The voltage is read, and the current is answered by an exception. -/
def exceptionCalls : List PollCall := [.step 1000 (wordReply 49), .step 1270 oldMapReply]

theorem exceptionCalls_run :
    StepSystem.RunWhere (customSystem pairMap) (Answered (· = currentPoint) 100 0)
      (customAfter pairMap exceptionCalls).1 (customAfter pairMap exceptionCalls).2 := by
  have hfeed : StepSystem.FeedWhere customNext (Answered (· = currentPoint) 100 0) exceptionCalls
      ([], customPollInit pairMap) := by decide +kernel
  exact StepSystem.RunWhere.feed exceptionCalls (.init rfl) hfeed

theorem exceptionCalls_acquired :
    (customAfter pairMap exceptionCalls).2.acquired voltagePoint = true := by
  decide +kernel

theorem customException_isolated_pair :
    ((customAfter pairMap exceptionCalls).2.values voltagePoint).quality = .good := by
  obtain ⟨csv, hparse⟩ := pairMap_parsed
  have hnow : (customAfter pairMap exceptionCalls).2.Within 100 6390 := by decide +kernel
  exact (customException_isolated hparse exceptionCalls_run (by decide) exceptionCalls_acquired hnow).1

/-- The pause after the exception lasts until 6290; by then the voltage is older than its 5 s. -/
theorem customException_stale : ∃ csv h s,
    customMapParse strtodTwo true {} csv 192 = (true, pairMap, []) ∧
      StepSystem.RunWhere (customSystem pairMap) (Answered (· = currentPoint) 100 0) h s ∧
      voltagePoint ≠ currentPoint ∧ s.acquired voltagePoint = true ∧ s.Within 100 6100 ∧
      (customPollSnapshot s 6100 voltagePoint).quality = .comm := by
  obtain ⟨csv, hparse⟩ := pairMap_parsed
  exact ⟨csv, _, _, hparse, exceptionCalls_run, by decide, exceptionCalls_acquired,
    by decide +kernel, by decide +kernel⟩

end ModbusGateway
