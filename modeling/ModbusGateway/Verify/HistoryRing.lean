import ModbusGateway.History.Worker

/-!
# The ring of events

`HistoryBlob.Consistent` is `valid_blob` without the checksum, read over the natural numbers:
the event `age` events old has the sequence number `total - age` and lies in the slot of that number.
Recording and counting a boot keep it, so that a sealed blob is always accepted again.
-/

namespace ModbusGateway

/-- The event could have been recorded in the boot `bootId` or before. -/
structure HistoryEvent.Recorded (e : HistoryEvent) (bootId : UInt32) : Prop where
  boot_ne : e.bootId ≠ 0
  boot_le : e.bootId ≤ bootId
  utc : ¬ e.utcMs < 0
  host : e.request.host 15 = 0
  profile : e.request.profile 31 = 0
  phase : e.request.phase 15 = 0
  error_pos : 0 < e.result.error
  error_le : e.result.error ≤ 12

/-- The slot of the event with a sequence number. -/
def ringSlot (sequence : Nat) : Fin 32 := Fin.ofNat 32 (sequence - 1)

structure HistoryBlob.Consistent (b : HistoryBlob) : Prop where
  magic : b.magic = HISTORY_MAGIC
  version : b.version = HISTORY_VERSION
  size : b.size = UInt32.ofNat HISTORY_BLOB_SIZE
  count : b.count.toNat = min b.totalErrors.toNat 32
  next : b.next.toNat = b.totalErrors.toNat % 32
  sequence : ∀ n ≤ b.totalErrors.toNat, b.totalErrors.toNat < n + 32 → 0 < n →
    (b.events (ringSlot n)).sequence.toNat = n
  recorded : ∀ n ≤ b.totalErrors.toNat, b.totalErrors.toNat < n + 32 → 0 < n →
    (b.events (ringSlot n)).Recorded b.bootId

theorem validCounters_iff (b : HistoryBlob) : validCounters b = true ↔
    b.count.toNat = min b.totalErrors.toNat 32 ∧ b.next.toNat = b.totalErrors.toNat % 32 := by
  have hmod : (b.totalErrors % 32).toNat = b.totalErrors.toNat % 32 := UInt64.toNat_mod ..
  have hlt : b.totalErrors < 32 ↔ b.totalErrors.toNat < 32 := UInt64.lt_iff_toNat_lt
  simp only [validCounters, Bool.and_eq_true, decide_eq_true_eq, beq_iff_eq,
    UInt32.le_iff_toNat_le, UInt32.lt_iff_toNat_lt, UInt64.le_iff_toNat_le, ← UInt64.toNat_inj,
    UInt32.toNat_toUInt64, hmod, apply_ite UInt64.toNat, hlt]
  have h32 : (32 : UInt32).toNat = 32 := rfl
  have h64 : (32 : UInt64).toNat = 32 := rfl
  rw [h32, h64]
  constructor
  · rintro ⟨⟨⟨⟨-, -⟩, -⟩, hcount⟩, hnext⟩
    split at hcount <;> omega
  · rintro ⟨hcount, hnext⟩
    refine ⟨⟨⟨⟨?_, ?_⟩, ?_⟩, ?_⟩, hnext⟩
    · omega
    · omega
    · omega
    · split <;> omega

/-- The event `age` events old lies in the slot of its sequence number. -/
theorem eventIndex_eq (hnext : b.next.toNat = b.totalErrors.toNat % 32) (hage : age < 32)
    (hle : age < b.totalErrors.toNat) : eventIndex b age = ringSlot (b.totalErrors.toNat - age) := by
  apply Fin.ext
  simp only [eventIndex, ringSlot, Fin.val_ofNat, hnext, ERROR_HISTORY_CAPACITY]
  omega

theorem validEvent_iff (b : HistoryBlob) (hage : age ≤ b.totalErrors.toNat) (hlt : age < 32) :
    validEvent b age = true ↔
      (b.events (eventIndex b age)).sequence.toNat = b.totalErrors.toNat - age ∧
        (b.events (eventIndex b age)).Recorded b.bootId := by
  have hsub : (b.totalErrors - UInt64.ofNat age).toNat = b.totalErrors.toNat - age := by
    have hofNat : (UInt64.ofNat age).toNat = age := UInt64.toNat_ofNat_of_lt' (Nat.lt_trans hlt (by decide))
    rw [UInt64.toNat_sub_of_le _ _ (by rw [UInt64.le_iff_toNat_le, hofNat]; exact hage), hofNat]
  simp only [validEvent, Bool.and_eq_true, beq_iff_eq, bne_iff_ne, decide_eq_true_eq,
    Bool.not_eq_true', decide_eq_false_iff_not, ← UInt64.toNat_inj, hsub]
  constructor
  · rintro ⟨⟨⟨⟨⟨⟨⟨⟨h1, h2⟩, h3⟩, h4⟩, h5⟩, h6⟩, h7⟩, h8⟩, h9⟩
    exact ⟨h1, h2, h3, h4, h5, h6, h7, h8, h9⟩
  · rintro ⟨h1, h2, h3, h4, h5, h6, h7, h8, h9⟩
    exact ⟨⟨⟨⟨⟨⟨⟨⟨h1, h2⟩, h3⟩, h4⟩, h5⟩, h6⟩, h7⟩, h8⟩, h9⟩

/-- `valid_blob` accepts exactly the consistent blobs with a matching checksum. -/
theorem validBlob_iff (b : HistoryBlob) :
    validBlob b = true ↔ b.checksum = blobChecksum b ∧ b.Consistent := by
  simp only [validBlob, Bool.and_eq_true, beq_iff_eq, validCounters_iff, List.all_eq_true,
    List.mem_range]
  constructor
  · rintro ⟨⟨⟨⟨⟨hmagic, hversion⟩, hsize⟩, hsum⟩, hcount, hnext⟩, hevents⟩
    have hevent (n) (hle : n ≤ b.totalErrors.toNat) (hlt : b.totalErrors.toNat < n + 32)
        (hpos : 0 < n) : (b.events (ringSlot n)).sequence.toNat = n ∧
          (b.events (ringSlot n)).Recorded b.bootId := by
      have h := (validEvent_iff b (Nat.sub_le _ n) (by omega)).mp (hevents _ (by omega))
      rw [eventIndex_eq hnext (by omega) (by omega), Nat.sub_sub_self hle] at h
      exact h
    exact ⟨hsum, hmagic, hversion, hsize, hcount, hnext, fun n h1 h2 h3 => (hevent n h1 h2 h3).1,
      fun n h1 h2 h3 => (hevent n h1 h2 h3).2⟩
  · rintro ⟨hsum, H⟩
    refine ⟨⟨⟨⟨⟨H.magic, H.version⟩, H.size⟩, hsum⟩, H.count, H.next⟩, fun age hage => ?_⟩
    have hcount := H.count
    rw [validEvent_iff b (by omega) (by omega), eventIndex_eq H.next (by omega) (by omega)]
    exact ⟨H.sequence _ (Nat.sub_le ..) (by omega) (by omega),
      H.recorded _ (Nat.sub_le ..) (by omega) (by omega)⟩

/-! ## What keeps the ring -/

theorem copyText_last (source : Fin (n + 1) → UInt8) : copyText source (Fin.last n) = 0 :=
  if_neg fun h => Nat.lt_irrefl _ h.1

theorem recordedEvent_recorded (hboot : b.bootId ≠ 0) (hcall : call.accepted = true) :
    (recordedEvent b call).Recorded b.bootId where
  boot_ne := hboot
  boot_le := UInt32.le_refl _
  utc := by
    simp only [recordedEvent]
    split
    · next h => exact Int64.not_lt.mpr (Int64.le_of_lt h)
    · exact Int64.lt_irrefl
  host := copyText_last call.request.host
  profile := copyText_last call.request.profile
  phase := copyText_last call.request.phase
  error_pos := by
    simp only [RecordCall.accepted, Bool.and_eq_true, decide_eq_true_eq] at hcall
    exact hcall.1
  error_le := by
    simp only [RecordCall.accepted, Bool.and_eq_true, decide_eq_true_eq] at hcall
    exact hcall.2

theorem appendRecord_totalErrors (h : b.totalErrors.toNat + 1 < 2 ^ 64) (call : RecordCall) :
    (appendRecord b call).totalErrors.toNat = b.totalErrors.toNat + 1 := by
  simp only [appendRecord, UInt64.toNat_add]
  have h1 : (1 : UInt64).toNat = 1 := rfl
  omega

/-- The new event takes the slot of the oldest one. -/
theorem HistoryBlob.Consistent.appendSlot {b : HistoryBlob} (H : b.Consistent) :
    Fin.ofNat 32 b.next.toNat = ringSlot (b.totalErrors.toNat + 1) := by
  apply Fin.ext
  simp only [ringSlot, Fin.val_ofNat, H.next]
  omega

theorem HistoryBlob.Consistent.append_new {b : HistoryBlob} (H : b.Consistent) (call : RecordCall) :
    (appendRecord b call).events (ringSlot (b.totalErrors.toNat + 1)) = recordedEvent b call := by
  simp only [appendRecord, H.appendSlot, Function.update_self]

theorem HistoryBlob.Consistent.append_old {b : HistoryBlob} (H : b.Consistent)
    (hle : n ≤ b.totalErrors.toNat) (hlt : b.totalErrors.toNat + 1 < n + 32) (hpos : 0 < n)
    (call : RecordCall) :
    (appendRecord b call).events (ringSlot n) = b.events (ringSlot n) := by
  refine Function.update_of_ne (fun heq => ?_) ..
  rw [H.appendSlot] at heq
  have hval := congrArg Fin.val heq
  simp only [ringSlot, Fin.val_ofNat] at hval
  omega

/-- Recording an error keeps the ring. -/
theorem HistoryBlob.Consistent.append (H : b.Consistent) (hboot : b.bootId ≠ 0)
    (htotal : b.totalErrors.toNat + 1 < 2 ^ 64) (hcall : call.accepted = true) :
    (appendRecord b call).Consistent := by
  have hnew := appendRecord_totalErrors htotal call
  have hc := H.count
  have hn := H.next
  refine ⟨H.magic, H.version, H.size, ?_, ?_, fun n h1 h2 h3 => ?_, fun n h1 h2 h3 => ?_⟩
  · rw [hnew]
    simp only [appendRecord, UInt32.lt_iff_toNat_lt]
    have h32 : (32 : UInt32).toNat = 32 := rfl
    split
    · rw [UInt32.toNat_add]
      have h1 : (1 : UInt32).toNat = 1 := rfl
      omega
    · omega
  · rw [hnew]
    have h1 : (1 : UInt32).toNat = 1 := rfl
    have h32 : (32 : UInt32).toNat = 32 := rfl
    simp only [appendRecord, UInt32.toNat_mod, UInt32.toNat_add, h1, h32]
    omega
  · rw [hnew] at h1 h2
    rcases Nat.lt_or_eq_of_le h1 with hlt | rfl
    · rw [H.append_old (by omega) h2 h3]
      exact H.sequence n (by omega) (by omega) h3
    · rw [H.append_new]
      exact hnew
  · rw [hnew] at h1 h2
    rcases Nat.lt_or_eq_of_le h1 with hlt | rfl
    · rw [H.append_old (by omega) h2 h3]
      exact H.recorded n (by omega) (by omega) h3
    · rw [H.append_new]
      exact recordedEvent_recorded hboot hcall

theorem HistoryEvent.Recorded.mono {e : HistoryEvent} (H : e.Recorded limit)
    (hle : limit ≤ limit') : e.Recorded limit' :=
  { H with boot_le := UInt32.le_trans H.boot_le hle }

/-- A new boot keeps the ring. -/
theorem HistoryBlob.Consistent.boot {b : HistoryBlob} (H : b.Consistent)
    (hle : b.bootId ≤ limit) : ({ b with bootId := limit } : HistoryBlob).Consistent :=
  { H with recorded := fun n h1 h2 h3 => (H.recorded n h1 h2 h3).mono hle }

theorem HistoryBlob.withChecksum_withChecksum (b : HistoryBlob) (c d : UInt32) :
    (b.withChecksum c).withChecksum d = b.withChecksum d := rfl

theorem HistoryBlob.Consistent.withChecksum {b : HistoryBlob} (H : b.Consistent) (c : UInt32) :
    (b.withChecksum c).Consistent := { H with }

/-- The checksum of a blob does not depend on its checksum field. -/
theorem blobChecksum_withChecksum (b : HistoryBlob) (c : UInt32) :
    blobChecksum (b.withChecksum c) = blobChecksum b := by
  unfold blobChecksum
  rw [HistoryBlob.withChecksum_withChecksum]

/-- A sealed ring is accepted. -/
theorem validBlob_seal (H : b.Consistent) : validBlob (sealBlob b) = true := by
  unfold sealBlob
  have hsum := blobChecksum_withChecksum b (blobChecksum b)
  generalize blobChecksum b = sum at hsum ⊢
  exact (validBlob_iff _).mpr ⟨hsum.symm, H.withChecksum sum⟩

end ModbusGateway
