import ModbusGateway.Verify.Storage

/-!
# Preparing the storage again

A second call in one boot finds the partition that the first call registered, or that was in the table
all along. It returns without a read, unless the first call used the last place of the inventory.
-/

namespace ModbusGateway

open Checks

/-! ## One partition more -/

/-- The partition that is asked for. -/
def gatewayPartition (chip : Option Nat) : Partition :=
  ⟨chip, ESP_PARTITION_TYPE_DATA, ESP_PARTITION_SUBTYPE_DATA_NVS, GATEWAY_STORAGE_OTA_ADDRESS,
    GATEWAY_STORAGE_SIZE, GATEWAY_STORAGE_LABEL, false, false⟩

theorem gatewayPartition_sound (h : 0x860000 ≤ flashSize.toNat) :
    (gatewayPartition chip).Sound flashSize := by
  have hend : GATEWAY_STORAGE_OTA_ADDRESS.toNat + GATEWAY_STORAGE_SIZE.toNat = 0x860000 := rfl
  have hnonempty : GATEWAY_STORAGE_SIZE ≠ 0 := by decide
  have haddress : GATEWAY_STORAGE_OTA_ADDRESS % SECTOR_SIZE = 0 := by decide
  have hsize : GATEWAY_STORAGE_SIZE % SECTOR_SIZE = 0 := by decide
  exact ⟨hnonempty, haddress, hsize, hend ▸ h⟩

theorem primary_insert (before after : List (Option Partition)) :
    primary chip (before ++ some (gatewayPartition chip) :: after) =
      primary chip before ++ gatewayPartition chip :: primary chip after := by
  simp [primary, gatewayPartition]

theorem primary_append (before after : List (Option Partition)) :
    primary chip (before ++ after) = primary chip before ++ primary chip after := by
  simp [primary]

theorem labelled_insert (before after : List (Option Partition)) :
    labelled (before ++ some (gatewayPartition chip) :: after) =
      labelled before ++ gatewayPartition chip :: labelled after := by
  simp [labelled, gatewayPartition]

theorem labelled_append (before after : List (Option Partition)) :
    labelled (before ++ after) = labelled before ++ labelled after := by
  simp [labelled]

/-- A partition that does not match makes no difference. -/
theorem exactLoop_insert (h : ¬ p.Matches type subtype label) (matched : Nat)
    (before after : List Partition) :
    exactLoop type subtype address size label matched (before ++ p :: after) =
      exactLoop type subtype address size label matched (before ++ after) := by
  induction before generalizing matched with
  | nil =>
    rw [List.nil_append, List.nil_append, exactLoop]
    split
    · next htype =>
      rw [if_pos]
      by_contra hlabel
      refine h ⟨htype.1, htype.2, fun l hl => ?_⟩
      exact Decidable.not_not.mp fun hne => hlabel ⟨l, hl, hne⟩
    · rfl
  | cons q before ih =>
    rw [List.cons_append, List.cons_append, exactLoop, exactLoop]
    simp only [ih]

theorem otaLayout_insert (chip : Option Nat) (before after : List Partition)
    (gateway gateway' : Option Partition) :
    otaLayout ⟨before ++ gatewayPartition chip :: after, gateway⟩ =
      otaLayout ⟨before ++ after, gateway'⟩ := by
  have hother (type subtype : Nat)
      (h : type ≠ ESP_PARTITION_TYPE_DATA ∨ subtype ≠ ESP_PARTITION_SUBTYPE_DATA_NVS) :
      ¬ (gatewayPartition chip).Matches type subtype none := by
    intro H
    rcases h with h | h
    · exact h H.1.symm
    · exact h H.2.1.symm
  have hnvs : ¬ (gatewayPartition chip).Matches ESP_PARTITION_TYPE_DATA
      ESP_PARTITION_SUBTYPE_DATA_NVS (some "nvs".toList) := by
    have hne : GATEWAY_STORAGE_LABEL ≠ "nvs".toList := by decide
    exact fun H => hne (H.2.2 _ rfl)
  unfold otaLayout exactPartition
  rw [exactLoop_insert (hother _ _ (.inl (by decide))), exactLoop_insert (hother _ _ (.inl (by decide))),
    exactLoop_insert hnvs, exactLoop_insert (hother _ _ (.inr (by decide))),
    exactLoop_insert (hother _ _ (.inr (by decide)))]

/-- The table stays in order when the region is free and there is room for one more. -/
theorem Tidy.insert (H : Tidy env.chip env.flashSize.2 {} (before ++ after)) (hfree : RegionFree env)
    (heq : env.partitions = before ++ after) (hlabelled : labelled (before ++ after) = [])
    (hroom : (primary env.chip (before ++ after)).length < MAX_PRIMARY_PARTITIONS) :
    Tidy env.chip env.flashSize.2 {} (before ++ some (gatewayPartition env.chip) :: after) := by
  have hnone := List.append_eq_nil_iff.mp (labelled_append before after ▸ hlabelled)
  have hregion := hfree.free
  have hsound := H.sound
  have hapart := H.apart
  rw [heq, primary_append] at hregion
  rw [primary_append] at hsound hapart
  have hplaced : (gatewayPartition env.chip).Sound env.flashSize.2 :=
    gatewayPartition_sound hfree.inside
  refine ⟨?_, ?_, ?_, ?_, fun _ hmem => (by cases hmem), ?_, ?_⟩
  · have hreadable := H.readable
    simp only [List.mem_append, List.mem_cons, not_or, reduceCtorEq, not_false_eq_true, true_and]
      at hreadable ⊢
    exact hreadable
  · rw [labelled_insert, hnone.1, hnone.2]
    intro p hp
    rw [List.mem_singleton.mp hp]
    rfl
  · rw [labelled_insert, hnone.1, hnone.2]
    exact Nat.le_refl 1
  · rw [primary_insert]
    intro p hp
    rcases List.mem_append.mp hp with hp | hp
    · exact hsound p (List.mem_append_left _ hp)
    · rcases List.mem_cons.mp hp with rfl | hp
      · exact hplaced
      · exact hsound p (List.mem_append_right _ hp)
  · rw [primary_insert]
    refine List.pairwise_middle (fun h => h.symm) |>.mpr (List.pairwise_cons.mpr ⟨?_, hapart⟩)
    exact hregion
  · have hnil : ({} : StorageLayout).items.length = 0 := rfl
    rw [primary_insert, hnil, List.length_append, List.length_cons]
    rw [primary_append, List.length_append] at hroom
    omega

/-! ## The first call -/

/-- What a first call has seen that registers the region. -/
structure Registering (env : StorageEnv) : Prop where
  chip : env.chip ≠ none
  flashSize : env.flashSize.1 = ESP_OK
  tidy : Tidy env.chip env.flashSize.2 {} env.partitions
  unlabelled : labelled env.partitions = []
  table : otaLayout ⟨primary env.chip env.partitions, none⟩ = true
  free : RegionFree env

theorem storageLayout_registering (h : storageLayout env = .ok true) : Registering env := by
  have hfree := storageLayout_free h
  simp only [storageLayout, bind_eq_ok, reject_eq_ok, exists_const, not_not] at h
  obtain ⟨hchip, hsize, layout, hlayout, h⟩ := h
  obtain ⟨H, rfl⟩ := (inventoryLoop_eq_ok (Nat.zero_le _)).mp hlayout
  split at h
  · simp only [bind_eq_ok, reject_eq_ok, exists_const, pure_eq_ok, Bool.false_eq_true, and_false] at h
  · next hgateway =>
    simp only [bind_eq_ok, reject_eq_ok, exists_const, not_not] at h
    have hnone : labelled env.partitions = [] := List.head?_eq_none_iff.mp hgateway
    have hextended : StorageLayout.extended {} env.chip env.partitions =
        ⟨primary env.chip env.partitions, none⟩ := by
      rw [StorageLayout.extended, hnone]
      rfl
    exact ⟨hchip, hsize, H, hnone, hextended ▸ h.1, hfree⟩

theorem storageLayout_present (h : storageLayout env = .ok false) : labelled env.partitions ≠ [] := by
  simp only [storageLayout, bind_eq_ok, reject_eq_ok, exists_const] at h
  obtain ⟨-, -, layout, hlayout, h⟩ := h
  obtain ⟨-, rfl⟩ := (inventoryLoop_eq_ok (Nat.zero_le _)).mp hlayout
  split at h
  · next p hgateway =>
    intro hnone
    have hhead : (labelled env.partitions).head? = some p := hgateway
    rw [hnone] at hhead
    cases hhead
  · simp only [bind_eq_ok, reject_eq_ok, exists_const, pure_eq_ok, Bool.true_eq_false, and_false] at h

theorem checkMarker_error (h : checkMarker env s = .error e) : e ≠ ESP_OK := by
  unfold checkMarker at h
  split at h
  · cases h
  · split at h
    · next hopen => exact Except.error.inj h ▸ hopen
    · split at h
      · next e' hblob =>
        split at h
        · cases h
        · cases h
          unfold nvsGetBlob at hblob
          split at hblob
          · next hfail => exact Except.error.inj hblob ▸ hfail
          · split at hblob
            · cases hblob
              decide
            · split at hblob
              · cases hblob
              · cases hblob
                decide
      · split at h
        · cases h
          decide
        · cases h

/-- The checks do not fail with the code of success. -/
theorem inventoryLoop_avoids :
    Avoids ESP_OK (inventoryLoop chip flashSize layout ps) := by
  induction ps generalizing layout with
  | nil => exact .ok _
  | cons p ps ih =>
    unfold inventoryLoop
    refine .bind (.require (by decide)) fun p _ => .bind (.reject (by decide)) fun _ _ => ?_
    dsimp only
    split
    · exact .bind (.reject (by decide)) fun _ _ => .bind (.reject (by decide)) fun _ _ => ih
    · exact ih

theorem storageLayout_avoids : Avoids ESP_OK (storageLayout env) := by
  unfold storageLayout
  refine .bind (.reject (by decide)) fun _ _ => .bind .outcome fun _ _ =>
    .bind inventoryLoop_avoids fun layout _ => ?_
  split
  · exact .bind (.reject (by decide)) fun _ _ => .bind (.reject (by decide)) fun _ _ => .ok _
  · exact .bind (.reject (by decide)) fun _ _ => .bind (.reject (by decide)) fun _ _ =>
      .bind (.reject (by decide)) fun _ _ => .ok _

/-- A first call that succeeds has found the partition or has registered it. -/
theorem gatewayStoragePrepare_ok (h : (gatewayStoragePrepare env ⟨marker, []⟩).1 = ESP_OK) :
    (storageLayout env = .ok false ∧ (gatewayStoragePrepare env ⟨marker, []⟩).2.log = []) ∨
      (storageLayout env = .ok true ∧
        ∃ e ∈ (gatewayStoragePrepare env ⟨marker, []⟩).2.log, e.IsRegister) := by
  unfold gatewayStoragePrepare at h ⊢
  split at h
  · next hlayout =>
    cases h
    exact absurd hlayout storageLayout_avoids
  · next hlayout => exact .inl ⟨hlayout, rfl⟩
  · next hlayout =>
    refine .inr ⟨hlayout, ?_⟩
    dsimp only at h ⊢
    split at h
    · next hmarker => exact absurd h (checkMarker_error hmarker)
    · next owned _ =>
      generalize (if owned = true then ((ESP_OK, _) : EspErr × StorageState)
        else claimBlankRegion env _) = r at h ⊢
      split at h
      · next hfail => exact absurd h hfail
      · next hok =>
        rw [if_neg hok]
        exact ⟨_, List.mem_cons_self, trivial⟩

/-! ## The second call -/

/-- What a later call in the same boot sees: the same chip and flash, and the table as the first call
left it. A registration has added one partition, wherever the iterator delivers it. -/
structure LaterCall (env env' : StorageEnv) (log : List StorageEvent) : Prop where
  chip : env'.chip = env.chip
  flashSize : env'.flashSize = env.flashSize
  kept : (∀ e ∈ log, ¬ e.IsRegister) → env'.partitions = env.partitions
  added : (∃ e ∈ log, e.IsRegister) → ∃ before after, env.partitions = before ++ after ∧
    env'.partitions = before ++ some (gatewayPartition env.chip) :: after

/-- The table has the partition already, or the inventory has a place for it. -/
def HasRoom (env : StorageEnv) : Prop :=
  labelled env.partitions ≠ [] ∨
    (primary env.chip env.partitions).length < MAX_PRIMARY_PARTITIONS

theorem storageLayout_congr (hchip : env'.chip = env.chip) (hsize : env'.flashSize = env.flashSize)
    (htable : env'.partitions = env.partitions) : storageLayout env' = storageLayout env := by
  unfold storageLayout inventory
  rw [hchip, hsize, htable]

theorem Registering.again (H : Registering env) (hchip : env'.chip = env.chip)
    (hsize : env'.flashSize = env.flashSize) (heq : env.partitions = before ++ after)
    (heq' : env'.partitions = before ++ some (gatewayPartition env.chip) :: after)
    (hroom : (primary env.chip env.partitions).length < MAX_PRIMARY_PARTITIONS) :
    storageLayout env' = .ok false := by
  have hlabelled := H.unlabelled
  have htidy := H.tidy
  have htable := H.table
  rw [heq] at hlabelled htidy hroom htable
  have hnone := List.append_eq_nil_iff.mp (labelled_append before after ▸ hlabelled)
  have htidy' := htidy.insert H.free heq hlabelled hroom
  have hextended : StorageLayout.extended {} env.chip
      (before ++ some (gatewayPartition env.chip) :: after) =
      ⟨primary env.chip before ++ gatewayPartition env.chip :: primary env.chip after,
        some (gatewayPartition env.chip)⟩ := by
    rw [StorageLayout.extended, primary_insert, labelled_insert, hnone.1]
    rfl
  rw [primary_append, ← otaLayout_insert env.chip _ _ (some (gatewayPartition env.chip))] at htable
  simp only [storageLayout, bind_eq_ok, reject_eq_ok, exists_const, not_not, hchip, hsize]
  refine ⟨H.chip, H.flashSize, _, (inventoryLoop_eq_ok (Nat.zero_le _)).mpr ⟨?_, rfl⟩, ?_⟩
  · rw [hchip, heq']
    exact htidy'
  · rw [hchip, heq', hextended]
    simp only [bind_eq_ok, reject_eq_ok, exists_const, pure_eq_ok, and_true]
    exact ⟨by simp [gatewayPartition], fun h => h.2 ⟨rfl, htable⟩⟩

/-- A call that succeeds has an inventory within its limit. -/
theorem storageLayout_room (h : storageLayout env = .ok b) :
    (primary env.chip env.partitions).length ≤ MAX_PRIMARY_PARTITIONS := by
  simp only [storageLayout, bind_eq_ok, reject_eq_ok, exists_const] at h
  obtain ⟨-, -, layout, hlayout, -⟩ := h
  have hroom := ((inventoryLoop_eq_ok (Nat.zero_le _)).mp hlayout).1.room
  have hnil : ({} : StorageLayout).items.length = 0 := rfl
  rwa [hnil, Nat.zero_add] at hroom

/-- After a call that succeeded, whatever the marker and the outcomes of the calls are by then, another
call succeeds without a read, an access to NVS or a registration if and only if there was room. -/
theorem gatewayStoragePrepare_again
    (hfirst : (gatewayStoragePrepare env ⟨marker, []⟩).1 = ESP_OK)
    (hboot : LaterCall env env' (gatewayStoragePrepare env ⟨marker, []⟩).2.log) (s : StorageState) :
    gatewayStoragePrepare env' s = (ESP_OK, s) ↔ HasRoom env := by
  have hfound (h : storageLayout env' = .ok false) : gatewayStoragePrepare env' s = (ESP_OK, s) := by
    rw [gatewayStoragePrepare, h]
  rcases gatewayStoragePrepare_ok hfirst with ⟨hlayout, hlog⟩ | ⟨hlayout, hregister⟩
  · have htable := hboot.kept fun e he => (by rw [hlog] at he; cases he)
    refine ⟨fun _ => .inl (storageLayout_present hlayout), fun _ => hfound ?_⟩
    rw [storageLayout_congr hboot.chip hboot.flashSize htable, hlayout]
  · obtain ⟨before, after, heq, heq'⟩ := hboot.added hregister
    have H := storageLayout_registering hlayout
    constructor
    · intro hsecond
      refine .inr ?_
      have hok : ∃ b, storageLayout env' = .ok b := by
        unfold gatewayStoragePrepare at hsecond
        split at hsecond
        · next hfail =>
          cases hsecond
          exact absurd hfail storageLayout_avoids
        · next h => exact ⟨_, h⟩
        · next h => exact ⟨_, h⟩
      obtain ⟨b, hok⟩ := hok
      have hroom := storageLayout_room hok
      rw [hboot.chip, heq', primary_insert, List.length_append, List.length_cons] at hroom
      rw [heq, primary_append, List.length_append]
      omega
    · intro hroom
      rcases hroom with hpresent | hroom
      · exact absurd H.unlabelled hpresent
      · exact hfound (H.again hboot.chip hboot.flashSize heq heq' hroom)

/-- The environment after a registration that adds the partition at the end. -/
def StorageEnv.registered (env : StorageEnv) : StorageEnv :=
  { env with partitions := env.partitions ++ [some (gatewayPartition env.chip)] }

theorem LaterCall.atEnd (hfirst : (gatewayStoragePrepare env ⟨marker, []⟩).1 = ESP_OK)
    (hlayout : storageLayout env = .ok true) :
    LaterCall env env.registered (gatewayStoragePrepare env ⟨marker, []⟩).2.log := by
  obtain ⟨e, hmem, hregister⟩ : ∃ e ∈ (gatewayStoragePrepare env ⟨marker, []⟩).2.log,
      e.IsRegister := by
    rcases gatewayStoragePrepare_ok hfirst with ⟨hpresent, -⟩ | ⟨-, hregister⟩
    · rw [hlayout] at hpresent
      cases hpresent
    · exact hregister
  exact ⟨rfl, rfl, fun hnone => absurd hregister (hnone e hmem),
    fun _ => ⟨env.partitions, [], (List.append_nil _).symm, rfl⟩⟩

theorem gatewayStoragePrepare_again_ota :
    gatewayStoragePrepare otaEnv.registered ⟨some ownershipMarker, []⟩ =
      (ESP_OK, ⟨some ownershipMarker, []⟩) := by
  have hfirst : (gatewayStoragePrepare otaEnv ⟨some ownershipMarker, []⟩).1 = ESP_OK := by
    decide +kernel
  have hlater := LaterCall.atEnd hfirst (by decide +kernel)
  exact (gatewayStoragePrepare_again hfirst hlater _).mpr (.inr (by decide +kernel))

/-- The deployed table with 27 more partitions of a sector each: the inventory is full. -/
def fullEnv : StorageEnv :=
  { otaEnv with
    partitions := otaEnv.partitions ++ (List.range 27).map fun i =>
      some ⟨some 0, ESP_PARTITION_TYPE_DATA, 0x80, 0x900000 + UInt32.ofNat i * SECTOR_SIZE,
        SECTOR_SIZE, "extra".toList, false, false⟩ }

/-- The table is accepted, and is refused once the partition was registered. -/
theorem gatewayStoragePrepare_full : ∃ env env' : StorageEnv, ∃ marker,
    (gatewayStoragePrepare env ⟨marker, []⟩).1 = ESP_OK ∧
      LaterCall env env' (gatewayStoragePrepare env ⟨marker, []⟩).2.log ∧
      (gatewayStoragePrepare env' ⟨marker, []⟩).1 = ESP_ERR_INVALID_SIZE := by
  have hfirst : (gatewayStoragePrepare fullEnv ⟨some ownershipMarker, []⟩).1 = ESP_OK := by
    decide +kernel
  have hlater := LaterCall.atEnd hfirst (by decide +kernel)
  exact ⟨fullEnv, fullEnv.registered, some ownershipMarker, hfirst, hlater, by decide +kernel⟩

end ModbusGateway
