import ModbusGateway.Storage.Prepare

/-!
# Storage outside the partition table

`gateway_storage_prepare` registers the region behind the second application slot only if the table
leaves it free and the marker says that it belongs to the gateway, and it writes the marker only after
the whole region was read as blank.
-/

namespace ModbusGateway

open Checks

/-! ## The inventory -/

/-- The partitions on the primary chip. -/
def primary (chip : Option Nat) (ps : List (Option Partition)) : List Partition :=
  (ps.filterMap id).filter fun p => p.flashChip = chip

/-- Nonempty, sector aligned and inside the flash. -/
structure Partition.Sound (p : Partition) (flashSize : UInt32) : Prop where
  nonempty : p.size ≠ 0
  address_aligned : p.address % SECTOR_SIZE = 0
  size_aligned : p.size % SECTOR_SIZE = 0
  inside : p.address.toNat + p.size.toNat ≤ flashSize.toNat

/-- Two regions without a common address. -/
def Apart (a as b bs : Nat) : Prop := a + as ≤ b ∨ b + bs ≤ a

def Partition.Apart (p q : Partition) : Prop :=
  ModbusGateway.Apart p.address.toNat p.size.toNat q.address.toNat q.size.toNat

theorem overlap_eq_false {a as b bs : UInt32} :
    ¬ overlap a as b bs = true ↔ Apart a.toNat as.toNat b.toNat bs.toNat := by
  unfold overlap Apart
  rw [Bool.and_eq_true, decide_eq_true_eq, decide_eq_true_eq]
  omega

/-- What the loop of the inventory has found out. -/
structure Inventoried (chip : Option Nat) (flashSize : UInt32) (layout : StorageLayout)
    (ps : List (Option Partition)) (layout' : StorageLayout) : Prop where
  items : layout'.items = layout.items ++ primary chip ps
  readable : none ∉ ps
  sound : ∀ p ∈ primary chip ps, p.Sound flashSize
  apart : layout.items.Pairwise Partition.Apart → layout'.items.Pairwise Partition.Apart
  unlabelled : layout'.gateway = none →
    layout.gateway = none ∧ ∀ p, some p ∈ ps → p.label ≠ GATEWAY_STORAGE_LABEL

theorem StorageLayout.note_items (layout : StorageLayout) (p : Partition) :
    (layout.note p).items = layout.items := by
  unfold StorageLayout.note
  split <;> rfl

theorem primary_cons_pos (h : p.flashChip = chip) :
    primary chip (some p :: ps) = p :: primary chip ps := by
  simp [primary, h]

theorem primary_cons_neg (h : p.flashChip ≠ chip) :
    primary chip (some p :: ps) = primary chip ps := by
  simp [primary, h]

/-- The partitions with the label of the gateway. -/
def labelled (ps : List (Option Partition)) : List Partition :=
  (ps.filterMap id).filter fun p => p.label = GATEWAY_STORAGE_LABEL

theorem labelled_cons_pos (h : p.label = GATEWAY_STORAGE_LABEL) :
    labelled (some p :: ps) = p :: labelled ps := by
  simp [labelled, h]

theorem labelled_cons_neg (h : p.label ≠ GATEWAY_STORAGE_LABEL) :
    labelled (some p :: ps) = labelled ps := by
  simp [labelled, h]

/-- What the inventory asks of the partitions that are still to come. -/
structure Tidy (chip : Option Nat) (flashSize : UInt32) (layout : StorageLayout)
    (ps : List (Option Partition)) : Prop where
  readable : none ∉ ps
  onChip : ∀ p ∈ labelled ps, p.flashChip = chip
  once : layout.gateway.toList.length + (labelled ps).length ≤ 1
  sound : ∀ p ∈ primary chip ps, p.Sound flashSize
  clear : ∀ p ∈ layout.items, ∀ q ∈ primary chip ps, p.Apart q
  apart : (primary chip ps).Pairwise Partition.Apart
  room : layout.items.length + (primary chip ps).length ≤ MAX_PRIMARY_PARTITIONS

/-- The layout when they have come. -/
def StorageLayout.extended (layout : StorageLayout) (chip : Option Nat) (ps : List (Option Partition)) :
    StorageLayout :=
  ⟨layout.items ++ primary chip ps, layout.gateway.or (labelled ps).head?⟩

/-- A partition may have the label if none had it, on the primary chip. -/
def Partition.MayFollow (chip : Option Nat) (layout : StorageLayout) (p : Partition) : Prop :=
  p.label = GATEWAY_STORAGE_LABEL → layout.gateway = none ∧ p.flashChip = chip

theorem mayFollow_iff {layout : StorageLayout} {p : Partition} : p.MayFollow chip layout ↔
    ¬ (p.label = GATEWAY_STORAGE_LABEL ∧ (layout.gateway.isSome = true ∨ p.flashChip ≠ chip)) := by
  unfold Partition.MayFollow
  cases layout.gateway <;> simp

/-- The gateway partition of the rest. -/
theorem Partition.MayFollow.note {layout : StorageLayout} (h : p.MayFollow chip layout)
    (ps : List (Option Partition)) :
    (layout.note p).gateway.toList.length + (labelled ps).length =
        layout.gateway.toList.length + (labelled (some p :: ps)).length ∧
      (layout.note p).gateway.or (labelled ps).head? =
        layout.gateway.or (labelled (some p :: ps)).head? := by
  unfold StorageLayout.note
  split
  · next hlabel =>
    rw [labelled_cons_pos hlabel, (h hlabel).1]
    simp [Nat.add_comm]
  · next hlabel =>
    rw [labelled_cons_neg hlabel]
    exact ⟨rfl, rfl⟩

theorem forall_labelled_cons {P : Partition → Prop} :
    (∀ q ∈ labelled (some p :: ps), P q) ↔
      (p.label = GATEWAY_STORAGE_LABEL → P p) ∧ ∀ q ∈ labelled ps, P q := by
  by_cases h : p.label = GATEWAY_STORAGE_LABEL
  · simp [labelled_cons_pos h, h]
  · simp [labelled_cons_neg h, h]

theorem none_not_mem_cons : none ∉ some p :: ps ↔ none ∉ ps := by
  simp

/-- A partition of another chip. -/
theorem tidy_cons_other {layout : StorageLayout} (h : p.flashChip ≠ chip) :
    Tidy chip flashSize layout (some p :: ps) ↔
      p.MayFollow chip layout ∧ Tidy chip flashSize (layout.note p) ps := by
  constructor
  · intro H
    have hfollow : p.MayFollow chip layout := fun hlabel =>
      absurd ((forall_labelled_cons.mp H.onChip).1 hlabel) h
    have hprimary : primary chip (some p :: ps) = primary chip ps := primary_cons_neg h
    refine ⟨hfollow, none_not_mem_cons.mp H.readable, (forall_labelled_cons.mp H.onChip).2,
      (hfollow.note ps).1 ▸ H.once, ?_, ?_, ?_, ?_⟩
    · exact hprimary ▸ H.sound
    · rw [StorageLayout.note_items]
      exact hprimary ▸ H.clear
    · exact hprimary ▸ H.apart
    · rw [StorageLayout.note_items]
      exact hprimary ▸ H.room
  · intro ⟨hfollow, H⟩
    have hclear := H.clear
    have hroom := H.room
    rw [StorageLayout.note_items] at hclear hroom
    have hprimary : primary chip (some p :: ps) = primary chip ps := primary_cons_neg h
    rw [← hprimary] at hclear hroom
    exact ⟨none_not_mem_cons.mpr H.readable,
      forall_labelled_cons.mpr ⟨fun hlabel => (hfollow hlabel).2, H.onChip⟩,
      (hfollow.note ps).1 ▸ H.once, hprimary.symm ▸ H.sound, hclear, hprimary.symm ▸ H.apart, hroom⟩

/-- A partition of the primary chip. -/
theorem tidy_cons_primary {layout : StorageLayout} (h : p.flashChip = chip) :
    Tidy chip flashSize layout (some p :: ps) ↔
      p.MayFollow chip layout ∧ p.Sound flashSize ∧ layout.items.length < MAX_PRIMARY_PARTITIONS ∧
        (∀ other ∈ layout.items, other.Apart p) ∧
        Tidy chip flashSize ((layout.note p).add p) ps := by
  have hitems : ((layout.note p).add p).items = layout.items ++ [p] := by
    rw [StorageLayout.add, StorageLayout.note_items]
  have hgateway : ((layout.note p).add p).gateway = (layout.note p).gateway := rfl
  have hprimary : primary chip (some p :: ps) = p :: primary chip ps := primary_cons_pos h
  constructor
  · intro H
    have hsound := H.sound
    have hclear := H.clear
    have hapart := H.apart
    have hroom := H.room
    have honce := H.once
    rw [hprimary] at hsound hclear hapart hroom
    rw [List.length_cons] at hroom
    have hfollow : p.MayFollow chip layout := by
      refine fun hlabel => ⟨?_, h⟩
      rw [labelled_cons_pos hlabel, List.length_cons] at honce
      rw [← Option.toList_eq_nil_iff, ← List.length_eq_zero_iff]
      omega
    refine ⟨hfollow, hsound p List.mem_cons_self, by omega,
      fun other hother => hclear other hother p List.mem_cons_self,
      none_not_mem_cons.mp H.readable, (forall_labelled_cons.mp H.onChip).2, ?_,
      fun q hq => hsound q (List.mem_cons_of_mem _ hq), ?_, (List.pairwise_cons.mp hapart).2, ?_⟩
    · rw [hgateway, (hfollow.note ps).1]
      exact honce
    · rw [hitems]
      intro other hother q hq
      rcases List.mem_append.mp hother with hother | hother
      · exact hclear other hother q (List.mem_cons_of_mem _ hq)
      · rw [List.mem_singleton.mp hother]
        exact (List.pairwise_cons.mp hapart).1 q hq
    · rw [hitems, List.length_append, List.length_singleton]
      omega
  · intro ⟨hfollow, hsound, hlength, hapart, H⟩
    have hclear := H.clear
    have hroom := H.room
    have honce := H.once
    rw [hitems] at hclear hroom
    rw [List.length_append, List.length_singleton] at hroom
    rw [hgateway, (hfollow.note ps).1] at honce
    refine ⟨none_not_mem_cons.mpr H.readable,
      forall_labelled_cons.mpr ⟨fun _ => h, H.onChip⟩, honce, ?_, ?_, ?_, ?_⟩
    · rw [hprimary]
      exact List.forall_mem_cons.mpr ⟨hsound, H.sound⟩
    · rw [hprimary]
      exact fun other hother => List.forall_mem_cons.mpr ⟨hapart other hother,
        hclear other (List.mem_append_left _ hother)⟩
    · rw [hprimary]
      exact List.pairwise_cons.mpr ⟨hclear p (List.mem_append_right _ List.mem_cons_self), H.apart⟩
    · rw [hprimary, List.length_cons]
      omega

/-- The inventory in terms of the whole table. -/
theorem inventoryLoop_eq_ok {layout : StorageLayout}
    (hroom : layout.items.length ≤ MAX_PRIMARY_PARTITIONS) :
    inventoryLoop chip flashSize layout ps = .ok layout' ↔
      Tidy chip flashSize layout ps ∧ layout' = layout.extended chip ps := by
  induction ps generalizing layout with
  | nil =>
    have hwith : layout.extended chip [] = layout := by simp [StorageLayout.extended, primary, labelled]
    have htidy : Tidy chip flashSize layout [] := by
      refine ⟨List.not_mem_nil, fun _ hp => (by cases hp), ?_, fun _ hp => (by cases hp),
        fun _ _ _ hp => (by cases hp), .nil, hroom⟩
      cases layout.gateway <;> simp [labelled]
    rw [inventoryLoop, hwith]
    exact ⟨fun h => ⟨htidy, (Except.ok.inj h).symm⟩, fun h => congrArg _ h.2.symm⟩
  | cons p ps ih =>
    cases p with
    | none =>
      have hloop : inventoryLoop chip flashSize layout (none :: ps) = .error ESP_ERR_INVALID_STATE := rfl
      rw [hloop]
      exact ⟨fun h => (by cases h), fun h => absurd List.mem_cons_self h.1.readable⟩
    | some p =>
      simp only [inventoryLoop, bind_eq_ok, require_eq_ok, reject_eq_ok, exists_const,
        Option.some.injEq, exists_eq_left']
      rw [← mayFollow_iff]
      split
      · next hchip =>
        rw [tidy_cons_primary hchip]
        simp only [bind_eq_ok, reject_eq_ok, exists_const, not_or, not_not, not_exists, not_and,
          StorageLayout.note_items, gt_iff_lt, Nat.not_lt, overlap_eq_false]
        have hitems : ((layout.note p).add p).items.length = layout.items.length + 1 := by
          rw [StorageLayout.add, StorageLayout.note_items, List.length_append, List.length_singleton]
        have hwith (hfollow : p.MayFollow chip layout) :
            ((layout.note p).add p).extended chip ps = layout.extended chip (some p :: ps) := by
          unfold StorageLayout.extended
          rw [StorageLayout.add, StorageLayout.note_items, (hfollow.note ps).2,
            primary_cons_pos hchip, List.append_assoc, List.singleton_append]
        constructor
        · rintro ⟨hfollow, ⟨hnonempty, haddress, hsectors, hinside, hlength⟩, hapart, h⟩
          have hlt : layout.items.length < MAX_PRIMARY_PARTITIONS := Nat.lt_of_le_of_ne hroom hlength
          obtain ⟨H, heq⟩ := (ih (hitems ▸ hlt)).mp h
          exact ⟨⟨hfollow, ⟨hnonempty, haddress, hsectors, hinside⟩, hlt,
            fun other hother => (hapart other hother).symm, H⟩, heq.trans (hwith hfollow)⟩
        · rintro ⟨⟨hfollow, hsound, hlt, hapart, H⟩, heq⟩
          exact ⟨hfollow, ⟨hsound.nonempty, hsound.address_aligned, hsound.size_aligned,
            hsound.inside, Nat.ne_of_lt hlt⟩, fun other hother => (hapart other hother).symm,
            (ih (hitems ▸ hlt)).mpr ⟨H, heq.trans (hwith hfollow).symm⟩⟩
      · next hchip =>
        rw [tidy_cons_other hchip, ih (by rwa [StorageLayout.note_items]), and_assoc]
        refine and_congr_right fun hfollow => and_congr_right fun _ => ?_
        unfold StorageLayout.extended
        rw [StorageLayout.note_items, (hfollow.note ps).2, primary_cons_neg hchip]

/-- What is known of an inventory that went well. -/
theorem inventoryLoop_ok {layout : StorageLayout}
    (hroom : layout.items.length ≤ MAX_PRIMARY_PARTITIONS)
    (h : inventoryLoop chip flashSize layout ps = .ok layout') :
    Inventoried chip flashSize layout ps layout' := by
  obtain ⟨H, rfl⟩ := (inventoryLoop_eq_ok hroom).mp h
  refine ⟨rfl, H.readable, H.sound,
    fun hapart => List.pairwise_append.mpr ⟨hapart, H.apart, H.clear⟩, fun hnone => ?_⟩
  obtain ⟨hlayout, hhead⟩ := Option.or_eq_none_iff.mp hnone
  refine ⟨hlayout, fun p hp hlabel => ?_⟩
  have hmem : p ∈ labelled ps := by
    refine List.mem_filter.mpr ⟨List.mem_filterMap.mpr ⟨_, hp, rfl⟩, by simpa using hlabel⟩
  rw [List.head?_eq_none_iff.mp hhead] at hmem
  cases hmem

/-! ## Exact partitions -/

/-- A partition of this type, and with this label if one is given. -/
def Partition.Matches (type subtype : Nat) (label : Option CString) (p : Partition) : Prop :=
  p.type = type ∧ p.subtype = subtype ∧ ∀ l ∈ label, p.label = l

instance (type subtype : Nat) (label : Option CString) (p : Partition) :
    Decidable (p.Matches type subtype label) :=
  inferInstanceAs (Decidable (_ ∧ _))

/-- There is exactly one such partition, at its place and writable. -/
def Present (items : List Partition) (type subtype : Nat) (address size : UInt32)
    (label : Option CString) : Prop :=
  ∃ p, (items.filter fun p => p.Matches type subtype label) = [p] ∧ p.address = address ∧
    p.size = size ∧ p.readonly = false

theorem exactLoop_true (h : exactLoop type subtype address size label matched items = true) :
    matched + (items.filter fun p => p.Matches type subtype label).length = 1 ∧
      ∀ p ∈ items.filter (fun p => p.Matches type subtype label),
        p.address = address ∧ p.size = size ∧ p.readonly = false := by
  induction items generalizing matched with
  | nil => exact ⟨by simpa [exactLoop] using h, fun _ hp => (by cases hp)⟩
  | cons p items ih =>
    unfold exactLoop at h
    split at h
    · next htype =>
      split at h
      · next hlabel =>
        have hp : ¬ p.Matches type subtype label := by
          obtain ⟨l, hl, hne⟩ := hlabel
          exact fun H => hne (H.2.2 l hl)
        rw [List.filter_cons_of_neg (by simpa using hp)]
        exact ih h
      · next hlabel =>
        have hp : p.Matches type subtype label := by
          refine ⟨htype.1, htype.2, fun l hl => ?_⟩
          exact Decidable.not_not.mp fun hne => hlabel ⟨l, hl, hne⟩
        rw [List.filter_cons_of_pos (by simpa using hp)]
        split at h
        · cases h
        · next hplace =>
          simp only [not_or, not_not, Bool.not_eq_true] at hplace
          obtain ⟨hcount, hall⟩ := ih h
          refine ⟨by rw [List.length_cons]; omega, fun q hq => ?_⟩
          rcases List.mem_cons.mp hq with rfl | hq
          · exact hplace
          · exact hall q hq
    · next htype =>
      have hp : ¬ p.Matches type subtype label := fun H => htype ⟨H.1, H.2.1⟩
      rw [List.filter_cons_of_neg (by simpa using hp)]
      exact ih h

theorem exactPartition_present
    (h : exactPartition layout type subtype address size label = true) :
    Present layout.items type subtype address size label := by
  obtain ⟨hcount, hall⟩ := exactLoop_true h
  rw [Nat.zero_add] at hcount
  obtain ⟨p, hp⟩ := List.length_eq_one_iff.mp hcount
  exact ⟨p, hp, hall p (hp ▸ List.mem_singleton.mpr rfl)⟩

/-- The five partitions of the table with two application slots. -/
structure OtaTable (items : List Partition) : Prop where
  ota0 : Present items ESP_PARTITION_TYPE_APP ESP_PARTITION_SUBTYPE_APP_OTA_0 0x20000 0x400000 none
  ota1 : Present items ESP_PARTITION_TYPE_APP ESP_PARTITION_SUBTYPE_APP_OTA_1 0x420000 0x400000 none
  nvs : Present items ESP_PARTITION_TYPE_DATA ESP_PARTITION_SUBTYPE_DATA_NVS 0x9000 0x6000
    (some "nvs".toList)
  otadata : Present items ESP_PARTITION_TYPE_DATA ESP_PARTITION_SUBTYPE_DATA_OTA 0xf000 0x2000 none
  phy : Present items ESP_PARTITION_TYPE_DATA ESP_PARTITION_SUBTYPE_DATA_PHY 0x11000 0x1000 none

theorem otaLayout_table (h : otaLayout layout = true) : OtaTable layout.items := by
  unfold otaLayout at h
  simp only [Bool.and_eq_true] at h
  obtain ⟨⟨⟨⟨h₀, h₁⟩, hnvs⟩, hota⟩, hphy⟩ := h
  exact ⟨exactPartition_present h₀, exactPartition_present h₁, exactPartition_present hnvs,
    exactPartition_present hota, exactPartition_present hphy⟩

/-- The partition table leaves the region free, and its partitions are in order. -/
structure RegionFree (env : StorageEnv) : Prop where
  readable : none ∉ env.partitions
  sound : ∀ p ∈ primary env.chip env.partitions, p.Sound env.flashSize.2
  apart : (primary env.chip env.partitions).Pairwise Partition.Apart
  table : OtaTable (primary env.chip env.partitions)
  inside : 0x860000 ≤ env.flashSize.2.toNat
  free : ∀ p ∈ primary env.chip env.partitions, Apart 0x820000 0x40000 p.address.toNat p.size.toNat
  unlabelled : ∀ p, some p ∈ env.partitions → p.label ≠ GATEWAY_STORAGE_LABEL

theorem storageLayout_free (h : storageLayout env = .ok true) : RegionFree env := by
  simp only [storageLayout, bind_eq_ok, reject_eq_ok, exists_const] at h
  obtain ⟨-, -, layout, hlayout, h⟩ := h
  have H := inventoryLoop_ok (Nat.zero_le _) hlayout
  have hitems : layout.items = primary env.chip env.partitions := by
    rw [H.items]
    exact List.nil_append _
  split at h
  · simp only [bind_eq_ok, reject_eq_ok, exists_const, pure_eq_ok, Bool.false_eq_true, and_false] at h
  · next hgateway =>
    simp only [bind_eq_ok, reject_eq_ok, exists_const, pure_eq_ok, and_true, not_not, not_exists,
      not_and, gt_iff_lt, Nat.not_lt] at h
    obtain ⟨hota, hinside, hfree⟩ := h
    have hsound := H.sound
    have hapart := H.apart .nil
    have htable := otaLayout_table hota
    rw [hitems] at hapart htable hfree
    exact {
      readable := H.readable
      sound := hsound
      apart := hapart
      table := htable
      inside := hinside
      free := fun p hp => overlap_eq_false.mp (hfree p hp)
      unlabelled := (H.unlabelled hgateway).2 }

/-! ## The marker -/

/-- What the reading loop leaves behind. -/
structure Scanned (env : StorageEnv) (offsets : List Nat) (s : StorageState)
    (r : EspErr × StorageState) : Prop where
  marker : r.2.marker = s.marker
  log : ∀ e ∈ r.2.log, e ∈ s.log ∨ ∃ a bytes, e = .read a bytes
  keeps : ∀ e ∈ s.log, e ∈ r.2.log
  blank : r.1 = ESP_OK → ∀ offset ∈ offsets, ∃ bytes,
    .read (GATEWAY_STORAGE_OTA_ADDRESS.toNat + offset) bytes ∈ r.2.log ∧
      bytes.length = BLANK_BUFFER ∧ ∀ b ∈ bytes, b = 0xff

theorem blankLoop_scanned (env : StorageEnv) (offsets : List Nat) (s : StorageState) :
    Scanned env offsets s (blankLoop env offsets s) := by
  induction offsets generalizing s with
  | nil => exact ⟨rfl, fun _ he => .inl he, fun _ he => he, fun _ _ hmem => (by cases hmem)⟩
  | cons offset offsets ih =>
    unfold blankLoop
    dsimp only
    split
    · next hread =>
      exact ⟨rfl, fun _ he => .inl he, fun _ he => he, fun hok => absurd hok hread⟩
    · split
      · refine ⟨rfl, fun e he => ?_, fun e he => List.mem_cons_of_mem _ he, fun hok => (by cases hok)⟩
        rcases List.mem_cons.mp he with rfl | he
        · exact .inr ⟨_, _, rfl⟩
        · exact .inl he
      · next hblank =>
        have H := ih { s with
          log := .read (GATEWAY_STORAGE_OTA_ADDRESS.toNat + offset)
            ((List.range BLANK_BUFFER).map fun i =>
              env.flash (GATEWAY_STORAGE_OTA_ADDRESS.toNat + offset + i)) :: s.log }
        refine ⟨H.marker, fun e he => ?_, fun e he => H.keeps e (List.mem_cons_of_mem _ he),
          fun hok o ho => ?_⟩
        · rcases H.log e he with he | he
          · rcases List.mem_cons.mp he with rfl | he
            · exact .inr ⟨_, _, rfl⟩
            · exact .inl he
          · exact .inr he
        · rcases List.mem_cons.mp ho with rfl | ho
          · refine ⟨_, H.keeps _ List.mem_cons_self, ?_, fun b hb => ?_⟩
            · rw [List.length_map, List.length_range]
            · exact Decidable.not_not.mp fun hne => hblank ⟨b, hb, hne⟩
          · exact H.blank hok o ho

/-- Every byte of the region was read, and read as 0xff. -/
def ReadBlank (log : List StorageEvent) : Prop :=
  ∀ a, 0x820000 ≤ a → a < 0x860000 → ∃ start bytes, .read start bytes ∈ log ∧ start ≤ a ∧
    bytes[a - start]? = some 0xff

theorem Scanned.readBlank (H : Scanned env blankOffsets s r) (hok : r.1 = ESP_OK) :
    ReadBlank r.2.log := by
  intro a hlow hhigh
  have hstart : GATEWAY_STORAGE_OTA_ADDRESS.toNat = 0x820000 := rfl
  have hchunk : (a - 0x820000) / BLANK_BUFFER * BLANK_BUFFER ∈ blankOffsets := by
    refine List.mem_map.mpr ⟨_, List.mem_range.mpr ?_, rfl⟩
    have hsize : GATEWAY_STORAGE_SIZE.toNat / BLANK_BUFFER = 512 := rfl
    rw [hsize]
    unfold BLANK_BUFFER
    omega
  obtain ⟨bytes, hread, hlength, hblank⟩ := H.blank hok _ hchunk
  have hoffset : a - (GATEWAY_STORAGE_OTA_ADDRESS.toNat +
      (a - 0x820000) / BLANK_BUFFER * BLANK_BUFFER) < bytes.length := by
    rw [hlength, hstart]
    unfold BLANK_BUFFER
    omega
  refine ⟨_, bytes, hread, ?_, ?_⟩
  · rw [hstart]
    unfold BLANK_BUFFER
    omega
  · rw [List.getElem?_eq_getElem hoffset]
    exact congrArg some (hblank _ (List.getElem_mem hoffset))

/-- The one write there is. -/
def markerWrite : StorageEvent := .setBlob MARKER_NAMESPACE MARKER_KEY ownershipMarker

/-- Reading the flash or opening the namespace. -/
def StorageEvent.IsLook : StorageEvent → Prop
  | .read .. | .nvsOpen .. => True
  | _ => False

/-- A log in which nothing was written or registered. -/
def OnlyLooks (log : List StorageEvent) : Prop := ∀ e ∈ log, e.IsLook

/-- What the claiming of the region leaves behind. -/
structure Claimed (env : StorageEnv) (s : StorageState) (r : EspErr × StorageState) : Prop where
  log : ∀ e ∈ r.2.log, e.IsLook ∨ e = markerWrite ∨ e = .commit
  blank : ∀ newer older, r.2.log = newer ++ markerWrite :: older → ReadBlank older
  ok : r.1 = ESP_OK → markerWrite ∈ r.2.log ∧ r.2.marker = some ownershipMarker
  failed : r.1 ≠ ESP_OK → r.2.marker = s.marker ∨
    markerWrite ∈ r.2.log ∧ r.2.marker = env.kept ∧ (r.1 = env.setBlob ∨ r.1 = env.commit)

theorem OnlyLooks.cons (H : OnlyLooks log) (h : e.IsLook) : OnlyLooks (e :: log) :=
  List.forall_mem_cons.mpr ⟨h, H⟩

theorem OnlyLooks.not_write (H : OnlyLooks log) : markerWrite ∉ log :=
  fun hmem => H _ hmem

/-- What comes before the only write. -/
theorem OnlyLooks.before (H : OnlyLooks log)
    (heq : markerWrite :: log = newer ++ markerWrite :: older) : older = log := by
  cases newer with
  | nil => exact (List.cons.inj heq).2.symm
  | cons e newer =>
    have htail := (List.cons.inj heq).2
    exact absurd (htail ▸ List.mem_append_right newer List.mem_cons_self) H.not_write

/-- As long as nothing was written. -/
theorem Claimed.of_looks (H : OnlyLooks t.log) (hmarker : t.marker = s.marker) (hfail : e ≠ ESP_OK) :
    Claimed env s (e, t) where
  log _ he := .inl (H _ he)
  blank newer _ heq :=
    absurd (heq ▸ List.mem_append_right newer List.mem_cons_self) H.not_write
  ok hok := absurd hok hfail
  failed _ := .inl hmarker

theorem Scanned.onlyLooks (H : Scanned env offsets s r) (hlog : OnlyLooks s.log) :
    OnlyLooks r.2.log := by
  intro e he
  rcases H.log e he with hmem | ⟨a, bytes, rfl⟩
  · exact hlog e hmem
  · trivial

/-- Opening the namespace reads no flash. -/
theorem ReadBlank.cons (H : ReadBlank log) (e : StorageEvent) : ReadBlank (e :: log) := by
  intro a hlow hhigh
  obtain ⟨start, bytes, hread, hstart, hbyte⟩ := H a hlow hhigh
  exact ⟨start, bytes, List.mem_cons_of_mem _ hread, hstart, hbyte⟩

theorem claimBlankRegion_claimed (env : StorageEnv) (s : StorageState) (hlog : OnlyLooks s.log) :
    Claimed env s (claimBlankRegion env s) := by
  have H := blankLoop_scanned env blankOffsets s
  have hlooks := H.onlyLooks hlog
  unfold claimBlankRegion
  dsimp only
  generalize blankLoop env blankOffsets s = r at H hlooks ⊢
  split
  · next hfail => exact .of_looks hlooks H.marker hfail
  · next hok =>
    have hblank := (H.readBlank (Decidable.not_not.mp hok)).cons (.nvsOpen MARKER_NAMESPACE true)
    have hopened := hlooks.cons (e := .nvsOpen MARKER_NAMESPACE true) trivial
    generalize StorageEvent.nvsOpen MARKER_NAMESPACE true :: r.2.log = log
      at hblank hopened ⊢
    have hevents {e : StorageEvent} (he : e ∈ log) : e.IsLook ∨ e = markerWrite ∨ e = .commit :=
      .inl (hopened e he)
    split
    · next hopen => exact .of_looks hopened H.marker hopen
    · split
      · next hset =>
        refine ⟨fun e he => ?_, fun newer older heq => ?_, fun h => absurd h hset, fun _ => ?_⟩
        · rcases List.mem_cons.mp he with rfl | he
          · exact .inr (.inl rfl)
          · exact hevents he
        · exact hopened.before heq ▸ hblank
        · exact .inr ⟨List.mem_cons_self, rfl, .inl rfl⟩
      · have hlast {newer older : List StorageEvent}
            (heq : StorageEvent.commit :: markerWrite :: log = newer ++ markerWrite :: older) :
            ReadBlank older := by
          cases newer with
          | nil => cases (List.cons.inj heq).1
          | cons e newer => exact hopened.before (List.cons.inj heq).2 ▸ hblank
        have hall {e : StorageEvent} (he : e ∈ StorageEvent.commit :: markerWrite :: log) :
            e.IsLook ∨ e = markerWrite ∨ e = .commit := by
          rcases List.mem_cons.mp he with rfl | he
          · exact .inr (.inr rfl)
          · rcases List.mem_cons.mp he with rfl | he
            · exact .inr (.inl rfl)
            · exact hevents he
        have hwritten : markerWrite ∈ StorageEvent.commit :: markerWrite :: log :=
          List.mem_cons_of_mem _ List.mem_cons_self
        split
        · next hcommit =>
          exact ⟨fun e he => hall he, fun newer older heq => hlast heq, fun h => absurd h hcommit,
            fun _ => .inr ⟨hwritten, rfl, .inr rfl⟩⟩
        · exact ⟨fun e he => hall he, fun newer older heq => hlast heq, fun _ => ⟨hwritten, rfl⟩,
            fun h => absurd rfl h⟩

theorem nvsGetBlob_ok {stored : Option (List UInt8)}
    (h : nvsGetBlob e stored capacity = .ok bytes) : stored = some bytes := by
  unfold nvsGetBlob at h
  split at h
  · cases h
  · split at h
    · cases h
    · split at h
      · cases h
        rfl
      · cases h

theorem checkMarker_owned (h : checkMarker env s = .ok true) : s.marker = some ownershipMarker := by
  unfold checkMarker at h
  split at h
  · cases h
  · split at h
    · cases h
    · split at h
      · split at h <;> cases h
      · next bytes hblob =>
        split at h
        · cases h
        · next hbytes =>
          rw [nvsGetBlob_ok hblob, Decidable.not_not.mp hbytes]

/-! ## Preparing -/

/-- The registration of the region. -/
def StorageEvent.IsRegister : StorageEvent → Prop
  | .register .. => True
  | _ => False

/-- What may be said when the region is registered: the table leaves it free, and the marker is
committed, which it was before or has become after all of the region was read as blank. -/
structure SafeToRegister (env : StorageEnv) (marker : Option (List UInt8)) (s : StorageState) : Prop where
  free : RegionFree env
  committed : s.marker = some ownershipMarker
  owned : marker = some ownershipMarker ∨ ∃ newer older, s.log = newer ++ markerWrite :: older ∧
    ReadBlank older

/-- What a call may leave behind. -/
structure Prepared (env : StorageEnv) (marker : Option (List UInt8)) (r : EspErr × StorageState) :
    Prop where
  safe : (∃ e ∈ r.2.log, e.IsRegister) → SafeToRegister env marker r.2
  writes : ∀ space key bytes, .setBlob space key bytes ∈ r.2.log →
    space = MARKER_NAMESPACE ∧ key = MARKER_KEY ∧ bytes = ownershipMarker
  failed : r.1 ≠ ESP_OK → (∀ e ∈ r.2.log, ¬ e.IsRegister) → r.2.marker = marker ∨
    markerWrite ∈ r.2.log ∧ r.2.marker = env.kept ∧ (r.1 = env.setBlob ∨ r.1 = env.commit)

theorem StorageEvent.IsLook.not_register {e : StorageEvent} (h : e.IsLook) : ¬ e.IsRegister := by
  cases e with
  | read | nvsOpen => exact id
  | setBlob | commit | register => exact h.elim

/-- A call that writes and registers nothing. -/
theorem Prepared.looks (env : StorageEnv) (marker : Option (List UInt8)) (e : EspErr)
    (H : OnlyLooks log) : Prepared env marker (e, ⟨marker, log⟩) where
  safe := fun ⟨e, he, hregister⟩ => absurd hregister (H e he).not_register
  writes _ _ _ he := (H _ he).elim
  failed _ _ := .inl rfl

theorem Claimed.not_register (H : Claimed env s r) : ∀ e ∈ r.2.log, ¬ e.IsRegister := by
  intro e he hregister
  rcases H.log e he with hlook | rfl | rfl
  · exact hlook.not_register hregister
  · exact hregister
  · exact hregister

theorem Claimed.write (H : Claimed env s r) (he : .setBlob space key bytes ∈ r.2.log) :
    space = MARKER_NAMESPACE ∧ key = MARKER_KEY ∧ bytes = ownershipMarker := by
  rcases H.log _ he with hlook | heq | heq
  · cases hlook
  · cases heq
    exact ⟨rfl, rfl, rfl⟩
  · cases heq

theorem Claimed.written (H : Claimed env s r) (hok : r.1 = ESP_OK) : ∃ newer older,
    r.2.log = newer ++ markerWrite :: older ∧ ReadBlank older := by
  obtain ⟨newer, older, heq⟩ := List.append_of_mem (H.ok hok).1
  exact ⟨newer, older, heq, H.blank newer older heq⟩

/-- The registration comes last. -/
theorem Prepared.register {t : StorageState} (hfree : RegionFree env)
    (hcommitted : t.marker = some ownershipMarker)
    (howned : marker = some ownershipMarker ∨ ∃ newer older, t.log = newer ++ markerWrite :: older ∧
      ReadBlank older)
    (hwrites : ∀ space key bytes, .setBlob space key bytes ∈ t.log →
      space = MARKER_NAMESPACE ∧ key = MARKER_KEY ∧ bytes = ownershipMarker) :
    Prepared env marker (e, { t with
      log := .register chip address size label type subtype :: t.log }) where
  safe _ := by
    refine ⟨hfree, hcommitted, ?_⟩
    rcases howned with howned | ⟨newer, older, heq, hblank⟩
    · exact .inl howned
    · exact .inr ⟨.register chip address size label type subtype :: newer, older,
        congrArg (List.cons _) heq, hblank⟩
  writes space key bytes he := by
    rcases List.mem_cons.mp he with heq | he
    · cases heq
    · exact hwrites space key bytes he
  failed _ hnone := absurd trivial (hnone _ List.mem_cons_self)

theorem gatewayStoragePrepare_prepared (env : StorageEnv) (marker : Option (List UInt8)) :
    Prepared env marker (gatewayStoragePrepare env ⟨marker, []⟩) := by
  have hempty : OnlyLooks [] := fun _ he => (by cases he)
  have hopened := hempty.cons (e := .nvsOpen MARKER_NAMESPACE false) trivial
  unfold gatewayStoragePrepare
  split
  · exact .looks env marker _ hempty
  · exact .looks env marker _ hempty
  · next hlayout =>
    have hfree := storageLayout_free hlayout
    dsimp only
    split
    · exact .looks env marker _ hopened
    · next owned hmarker =>
      cases owned with
      | true =>
        have howned : marker = some ownershipMarker := checkMarker_owned hmarker
        exact .register hfree howned (.inl howned) fun _ _ _ he => (hopened _ he).elim
      | false =>
        have H := claimBlankRegion_claimed env ⟨marker, [.nvsOpen MARKER_NAMESPACE false]⟩ hopened
        simp only [Bool.false_eq_true, if_false]
        generalize claimBlankRegion env ⟨marker, [.nvsOpen MARKER_NAMESPACE false]⟩ = r at H
        split
        · next hfail =>
          exact ⟨fun ⟨e, he, hregister⟩ => absurd hregister (H.not_register e he),
            fun _ _ _ he => H.write he, fun _ _ => H.failed hfail⟩
        · next hok =>
          have hok := Decidable.not_not.mp hok
          exact .register hfree (H.ok hok).2 (.inr (H.written hok)) fun _ _ _ he => H.write he

/-- For every partition table, flash, marker and outcome of the calls: the region is registered only if
that is safe; nothing but the marker is ever written; and a call that fails without having registered
anything leaves the marker as it was, unless it failed in writing it. -/
theorem gatewayStoragePrepare_safe (env : StorageEnv) (marker : Option (List UInt8)) :
    let r := gatewayStoragePrepare env ⟨marker, []⟩
    ((∃ e ∈ r.2.log, e.IsRegister) → SafeToRegister env marker r.2) ∧
      (∀ space key bytes, .setBlob space key bytes ∈ r.2.log →
        space = MARKER_NAMESPACE ∧ key = MARKER_KEY ∧ bytes = ownershipMarker) ∧
      (r.1 ≠ ESP_OK → (∀ e ∈ r.2.log, ¬ e.IsRegister) → r.2.marker = marker ∨
        markerWrite ∈ r.2.log ∧ r.2.marker = env.kept ∧ (r.1 = env.setBlob ∨ r.1 = env.commit)) := by
  have H := gatewayStoragePrepare_prepared env marker
  exact ⟨H.safe, H.writes, H.failed⟩

/-- The deployed table with two application slots on 16 MiB of flash, every call succeeding. -/
def otaEnv : StorageEnv where
  chip := some 0
  flashSize := (ESP_OK, 0x1000000)
  partitions :=
    [⟨some 0, ESP_PARTITION_TYPE_DATA, ESP_PARTITION_SUBTYPE_DATA_NVS, 0x9000, 0x6000, "nvs".toList,
        false, false⟩,
      ⟨some 0, ESP_PARTITION_TYPE_DATA, ESP_PARTITION_SUBTYPE_DATA_OTA, 0xf000, 0x2000,
        "otadata".toList, false, false⟩,
      ⟨some 0, ESP_PARTITION_TYPE_DATA, ESP_PARTITION_SUBTYPE_DATA_PHY, 0x11000, 0x1000,
        "phy".toList, false, false⟩,
      ⟨some 0, ESP_PARTITION_TYPE_APP, ESP_PARTITION_SUBTYPE_APP_OTA_0, 0x20000, 0x400000,
        "ota_0".toList, false, false⟩,
      ⟨some 0, ESP_PARTITION_TYPE_APP, ESP_PARTITION_SUBTYPE_APP_OTA_1, 0x420000, 0x400000,
        "ota_1".toList, false, false⟩].map some
  flash _ := 0xff
  flashRead _ := ESP_OK
  openReadonly := ESP_OK
  getBlob := ESP_OK
  openReadwrite := ESP_OK
  setBlob := ESP_OK
  commit := ESP_OK
  kept := none
  register := (ESP_OK, some ⟨some 0, ESP_PARTITION_TYPE_DATA, ESP_PARTITION_SUBTYPE_DATA_NVS,
    GATEWAY_STORAGE_OTA_ADDRESS, GATEWAY_STORAGE_SIZE, GATEWAY_STORAGE_LABEL, false, false⟩)

example : (gatewayStoragePrepare otaEnv ⟨some ownershipMarker, []⟩).1 = ESP_OK ∧
    (gatewayStoragePrepare otaEnv ⟨some ownershipMarker, []⟩).2.log.length = 2 := by
  decide +kernel

end ModbusGateway
