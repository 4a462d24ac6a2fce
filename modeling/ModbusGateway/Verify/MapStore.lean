import ModbusGateway.Custom.Parse

/-!
# The storage of a map

The strings and labels of a map lie in its own areas, which only grow. `CustomMap.EntryOf` says that an
entry stands for a point whatever is stored after it, and `CustomMap.Holds` that the entries of a map
stand for a list of points, which is what the map is for.
-/

namespace ModbusGateway

open Checks

theorem saveString_eq_some : saveString map s = some (offset, map') ↔
    s.length + 1 ≤ STRINGS_BYTES - map.stringsUsed ∧ offset = map.stringsUsed ∧
      map' = { map with strings := map.strings ++ s ++ ['\x00'] } := by
  unfold saveString
  split
  · next hfull =>
    constructor
    · intro h
      cases h
    · rintro ⟨hfits, -⟩
      omega
  · next hfits =>
    rw [Option.some.injEq, Prod.mk.injEq]
    constructor
    · rintro ⟨rfl, rfl⟩
      exact ⟨by omega, rfl, rfl⟩
    · rintro ⟨-, rfl, rfl⟩
      exact ⟨rfl, rfl⟩

namespace CustomMap
variable {map map' map'' : CustomMap} {offset : Nat} {s : CString}

/-- The string `s` lies at `offset` of the string area, its NUL included. -/
def Stored (map : CustomMap) (offset : Nat) (s : CString) : Prop :=
  (∀ c ∈ s, c ≠ '\x00') ∧ ∃ before after, before.length = offset ∧
    map.strings = before ++ (s ++ '\x00' :: after)

theorem Stored.string_eq (H : map.Stored offset s) : map.string offset = s := by
  obtain ⟨hs, before, after, rfl, hstrings⟩ := H
  rw [CustomMap.string, hstrings, List.drop_left, List.takeWhile_append_of_pos]
  · simp
  · intro c hc
    simpa using hs c hc

theorem Stored.inside (H : map.Stored offset s) : offset + s.length < map.stringsUsed := by
  obtain ⟨-, before, after, rfl, hstrings⟩ := H
  simp only [CustomMap.stringsUsed, hstrings, List.length_append, List.length_cons]
  omega

/-- `map'` is `map` with more strings and labels. -/
structure Extends (map' map : CustomMap) : Prop where
  strings : ∃ more, map'.strings = map.strings ++ more
  stateText : ∃ more, map'.stateText = map.stateText ++ more

theorem Extends.refl (map : CustomMap) : map.Extends map :=
  ⟨⟨[], (List.append_nil _).symm⟩, ⟨[], (List.append_nil _).symm⟩⟩

theorem Extends.trans (H : map''.Extends map') (H' : map'.Extends map) : map''.Extends map := by
  obtain ⟨⟨a, ha⟩, ⟨b, hb⟩⟩ := H
  obtain ⟨⟨a', ha'⟩, ⟨b', hb'⟩⟩ := H'
  exact ⟨⟨a' ++ a, by rw [ha, ha', List.append_assoc]⟩, ⟨b' ++ b, by rw [hb, hb', List.append_assoc]⟩⟩

theorem Stored.extend (H : map.Stored offset s) (hext : map'.Extends map) :
    map'.Stored offset s := by
  obtain ⟨hs, before, after, hlen, hstrings⟩ := H
  obtain ⟨more, hmore⟩ := hext.strings
  refine ⟨hs, before, after ++ more, hlen, ?_⟩
  rw [hmore, hstrings]
  simp

/-- `map` after `save_string`. -/
def push (map : CustomMap) (s : CString) : CustomMap :=
  { map with strings := map.strings ++ s ++ ['\x00'] }

theorem push_stored (hs : ∀ c ∈ s, c ≠ '\x00') : (map.push s).Stored map.stringsUsed s :=
  ⟨hs, map.strings, [], rfl, by simp [push]⟩

theorem push_extends (map : CustomMap) (s : CString) : (map.push s).Extends map :=
  ⟨⟨s ++ ['\x00'], by simp [push]⟩, ⟨[], by simp [push]⟩⟩

theorem push_stringsUsed (map : CustomMap) (s : CString) :
    (map.push s).stringsUsed = map.stringsUsed + (s.length + 1) := by
  simp [push, stringsUsed]

/-! ## Labels -/

/-- `map` after one label. -/
def pushLabel (map : CustomMap) (s : CString) : CustomMap :=
  { map.push s with stateText := map.stateText ++ [map.stringsUsed] }

theorem pushLabel_extends (map : CustomMap) (s : CString) : (map.pushLabel s).Extends map :=
  ⟨(map.push_extends s).strings, ⟨_, rfl⟩⟩

/-- `map` after the loop over these labels. -/
def pushLabels (map : CustomMap) : List CString → CustomMap
  | [] => map
  | s :: texts => (map.pushLabel s).pushLabels texts

/-- The bytes of some strings with their NULs. -/
def bytes (texts : List CString) : Nat := (texts.map fun s => s.length + 1).sum

/-- These labels are stored from index `first` of the label table on. -/
def LabelsAt (map : CustomMap) (first : Nat) (texts : List CString) : Prop :=
  List.Forall₂ map.Stored ((map.stateText.drop first).take texts.length) texts

variable {first : Nat} {texts : List CString}

theorem LabelsAt.length_le (H : map.LabelsAt first texts) :
    texts.length ≤ (map.stateText.drop first).length := by
  have hlen := H.length_eq
  rw [List.length_take] at hlen
  omega

theorem LabelsAt.map_string (H : map.LabelsAt first texts) :
    ((map.stateText.drop first).take texts.length).map map.string = texts := by
  unfold LabelsAt at H
  generalize (map.stateText.drop first).take texts.length = offsets at H
  induction H with
  | nil => rfl
  | cons h _ ih => rw [List.map_cons, h.string_eq, ih]

theorem LabelsAt.extend (H : map.LabelsAt first texts) (hext : map'.Extends map) :
    map'.LabelsAt first texts := by
  have hlen := H.length_le
  obtain ⟨more, hmore⟩ := hext.stateText
  unfold LabelsAt at H ⊢
  rw [hmore, List.drop_append, List.take_append_of_le_length hlen]
  exact H.imp fun _ _ h => h.extend hext

/-- One more label behind those at `first`. -/
theorem LabelsAt.push (H : map.LabelsAt first texts) (hfirst : first + texts.length = map.statesUsed)
    (hs : ∀ c ∈ s, c ≠ '\x00') : (map.pushLabel s).LabelsAt first (texts ++ [s]) := by
  have hlen : (map.stateText.drop first).length = texts.length := by
    rw [List.length_drop]
    unfold statesUsed at hfirst
    omega
  have hold := H.extend (map.pushLabel_extends s)
  have hstored : (map.pushLabel s).Stored map.stringsUsed s := push_stored hs
  unfold LabelsAt at hold ⊢
  have hdrop : (map.pushLabel s).stateText.drop first =
      map.stateText.drop first ++ [map.stringsUsed] :=
    List.drop_append_of_le_length (by unfold statesUsed at hfirst; omega)
  rw [hdrop, List.take_append_of_le_length (by omega)] at hold
  rw [hdrop, List.take_of_length_le (by simp [hlen])]
  rw [List.take_of_length_le (by omega)] at hold
  exact List.rel_append hold (.cons hstored .nil)

theorem pushLabels_extends (map : CustomMap) (texts : List CString) :
    (map.pushLabels texts).Extends map := by
  induction texts generalizing map with
  | nil => exact .refl map
  | cons s texts ih => exact (ih _).trans (map.pushLabel_extends s)

theorem pushLabels_statesUsed (map : CustomMap) (texts : List CString) :
    (map.pushLabels texts).statesUsed = map.statesUsed + texts.length := by
  induction texts generalizing map with
  | nil => rfl
  | cons s texts ih =>
    rw [pushLabels, ih]
    simp only [statesUsed, pushLabel, List.length_append, List.length_cons, List.length_nil]
    omega

theorem pushLabels_stringsUsed (map : CustomMap) (texts : List CString) :
    (map.pushLabels texts).stringsUsed = map.stringsUsed + bytes texts := by
  induction texts generalizing map with
  | nil => rfl
  | cons s texts ih =>
    have hpush := map.push_stringsUsed s
    rw [pushLabels, ih, bytes, bytes, List.map_cons, List.sum_cons, ← Nat.add_assoc, ← hpush]
    rfl

theorem pushLabels_entries (map : CustomMap) (texts : List CString) :
    (map.pushLabels texts).entries = map.entries := by
  induction texts generalizing map with
  | nil => rfl
  | cons s texts ih => exact ih _

/-- The labels stored by the loop are where the point says. -/
theorem pushLabels_labelsAt (hplain : ∀ t ∈ texts, ∀ c ∈ t, c ≠ '\x00')
    (H : map.LabelsAt first prev) (hfirst : first + prev.length = map.statesUsed) :
    (map.pushLabels texts).LabelsAt first (prev ++ texts) := by
  induction texts generalizing map prev with
  | nil =>
    rw [List.append_nil]
    exact H
  | cons s texts ih =>
    have hpushed := H.push hfirst (hplain s List.mem_cons_self)
    have hused : first + (prev ++ [s]).length = (map.pushLabel s).statesUsed := by
      simp only [statesUsed, pushLabel, List.length_append, List.length_cons,
        List.length_nil] at hfirst ⊢
      omega
    have hlabels := ih (fun t ht => hplain t (List.mem_cons_of_mem s ht)) hpushed hused
    rw [List.append_assoc] at hlabels
    exact hlabels

end CustomMap

/-- What the loop demands of labels, `prev` being stored before them. -/
structure LabelsOk (map : CustomMap) (prev texts : List CString) : Prop where
  each : ∀ t ∈ texts, t ≠ [] ∧ t.length ≤ 63
  nodup : (prev ++ texts).Nodup
  count : prev.length + texts.length ≤ CUSTOM_MAX_STATES
  total : map.statesUsed + texts.length ≤ CUSTOM_MAX_TOTAL_STATES

/-- One turn of the loop, when there is room for the label. -/
theorem addLabels_cons {map : CustomMap} {prev : List CString} (H : map.LabelsAt first prev)
    (hspace : map.stringsUsed + (s.length + 1) ≤ STRINGS_BYTES) :
    addLabels first (s :: texts) prev.length map = .ok r ↔
      ¬ (s = [] ∨ s.length > 63 ∨ prev.length = CUSTOM_MAX_STATES ∨
        map.statesUsed = CUSTOM_MAX_TOTAL_STATES) ∧ s ∉ prev ∧
        addLabels first texts (prev.length + 1) (map.pushLabel s) = .ok r := by
  have hprevious : (∃ o ∈ (map.stateText.drop first).take prev.length, map.string o = s) ↔
      s ∈ prev := by
    rw [← List.mem_map, H.map_string]
  have hsave : saveString map s = some (map.stringsUsed, map.push s) :=
    saveString_eq_some.mpr ⟨by omega, rfl, rfl⟩
  simp only [addLabels, bind_eq_ok, reject_eq_ok, require_eq_ok, exists_const, hprevious, hsave,
    Option.some.injEq]
  constructor
  · rintro ⟨hok, hnew, _, rfl, hrest⟩
    exact ⟨hok, hnew, hrest⟩
  · rintro ⟨hok, hnew, hrest⟩
    exact ⟨hok, hnew, _, rfl, hrest⟩

/-- The loop accepts exactly the labels that are well formed, new and not too many. -/
theorem addLabels_eq_ok {map map' : CustomMap} {prev texts : List CString}
    (hplain : ∀ t ∈ texts, ∀ c ∈ t, c ≠ '\x00')
    (H : map.LabelsAt first prev) (hfirst : first + prev.length = map.statesUsed)
    (hnodup : prev.Nodup) (hcount : prev.length ≤ CUSTOM_MAX_STATES)
    (htotal : map.statesUsed ≤ CUSTOM_MAX_TOTAL_STATES)
    (hspace : map.stringsUsed + CustomMap.bytes texts ≤ STRINGS_BYTES) :
    addLabels first texts prev.length map = .ok (count, map') ↔
      LabelsOk map prev texts ∧ count = prev.length + texts.length ∧
        map' = map.pushLabels texts := by
  induction texts generalizing map prev with
  | nil =>
    simp only [addLabels, Except.ok.injEq, Prod.mk.injEq]
    constructor
    · rintro ⟨rfl, rfl⟩
      exact ⟨⟨fun _ h => (by cases h), by rw [List.append_nil]; exact hnodup, hcount, htotal⟩, rfl,
        rfl⟩
    · rintro ⟨-, rfl, rfl⟩
      exact ⟨rfl, rfl⟩
  | cons s texts ih =>
    have hbytes : CustomMap.bytes (s :: texts) = s.length + 1 + CustomMap.bytes texts := by
      rw [CustomMap.bytes, CustomMap.bytes, List.map_cons, List.sum_cons]
    have hs := hplain s List.mem_cons_self
    have hused : (map.pushLabel s).statesUsed = map.statesUsed + 1 := by
      simp [CustomMap.statesUsed, CustomMap.pushLabel]
    have hstrings : (map.pushLabel s).stringsUsed = map.stringsUsed + (s.length + 1) :=
      map.push_stringsUsed s
    have hlen : (prev ++ [s]).length = prev.length + 1 := by simp
    have hsplit : prev ++ s :: texts = (prev ++ [s]) ++ texts := by simp
    rw [addLabels_cons H (by omega)]
    have hrest (hok : prev.length ≠ CUSTOM_MAX_STATES ∧
        map.statesUsed ≠ CUSTOM_MAX_TOTAL_STATES) (hnew : s ∉ prev) :=
      ih (fun t ht => hplain t (List.mem_cons_of_mem s ht)) (H.push hfirst hs)
        (by rw [hlen, hused]; omega)
        (List.nodup_append.mpr ⟨hnodup, List.nodup_singleton s, by
          rintro a ha b hb rfl
          rw [List.mem_singleton] at hb
          exact hnew (hb ▸ ha)⟩)
        (by rw [hlen]; omega) (by rw [hused]; omega) (by rw [hstrings]; omega)
    constructor
    · rintro ⟨hok, hnew, hadd⟩
      simp only [not_or] at hok
      rw [← hlen, hrest hok.2.2 hnew] at hadd
      obtain ⟨hlabels, rfl, rfl⟩ := hadd
      refine ⟨⟨?_, ?_, ?_, ?_⟩, ?_, rfl⟩
      · intro t ht
        rcases List.mem_cons.mp ht with rfl | ht
        · exact ⟨hok.1, by omega⟩
        · exact hlabels.each t ht
      · rw [hsplit]
        exact hlabels.nodup
      · have := hlabels.count
        rw [hlen] at this
        rw [List.length_cons]
        omega
      · have := hlabels.total
        rw [hused] at this
        rw [List.length_cons]
        omega
      · rw [hlen, List.length_cons]
        omega
    · rintro ⟨hlabels, rfl, rfl⟩
      have hcount' := hlabels.count
      have htotal' := hlabels.total
      rw [List.length_cons] at hcount' htotal'
      have hnodup' := hlabels.nodup
      obtain ⟨hne, hshort⟩ := hlabels.each s List.mem_cons_self
      have hnew : s ∉ prev := fun hmem =>
        (List.nodup_append.mp hnodup').2.2 s hmem s List.mem_cons_self rfl
      have hok : prev.length ≠ CUSTOM_MAX_STATES ∧ map.statesUsed ≠ CUSTOM_MAX_TOTAL_STATES :=
        ⟨by omega, by omega⟩
      refine ⟨by simp only [not_or]; exact ⟨hne, by omega, hok⟩, hnew, ?_⟩
      rw [← hlen, hrest hok hnew]
      refine ⟨⟨fun t ht => hlabels.each t (List.mem_cons_of_mem s ht), ?_, ?_, ?_⟩, ?_, rfl⟩
      · rw [← hsplit]
        exact hnodup'
      · rw [hlen]
        omega
      · rw [hused]
        omega
      · rw [hlen, List.length_cons]
        omega

/-! ## Points -/

/-- A point of a map, apart from where its strings are stored. -/
structure MapPoint where
  pointDef : AtsPointDef
  point : CustomPoint

/-- The strings of a point end where their NUL is, and its labels are counted. -/
structure MapPoint.WellFormed (q : MapPoint) : Prop where
  name : ∀ c ∈ q.pointDef.name, c ≠ '\x00'
  description : ∀ c ∈ q.pointDef.description, c ≠ '\x00'
  labels : ∀ t ∈ q.pointDef.stateText.getD [], ∀ c ∈ t, c ≠ '\x00'
  count : q.pointDef.stateCount = (q.pointDef.stateText.getD []).length

namespace CustomMap
variable {map map' : CustomMap} {q : MapPoint} {points : List MapPoint}

/-- Where the labels of a point are stored, if it has any. -/
inductive StatesAt (map : CustomMap) : Option Nat → Option (List CString) → Prop
  | none : StatesAt map .none .none
  | some : map.LabelsAt first texts → StatesAt map (.some first) (.some texts)

/-- The entry `e` of a map stands for the point `q`. -/
structure EntryOf (map : CustomMap) (e : CustomEntry) (q : MapPoint) : Prop where
  point : e.point = q.point
  name : map.Stored e.pointDef.name q.pointDef.name
  description : map.Stored e.pointDef.description q.pointDef.description
  states : map.StatesAt e.pointDef.stateText q.pointDef.stateText
  count : q.pointDef.stateCount = (q.pointDef.stateText.getD []).length
  objectType : e.pointDef.objectType = q.pointDef.objectType
  instanceNumber : e.pointDef.instanceNumber = q.pointDef.instanceNumber
  units : e.pointDef.units = q.pointDef.units
  stateCount : e.pointDef.stateCount = q.pointDef.stateCount
  offset : e.pointDef.offset = q.pointDef.offset
  wordCount : e.pointDef.wordCount = q.pointDef.wordCount
  bitLsb : e.pointDef.bitLsb = q.pointDef.bitLsb
  bitWidth : e.pointDef.bitWidth = q.pointDef.bitWidth

theorem StatesAt.extend (H : map.StatesAt first texts) (hext : map'.Extends map) :
    map'.StatesAt first texts := by
  cases H with
  | none => exact .none
  | some h => exact .some (h.extend hext)

theorem EntryOf.extend (H : map.EntryOf e q) (hext : map'.Extends map) : map'.EntryOf e q :=
  { H with
    name := H.name.extend hext
    description := H.description.extend hext
    states := H.states.extend hext }

/-- Seen through the string area, the entry is the catalogue entry of the point. -/
theorem EntryOf.resolve_eq (H : map.EntryOf e q) : map.resolve e.pointDef = q.pointDef := by
  have hlabels : map.labels e.pointDef = q.pointDef.stateText := by
    have hcount := H.stateCount.trans H.count
    have hstates := H.states
    unfold CustomMap.labels
    generalize e.pointDef.stateText = first at hstates
    generalize q.pointDef.stateText = texts at hstates hcount
    cases hstates with
    | none => rfl
    | some h =>
      rw [hcount]
      exact congrArg some h.map_string
  unfold resolve
  rw [hlabels, H.name.string_eq, H.description.string_eq, H.objectType, H.instanceNumber, H.units,
    H.stateCount, H.offset, H.wordCount, H.bitLsb, H.bitWidth]

/-- The entries of the map stand for these points, and its labels are theirs. -/
structure Holds (map : CustomMap) (points : List MapPoint) : Prop where
  entries : List.Forall₂ map.EntryOf map.entries points
  states : map.statesUsed = (points.map fun q => q.pointDef.stateCount).sum

theorem holds_empty : ({} : CustomMap).Holds [] := ⟨.nil, rfl⟩

/-- `map` with the strings of a point. -/
def pushTexts (map : CustomMap) (d : AtsPointDef) : CustomMap :=
  ((map.push d.name).push d.description).pushLabels (d.stateText.getD [])

/-- `map` after the row of a point. -/
def append (map : CustomMap) (q : MapPoint) : CustomMap :=
  { map.pushTexts q.pointDef with
    entries := map.entries ++ [{
      point := q.point
      pointDef := {
        objectType := q.pointDef.objectType
        instanceNumber := q.pointDef.instanceNumber
        name := map.stringsUsed
        description := (map.push q.pointDef.name).stringsUsed
        units := q.pointDef.units
        stateCount := q.pointDef.stateCount
        stateText := q.pointDef.stateText.map fun _ => map.statesUsed
        offset := q.pointDef.offset
        wordCount := q.pointDef.wordCount
        bitLsb := q.pointDef.bitLsb
        bitWidth := q.pointDef.bitWidth } }] }

theorem append_extends (map : CustomMap) (q : MapPoint) : (map.append q).Extends map := by
  have hpushed : (map.pushTexts q.pointDef).Extends map :=
    (pushLabels_extends _ _).trans ((push_extends _ _).trans (push_extends _ _))
  exact ⟨hpushed.strings, hpushed.stateText⟩

theorem append_stringsUsed (map : CustomMap) (q : MapPoint) :
    (map.append q).stringsUsed = map.stringsUsed + (q.pointDef.name.length + 1) +
      (q.pointDef.description.length + 1) + bytes (q.pointDef.stateText.getD []) := by
  rw [← push_stringsUsed, ← push_stringsUsed, ← pushLabels_stringsUsed]
  rfl

theorem append_statesUsed (map : CustomMap) (q : MapPoint) :
    (map.append q).statesUsed = map.statesUsed + (q.pointDef.stateText.getD []).length :=
  pushLabels_statesUsed _ _

/-- The new entry stands for the new point. -/
theorem append_entryOf (map : CustomMap) (hq : q.WellFormed) :
    ∃ e, (map.append q).entries = map.entries ++ [e] ∧ (map.append q).EntryOf e q := by
  have hname : (map.push q.pointDef.name).Stored map.stringsUsed q.pointDef.name :=
    push_stored hq.name
  have hdescription : ((map.push q.pointDef.name).push q.pointDef.description).Stored
      (map.push q.pointDef.name).stringsUsed q.pointDef.description := push_stored hq.description
  have hlabels : map.pushTexts q.pointDef |>.LabelsAt map.statesUsed
      ([] ++ q.pointDef.stateText.getD []) :=
    pushLabels_labelsAt hq.labels .nil rfl
  have hext : (map.append q).Extends (map.pushTexts q.pointDef) :=
    ⟨(Extends.refl _).strings, (Extends.refl _).stateText⟩
  have hext₂ : (map.append q).Extends ((map.push q.pointDef.name).push q.pointDef.description) :=
    hext.trans (pushLabels_extends _ _)
  refine ⟨_, rfl, ?_⟩
  refine ⟨rfl, hname.extend (hext₂.trans (push_extends _ _)), hdescription.extend hext₂, ?_,
    hq.count, rfl, rfl, rfl, rfl, rfl, rfl, rfl, rfl⟩
  dsimp only
  cases hstates : q.pointDef.stateText with
  | none => exact .none
  | some texts =>
    rw [hstates] at hlabels
    exact .some (hlabels.extend hext)

theorem Holds.append (H : map.Holds points) (hq : q.WellFormed) :
    (map.append q).Holds (points ++ [q]) := by
  obtain ⟨e, hentries, he⟩ := map.append_entryOf hq
  refine ⟨?_, ?_⟩
  · rw [hentries]
    exact List.rel_append (H.entries.imp fun _ _ h => h.extend (map.append_extends q))
      (.cons he .nil)
  · rw [append_statesUsed, H.states, ← hq.count]
    simp

/-- The points of a map, seen through its strings. -/
theorem Holds.resolve_eq (H : map.Holds points) :
    map.entries.map (fun e => map.resolve e.pointDef) = points.map MapPoint.pointDef := by
  obtain ⟨hentries, -⟩ := H
  generalize map.entries = entries at hentries
  induction hentries with
  | nil => rfl
  | cons h _ ih => rw [List.map_cons, List.map_cons, h.resolve_eq, ih]

theorem Holds.count_eq (H : map.Holds points) : map.count = points.length := H.entries.length_eq

/-- The earlier rows are the earlier points. -/
theorem Holds.fresh_iff (H : map.Holds points) :
    (∀ e ∈ map.entries, map.string e.pointDef.name ≠ name ∧
      ¬ (e.pointDef.objectType = objectType ∧ e.pointDef.instanceNumber = instanceNumber)) ↔
    ∀ q ∈ points, q.pointDef.name ≠ name ∧
      ¬ (q.pointDef.objectType = objectType ∧ q.pointDef.instanceNumber = instanceNumber) := by
  obtain ⟨hentries, -⟩ := H
  generalize map.entries = entries at hentries
  induction hentries with
  | nil => simp
  | cons h _ ih =>
    rw [List.forall_mem_cons, List.forall_mem_cons, ih, h.name.string_eq, h.objectType,
      h.instanceNumber]

end CustomMap

end ModbusGateway
