import ModbusGateway.Config.Json
import ModbusGateway.Theory.JsonText

/-!
# The two scanners before the parser

`gateway_json_is_flat` and `gateway_json_has_nul` run on the raw text. On a serialization both are
compared with the value, by induction on the grammar; on any other text a positive answer of the
first bounds the nesting of what a parser can read.
-/

namespace ModbusGateway
open JsonText

/-! ## Nesting -/

/-- A character that has no meaning outside strings. -/
theorem flatLoop_cons {c : Char} (h : c ∉ ['"', '{', '[', '}', ']']) (depth : Nat)
    (text : List Char) :
    flatLoop false false depth (c :: text) = flatLoop false false depth text := by
  simp only [List.mem_cons, List.not_mem_nil, or_false, not_or] at h
  obtain ⟨h₁, h₂, h₃, h₄, h₅⟩ := h
  simp only [flatLoop, h₁, h₂, h₃, h₄, h₅, Bool.false_eq_true, false_and, or_self, if_false]

theorem flatLoop_skips (depth : Nat) (H : Skips text rest) :
    flatLoop false false depth text = flatLoop false false depth rest := by
  refine H.scan fun c text hc => flatLoop_cons ?_ depth text
  simp only [isBare, Bool.and_eq_true, bne_iff_ne] at hc
  simp [hc]

/-- A character that has no meaning in a string. -/
theorem flatLoop_inString {c : Char} (hquote : c ≠ '"') (hslash : c ≠ '\\') (depth : Nat)
    (text : List Char) :
    flatLoop false true depth (c :: text) = flatLoop false true depth text := by
  simp only [flatLoop, hquote, hslash, and_false, if_false, if_true, Bool.false_eq_true]

theorem flatLoop_plain (depth : Nat) (text : List Char) (hc : isPlain c = true) :
    flatLoop false true depth (c :: text) = flatLoop false true depth text := by
  simp only [isPlain, Bool.and_eq_true, bne_iff_ne] at hc
  exact flatLoop_inString hc.1.2 hc.2 depth text

/-- A string leaves the depth alone, whatever is in it. -/
theorem flatLoop_units (depth : Nat) (H : Units us text rest) :
    flatLoop false true depth text = flatLoop false false depth rest := by
  induction H with
  | close => rfl
  | plain hc _ ih => rw [flatLoop_plain depth _ hc, ih]
  | escape _ _ ih => exact ih
  | unicode h₃ h₂ h₁ h₀ _ ih =>
    have hescape (text : List Char) : flatLoop false true depth ('\\' :: 'u' :: text) =
      flatLoop false true depth text := rfl
    rw [hescape, flatLoop_plain depth _ (isPlain_of_hexDigit h₃),
      flatLoop_plain depth _ (isPlain_of_hexDigit h₂),
      flatLoop_plain depth _ (isPlain_of_hexDigit h₁),
      flatLoop_plain depth _ (isPlain_of_hexDigit h₀), ih]

theorem flatLoop_quoted (depth : Nat) (H : Quoted s text rest) :
    flatLoop false false depth text = flatLoop false false depth rest := by
  cases H with
  | intro hunits => exact flatLoop_units depth hunits

theorem flatLoop_name (depth : Nat) (H : Name key text rest) :
    flatLoop false false depth text = flatLoop false false depth rest := by
  cases H with
  | intro hbefore hquoted hbehind =>
    rw [flatLoop_skips depth hbefore.skips, flatLoop_quoted depth hquoted,
      flatLoop_skips depth hbehind.skips]

/-- What a phrase does to the scan. At depth 0 stands a document, at depth 1 what is in it. -/
def FlatScan : Phrase → List Char → List Char → Prop
  | .value v, text, rest | .element v, text, rest =>
    flatLoop false false 0 text = (v.isFlat && flatLoop false false 0 rest) ∧
      flatLoop false false 1 text = (v.isScalar && flatLoop false false 1 rest)
  | .items items, text, rest =>
    flatLoop false false 1 text = (items.all Json.isScalar && flatLoop false false 1 rest)
  | .members members, text, rest =>
    flatLoop false false 1 text =
      (members.all (fun m => m.2.isScalar) && flatLoop false false 1 rest)

/-- A scalar outside strings is passed over. -/
theorem FlatScan.scalar {v : Json} (hv : v.isScalar = true)
    (h : ∀ depth, flatLoop false false depth text = flatLoop false false depth rest) :
    FlatScan (.value v) text rest := by
  refine ⟨?_, ?_⟩
  · rw [h, Json.isFlat_of_isScalar hv, Bool.true_and]
  · rw [h, hv, Bool.true_and]

/-- An opening bracket is allowed at depth 0 and nowhere else. -/
theorem flatLoop_open (hc : c = '[' ∨ c = '{') (text : List Char) :
    flatLoop false false 0 (c :: text) = flatLoop false false 1 text ∧
      flatLoop false false 1 (c :: text) = false := by
  rcases hc with rfl | rfl
  · exact ⟨rfl, rfl⟩
  · exact ⟨rfl, rfl⟩

theorem flatLoop_close (hc : c = ']' ∨ c = '}') (text : List Char) :
    flatLoop false false 1 (c :: text) = flatLoop false false 0 text := by
  rcases hc with rfl | rfl
  · rfl
  · rfl

/-- An array or an object around what is in it. -/
theorem FlatScan.nested {v : Json} (hv : v.isScalar = false) (hopen : a = '[' ∨ a = '{')
    (hclose : b = ']' ∨ b = '}')
    (h : flatLoop false false 1 text = (v.isFlat && flatLoop false false 1 (b :: rest))) :
    FlatScan (.value v) (a :: text) rest := by
  rw [flatLoop_close hclose] at h
  obtain ⟨houter, hinner⟩ := flatLoop_open hopen text
  refine ⟨houter.trans h, ?_⟩
  rw [hinner, hv, Bool.false_and]

/-- What separates two parts has no meaning for the scan. -/
theorem flatLoop_separator (hc : c = ',' ∨ c = ':') (text : List Char) :
    flatLoop false false 1 (c :: text) = flatLoop false false 1 text := by
  rcases hc with rfl | rfl
  · rfl
  · rfl

theorem flatScan_of_reads (H : Reads p text rest) : FlatScan p text rest := by
  induction H with
  | null => exact .scalar rfl fun _ => rfl
  | true => exact .scalar rfl fun _ => rfl
  | false => exact .scalar rfl fun _ => rfl
  | number hnumber => exact .scalar rfl fun depth => flatLoop_skips depth hnumber.skips
  | string hquoted => exact .scalar rfl fun depth => flatLoop_quoted depth hquoted
  | emptyArray hspace =>
    exact .nested rfl (.inl rfl) (.inl rfl) (flatLoop_skips 1 hspace.skips)
  | array _ ih => exact .nested rfl (.inl rfl) (.inl rfl) ih
  | emptyObject hspace =>
    exact .nested rfl (.inr rfl) (.inr rfl) (flatLoop_skips 1 hspace.skips)
  | object _ ih => exact .nested rfl (.inr rfl) (.inr rfl) ih
  | element hbefore _ hbehind ih =>
    obtain ⟨houter, hinner⟩ := ih
    refine ⟨?_, ?_⟩
    · rw [flatLoop_skips 0 hbefore.skips, houter, flatLoop_skips 0 hbehind.skips]
    · rw [flatLoop_skips 1 hbefore.skips, hinner, flatLoop_skips 1 hbehind.skips]
  | @lastItem v _ _ _ ih =>
    have hall : [v].all Json.isScalar = v.isScalar := Bool.and_true _
    rw [FlatScan, hall]
    exact ih.2
  | items _ _ ih ih' =>
    have hnext := ih.2
    rw [flatLoop_separator (.inl rfl), ih'] at hnext
    rw [FlatScan, hnext, List.all_cons, Bool.and_assoc]
  | @lastMember key _ _ v _ hname _ ih =>
    have hall : [(key, v)].all (fun m => m.2.isScalar) = v.isScalar := Bool.and_true _
    rw [FlatScan, hall, flatLoop_name 1 hname, flatLoop_separator (.inr rfl)]
    exact ih.2
  | members hname _ _ ih ih' =>
    have hnext := ih.2
    rw [flatLoop_separator (.inl rfl), ih'] at hnext
    rw [FlatScan, flatLoop_name 1 hname, flatLoop_separator (.inr rfl), hnext, List.all_cons,
      Bool.and_assoc]

/-- In a string the scan goes where a tokenizer goes. -/
theorem flatLoop_behindString (depth : Nat) (text : List Char) :
    flatLoop false true depth text =
      match behindString text with
      | some rest => flatLoop false false depth rest
      | none => false := by
  induction text using behindString.induct with
  | case1 => rfl
  | case2 => rfl
  | case3 c hquote =>
    rw [behindString, if_neg hquote]
    by_cases hslash : c = '\\'
    · subst hslash
      rfl
    · exact flatLoop_inString hquote hslash depth []
  | case4 c' text =>
    rw [behindString, if_pos rfl]
    rfl
  | case5 c' text hquote ih =>
    rw [behindString, if_neg hquote, if_pos rfl]
    exact ih
  | case6 c c' text hquote hslash ih =>
    rw [behindString, if_neg hquote, if_neg hslash, flatLoop_inString hquote hslash]
    exact ih

/-- While the scan succeeds it counts the brackets that are open. -/
theorem reaches_le (H : Reaches depth text n) (hdepth : depth ≤ 1)
    (hflat : flatLoop false false depth text = true) : n ≤ 1 := by
  induction H with
  | here => exact hdepth
  | @opened c depth text n hc _ ih =>
    obtain ⟨hzero, hone⟩ := flatLoop_open hc text
    have hcases : depth = 0 ∨ depth = 1 := by omega
    rcases hcases with rfl | rfl
    · exact ih (Nat.le_refl 1) (hzero.symm.trans hflat)
    · exact absurd (hone.symm.trans hflat) Bool.false_ne_true
  | @closed c depth text n hc _ ih =>
    have hzero : depth = 0 := by omega
    subst hzero
    exact ih (Nat.zero_le 1) ((flatLoop_close hc text).symm.trans hflat)
  | @string text rest depth n hbehind _ ih =>
    have hstring := flatLoop_behindString depth text
    rw [hbehind] at hstring
    exact ih hdepth (hstring.symm.trans hflat)
  | @other c depth text n hc _ ih =>
    have hcons := flatLoop_cons (c := c) (by simp [hc]) depth text
    exact ih hdepth (hcons.symm.trans hflat)

/-- On a serialization the scan decides whether the value is a scalar or an array or object of scalars.
Whatever it accepts has no brackets within brackets, up to where a parser has to stop. -/
theorem gatewayJsonIsFlat_exact :
    (∀ v text, Serializes v text → gatewayJsonIsFlat text = v.isFlat) ∧
      ∀ text, gatewayJsonIsFlat text = true → ∀ depth, Reaches 0 text depth → depth ≤ 1 := by
  refine ⟨fun v text H => ?_, fun text hflat depth H => reaches_le H (Nat.zero_le 1) hflat⟩
  have hscan := (flatScan_of_reads H).1
  rw [gatewayJsonIsFlat, hscan]
  exact Bool.and_true _

/-- `{"a":"["}` is flat and `[["a"]]` is not; the broken text `[[` is not accepted, since a parser would come
to be inside two brackets. -/
theorem gatewayJsonIsFlat_exact_brackets :
    gatewayJsonIsFlat ['{', '"', 'a', '"', ':', '"', '[', '"', '}'] = true ∧
      gatewayJsonIsFlat ['[', '[', '"', 'a', '"', ']', ']'] = false ∧ gatewayJsonIsFlat ['[', '['] = false := by
  have hletter (rest : List Char) : Quoted ['a'.toNat] ('"' :: 'a' :: '"' :: rest) rest := .intro (.plain rfl .close)
  have hbracket : Reads (.value (.string ['['.toNat])) ('"' :: _) ['}'] := .string (.intro (.plain rfl .close))
  have hobject : Serializes (.object [(['a'.toNat], .string ['['.toNat])])
      ['{', '"', 'a', '"', ':', '"', '[', '"', '}'] :=
    .element .nil (.object (.lastMember (.intro .nil (hletter _) .nil) (.element .nil hbracket .nil))) .nil
  have hinner : Reads (.value (.array [.string ['a'.toNat]])) ('[' :: _) [']'] :=
    .array (.lastItem (.element .nil (.string (hletter [']', ']'])) .nil))
  have hnested : Serializes (.array [.array [.string ['a'.toNat]]]) ['[', '[', '"', 'a', '"', ']', ']'] :=
    .element .nil (.array (.lastItem (.element .nil hinner .nil))) .nil
  obtain ⟨hexact, hdepth⟩ := gatewayJsonIsFlat_exact
  refine ⟨(hexact _ _ hobject).trans rfl, (hexact _ _ hnested).trans rfl, Bool.eq_false_iff.mpr fun hflat => ?_⟩
  exact absurd (hdepth _ hflat 2 (.opened (.inl rfl) (.opened (.inl rfl) .here))) (by decide)

/-! ## The code point 0 -/

theorem hasNulEscape_cons {c : Char} (hc : c ≠ '\\') (text : List Char) :
    hasNulEscape (c :: text) = hasNulEscape text := by
  cases text with
  | nil => rfl
  | cons c' text => rw [hasNulEscape, if_neg hc]

theorem hasNulEscape_escape {d : Char} (hd : d ≠ 'u') (text : List Char) :
    hasNulEscape ('\\' :: d :: text) = hasNulEscape text := by
  have hprefix : ['u', '0', '0', '0', '0'].isPrefixOf (d :: text) = false := by
    simp [List.isPrefixOf, Ne.symm hd]
  rw [hasNulEscape, if_pos rfl, hprefix]
  rfl

theorem hasNulEscape_plain (hc : isPlain c = true) (text : List Char) :
    hasNulEscape (c :: text) = hasNulEscape text := by
  simp only [isPlain, Bool.and_eq_true, bne_iff_ne] at hc
  exact hasNulEscape_cons hc.2 text

/-- An escape of four digits is reported if they are zeros, and skipped otherwise. -/
theorem hasNulEscape_unicode (h₃ : hexDigit c₃ = some d₃) (h₂ : hexDigit c₂ = some d₂)
    (h₁ : hexDigit c₁ = some d₁) (h₀ : hexDigit c₀ = some d₀) (text : List Char) :
    hasNulEscape ('\\' :: 'u' :: c₃ :: c₂ :: c₁ :: c₀ :: text) = true ↔
      ((d₃ * 16 + d₂) * 16 + d₁) * 16 + d₀ = 0 ∨ hasNulEscape text = true := by
  by_cases hzero : ((d₃ * 16 + d₂) * 16 + d₁) * 16 + d₀ = 0
  · obtain ⟨rfl, rfl, rfl, rfl⟩ : d₃ = 0 ∧ d₂ = 0 ∧ d₁ = 0 ∧ d₀ = 0 := by omega
    rw [hexDigit_eq_zero h₃, hexDigit_eq_zero h₂, hexDigit_eq_zero h₁, hexDigit_eq_zero h₀]
    exact iff_of_true rfl (.inl rfl)
  have hdigits : ¬ (c₃ = '0' ∧ c₂ = '0' ∧ c₁ = '0' ∧ c₀ = '0') := by
    rintro ⟨rfl, rfl, rfl, rfl⟩
    have hvalue : hexDigit '0' = some 0 := rfl
    rw [hvalue] at h₃ h₂ h₁ h₀
    cases h₃
    cases h₂
    cases h₁
    cases h₀
    exact hzero rfl
  have hprefix : ['u', '0', '0', '0', '0'].isPrefixOf ('u' :: c₃ :: c₂ :: c₁ :: c₀ :: text) =
      false := by
    refine Bool.eq_false_iff.mpr fun hmatch => ?_
    simp only [List.isPrefixOf, Bool.and_eq_true, beq_iff_eq] at hmatch
    obtain ⟨-, h₃', h₂', h₁', h₀', -⟩ := hmatch
    exact hdigits ⟨h₃'.symm, h₂'.symm, h₁'.symm, h₀'.symm⟩
  rw [hasNulEscape, if_pos rfl, hprefix, if_neg Bool.false_ne_true,
    hasNulEscape_plain (isPlain_of_hexDigit h₃), hasNulEscape_plain (isPlain_of_hexDigit h₂),
    hasNulEscape_plain (isPlain_of_hexDigit h₁), hasNulEscape_plain (isPlain_of_hexDigit h₀)]
  exact (or_iff_right hzero).symm

theorem contains_nul_cons {c : Char} (hc : c ≠ '\x00') (text : List Char) :
    (c :: text).contains '\x00' = text.contains '\x00' := by
  rw [List.contains_cons, beq_eq_false_iff_ne.mpr hc.symm, Bool.false_or]

theorem ne_nul_of_isPlain (hc : isPlain c = true) : c ≠ '\x00' := by
  rintro rfl
  exact isPlain_toNat hc rfl

theorem gatewayJsonHasNul_cons {c : Char} (hc : c ≠ '\\') (hnul : c ≠ '\x00')
    (text : List Char) : gatewayJsonHasNul (c :: text) = gatewayJsonHasNul text := by
  rw [gatewayJsonHasNul, contains_nul_cons hnul, hasNulEscape_cons hc, gatewayJsonHasNul]

theorem gatewayJsonHasNul_skips (H : Skips text rest) :
    gatewayJsonHasNul text = gatewayJsonHasNul rest := by
  refine H.scan fun c text hc => ?_
  simp only [isBare, Bool.and_eq_true, bne_iff_ne] at hc
  obtain ⟨⟨⟨⟨⟨⟨-, hslash⟩, -⟩, -⟩, -⟩, -⟩, hnul⟩ := hc
  exact gatewayJsonHasNul_cons hslash hnul text

/-- A string is searched unit by unit. -/
theorem gatewayJsonHasNul_units (H : Units us text rest) :
    gatewayJsonHasNul text = true ↔ 0 ∈ us ∨ gatewayJsonHasNul rest = true := by
  induction H with
  | close =>
    rw [gatewayJsonHasNul_cons (by decide) (by decide)]
    exact (or_iff_right List.not_mem_nil).symm
  | plain hc _ ih =>
    have hslash := hc
    simp only [isPlain, Bool.and_eq_true, bne_iff_ne] at hslash
    rw [gatewayJsonHasNul_cons hslash.2 (ne_nul_of_isPlain hc), ih, List.mem_cons,
      or_iff_right (isPlain_toNat hc).symm]
  | @escape e c us text rest hshort _ ih =>
    have hu : e ≠ 'u' := by
      rintro rfl
      cases hshort
    have hnul : e ≠ '\x00' := by
      rintro rfl
      cases hshort
    rw [gatewayJsonHasNul, contains_nul_cons (by decide), contains_nul_cons hnul,
      hasNulEscape_escape hu, ← gatewayJsonHasNul, ih, List.mem_cons,
      or_iff_right (shortEscape_toNat hshort).symm]
  | @unicode c₃ d₃ c₂ d₂ c₁ d₁ c₀ d₀ us text rest h₃ h₂ h₁ h₀ _ ih =>
    have hdigit {c : Char} {d : Nat} (h : hexDigit c = some d) (text : List Char) :
        (c :: text).contains '\x00' = text.contains '\x00' :=
      contains_nul_cons (ne_nul_of_isPlain (isPlain_of_hexDigit h)) text
    rw [gatewayJsonHasNul, Bool.or_eq_true] at ih
    rw [gatewayJsonHasNul, contains_nul_cons (by decide), contains_nul_cons (by decide),
      hdigit h₃, hdigit h₂, hdigit h₁, hdigit h₀, Bool.or_eq_true,
      hasNulEscape_unicode h₃ h₂ h₁ h₀, or_left_comm, ih, List.mem_cons, eq_comm, or_assoc]

theorem gatewayJsonHasNul_quoted (H : Quoted s text rest) :
    gatewayJsonHasNul text = true ↔ 0 ∈ s ∨ gatewayJsonHasNul rest = true := by
  cases H with
  | intro hunits =>
    rw [gatewayJsonHasNul_cons (by decide) (by decide), gatewayJsonHasNul_units hunits,
      zero_mem_codePoints]

theorem gatewayJsonHasNul_name (H : Name key text rest) :
    gatewayJsonHasNul text = true ↔ 0 ∈ key ∨ gatewayJsonHasNul rest = true := by
  cases H with
  | intro hbefore hquoted hbehind =>
    rw [gatewayJsonHasNul_skips hbefore.skips, gatewayJsonHasNul_quoted hquoted,
      gatewayJsonHasNul_skips hbehind.skips]

/-- The phrase has a string with the code point 0. -/
def HasNul (p : Phrase) : Prop := ∃ s, p.HasString s ∧ 0 ∈ s

theorem hasNul_string : HasNul (.value (.string s)) ↔ 0 ∈ s := by
  constructor
  · rintro ⟨t, H, hzero⟩
    cases H with
    | string => exact hzero
  · exact fun hzero => ⟨s, .string, hzero⟩

theorem hasNul_array : HasNul (.value (.array vs)) ↔ HasNul (.items vs) :=
  exists_congr fun _ => and_congr_left' Json.hasString_array

theorem hasNul_object : HasNul (.value (.object ms)) ↔ HasNul (.members ms) :=
  exists_congr fun _ => and_congr_left' Json.hasString_object

theorem not_hasNul_items : ¬ HasNul (.items []) := by
  rintro ⟨s, ⟨v, hv, -⟩, -⟩
  cases hv

theorem not_hasNul_members : ¬ HasNul (.members []) := by
  rintro ⟨s, ⟨m, hm, -⟩, -⟩
  cases hm

theorem hasNul_items_cons :
    HasNul (.items (v :: vs)) ↔ HasNul (.value v) ∨ HasNul (.items vs) := by
  simp only [HasNul, Phrase.HasString, List.mem_cons, or_and_right, exists_or, exists_eq_left]

theorem hasNul_members_cons :
    HasNul (.members ((key, v) :: ms)) ↔
      0 ∈ key ∨ HasNul (.value v) ∨ HasNul (.members ms) := by
  simp only [HasNul, Phrase.HasString, List.mem_cons, or_and_right, exists_or, exists_eq_left,
    or_assoc]

/-- A bracket or a separator is no part of a string. -/
theorem gatewayJsonHasNul_mark (hc : c ∈ ['[', ']', '{', '}', ',', ':']) (text : List Char) :
    gatewayJsonHasNul (c :: text) = gatewayJsonHasNul text := by
  refine gatewayJsonHasNul_cons ?_ ?_ text
  · rintro rfl
    revert hc
    decide
  · rintro rfl
    revert hc
    decide

/-- A value without strings is passed over. -/
theorem gatewayJsonHasNul_scalar (hv : ∀ s, ¬ v.HasString s) (H : Skips text rest) :
    gatewayJsonHasNul text = true ↔ HasNul (.value v) ∨ gatewayJsonHasNul rest = true := by
  have hnone : ¬ HasNul (.value v) := fun ⟨s, hs, _⟩ => hv s hs
  rw [gatewayJsonHasNul_skips H, or_iff_right hnone]

theorem gatewayJsonHasNul_reads (H : Reads p text rest) :
    gatewayJsonHasNul text = true ↔ HasNul p ∨ gatewayJsonHasNul rest = true := by
  induction H with
  | null => exact gatewayJsonHasNul_scalar nofun (.append (t := ['n', 'u', 'l', 'l']) rfl _)
  | true => exact gatewayJsonHasNul_scalar nofun (.append (t := ['t', 'r', 'u', 'e']) rfl _)
  | false => exact gatewayJsonHasNul_scalar nofun (.append (t := ['f', 'a', 'l', 's', 'e']) rfl _)
  | number hnumber => exact gatewayJsonHasNul_scalar nofun hnumber.skips
  | string hquoted => rw [hasNul_string, gatewayJsonHasNul_quoted hquoted]
  | emptyArray hspace =>
    rw [hasNul_array, or_iff_right not_hasNul_items, gatewayJsonHasNul_mark (by decide),
      gatewayJsonHasNul_skips hspace.skips, gatewayJsonHasNul_mark (by decide)]
  | array _ ih =>
    rw [hasNul_array, gatewayJsonHasNul_mark (by decide), ih, gatewayJsonHasNul_mark (by decide)]
  | emptyObject hspace =>
    rw [hasNul_object, or_iff_right not_hasNul_members, gatewayJsonHasNul_mark (by decide),
      gatewayJsonHasNul_skips hspace.skips, gatewayJsonHasNul_mark (by decide)]
  | object _ ih =>
    rw [hasNul_object, gatewayJsonHasNul_mark (by decide), ih, gatewayJsonHasNul_mark (by decide)]
  | element hbefore _ hbehind ih =>
    rw [gatewayJsonHasNul_skips hbefore.skips, ih, gatewayJsonHasNul_skips hbehind.skips]
    rfl
  | lastItem _ ih =>
    rw [hasNul_items_cons, or_iff_left not_hasNul_items]
    exact ih
  | items _ _ ih ih' =>
    rw [hasNul_items_cons, ih, gatewayJsonHasNul_mark (by decide), ih', or_assoc]
    rfl
  | lastMember hname _ ih =>
    rw [hasNul_members_cons, or_iff_left not_hasNul_members, gatewayJsonHasNul_name hname,
      gatewayJsonHasNul_mark (by decide), ih, or_assoc]
    rfl
  | members hname _ _ ih ih' =>
    rw [hasNul_members_cons, gatewayJsonHasNul_name hname, gatewayJsonHasNul_mark (by decide), ih,
      gatewayJsonHasNul_mark (by decide), ih', or_assoc, or_assoc]
    rfl

/-! ## Runs of backslashes -/

theorem gatewayJsonHasNul_iff (text : List Char) :
    gatewayJsonHasNul text = true ↔ '\x00' ∈ text ∨ hasNulEscape text = true := by
  rw [gatewayJsonHasNul, Bool.or_eq_true, List.contains_iff_mem]

/-- The four zeros of an escape do not reach into a text that does not begin with a zero. -/
theorem nulDigits_within (hc : c ≠ '0')
    (h : ['u', '0', '0', '0', '0'] <+: (c' :: text) ++ c :: tail) :
    ['u', '0', '0', '0', '0'] <+: c' :: text := by
  obtain ⟨rest, hrest⟩ := h
  rcases List.append_eq_append_iff.mp hrest with ⟨inside, htext, -⟩ | ⟨beyond, hescape, hbeyond⟩
  · exact ⟨inside, htext.symm⟩
  cases beyond with
  | nil =>
    rw [List.append_nil] at hescape
    exact ⟨[], (List.append_nil _).trans hescape⟩
  | cons c'' beyond =>
    obtain ⟨rfl, -⟩ := List.cons_eq_cons.mp hbeyond
    obtain ⟨-, hzeros⟩ := List.cons_eq_cons.mp hescape
    have hmem : c ∈ ['0', '0', '0', '0'] := by
      rw [hzeros]
      exact List.mem_append_right text List.mem_cons_self
    exact absurd (List.eq_of_mem_replicate (n := 4) hmem) hc

/-- Behind a text that ends without a backslash the search starts afresh. -/
theorem hasNulEscape_append (hlast : before.getLast? ≠ some '\\') (hc : c ≠ '0')
    (tail : List Char) :
    hasNulEscape (before ++ c :: tail) = (hasNulEscape before || hasNulEscape (c :: tail)) := by
  induction before using hasNulEscape.induct with
  | case1 => rfl
  | case2 c' =>
    have hslash : c' ≠ '\\' := fun heq => hlast (by rw [heq]; rfl)
    rw [List.cons_append, hasNulEscape_cons hslash]
    rfl
  | case3 c' text hprefix =>
    have hlonger := List.isPrefixOf_iff_prefix.mpr
      ((List.isPrefixOf_iff_prefix.mp hprefix).trans (List.prefix_append (c' :: text) (c :: tail)))
    rw [List.cons_append] at hlonger
    rw [List.cons_append, List.cons_append, hasNulEscape, if_pos rfl, if_pos hlonger, hasNulEscape,
      if_pos rfl, if_pos hprefix]
    rfl
  | case4 c' text hprefix ih =>
    have hlonger : ¬ ['u', '0', '0', '0', '0'].isPrefixOf (c' :: (text ++ c :: tail)) = true :=
      fun h => hprefix (List.isPrefixOf_iff_prefix.mpr
        (nulDigits_within hc (List.isPrefixOf_iff_prefix.mp h)))
    have hlast' : text.getLast? ≠ some '\\' := by
      cases text with
      | nil => exact nofun
      | cons d text => exact hlast
    rw [List.cons_append, List.cons_append, hasNulEscape, if_pos rfl, if_neg hlonger, hasNulEscape,
      if_pos rfl, if_neg hprefix]
    exact ih hlast'
  | case5 c' c'' text hslash ih =>
    rw [List.cons_append, hasNulEscape_cons hslash, hasNulEscape_cons hslash]
    exact ih hlast

/-- Of a run of backslashes the last one escapes if their number is odd. -/
theorem hasNulEscape_run (n : Nat) (rest : List Char) :
    hasNulEscape (List.replicate n '\\' ++ 'u' :: '0' :: '0' :: '0' :: '0' :: rest) = true ↔
      n % 2 = 1 ∨ hasNulEscape rest = true := by
  induction n using Nat.twoStepInduction with
  | zero =>
    have hdigits : hasNulEscape ('u' :: '0' :: '0' :: '0' :: '0' :: rest) = hasNulEscape rest := by
      rw [hasNulEscape_cons (by decide), hasNulEscape_cons (by decide),
        hasNulEscape_cons (by decide), hasNulEscape_cons (by decide), hasNulEscape_cons (by decide)]
    rw [List.replicate_zero, List.nil_append, hdigits]
    exact (or_iff_right (by decide)).symm
  | one => exact iff_of_true rfl (.inl rfl)
  | more n ih _ =>
    rw [List.replicate_succ, List.replicate_succ, List.cons_append, List.cons_append,
      hasNulEscape_escape (by decide), ih, Nat.add_mod_right]

/-- A run of backslashes in front of four zeros, behind any other text. -/
theorem gatewayJsonHasNul_run (hlast : before.getLast? ≠ some '\\') (n : Nat)
    (rest : List Char) :
    gatewayJsonHasNul
        (before ++ (List.replicate n '\\' ++ 'u' :: '0' :: '0' :: '0' :: '0' :: rest)) = true ↔
      gatewayJsonHasNul before = true ∨ n % 2 = 1 ∨ gatewayJsonHasNul rest = true := by
  have hrun := hasNulEscape_run n rest
  have hmem : '\x00' ∈ List.replicate n '\\' ++ 'u' :: '0' :: '0' :: '0' :: '0' :: rest ↔
      '\x00' ∈ rest := by
    simp [List.mem_append, List.mem_replicate]
  have happend : hasNulEscape
        (before ++ (List.replicate n '\\' ++ 'u' :: '0' :: '0' :: '0' :: '0' :: rest)) =
      (hasNulEscape before ||
        hasNulEscape (List.replicate n '\\' ++ 'u' :: '0' :: '0' :: '0' :: '0' :: rest)) := by
    cases n with
    | zero => exact hasNulEscape_append hlast (by decide) _
    | succ n => exact hasNulEscape_append hlast (by decide) _
  rw [gatewayJsonHasNul_iff, gatewayJsonHasNul_iff, gatewayJsonHasNul_iff, happend,
    Bool.or_eq_true, hrun, List.mem_append, hmem]
  tauto

/-- On a serialization the search decides whether a string of the document, key or value, has the code
point 0. On any text, four zeros behind a run of backslashes are an escape if the run is odd. -/
theorem gatewayJsonHasNul_exact :
    (∀ v text, Serializes v text →
      (gatewayJsonHasNul text = true ↔ ∃ s, v.HasString s ∧ 0 ∈ s)) ∧
    ∀ before n rest, before.getLast? ≠ some '\\' →
      (gatewayJsonHasNul
          (before ++ (List.replicate n '\\' ++ 'u' :: '0' :: '0' :: '0' :: '0' :: rest)) = true ↔
        gatewayJsonHasNul before = true ∨ n % 2 = 1 ∨ gatewayJsonHasNul rest = true) := by
  refine ⟨fun v text H => ?_, fun before n rest hlast => gatewayJsonHasNul_run hlast n rest⟩
  have hscan := gatewayJsonHasNul_reads H
  have hend : gatewayJsonHasNul [] = false := rfl
  rw [hend, or_iff_left Bool.false_ne_true] at hscan
  exact hscan

/-- The escape in `["\u0000"]` is found; behind a backslash that is escaped itself it is none. -/
theorem gatewayJsonHasNul_exact_escapes :
    gatewayJsonHasNul ['[', '"', '\\', 'u', '0', '0', '0', '0', '"', ']'] = true ∧
      gatewayJsonHasNul ['[', '"', '\\', '\\', 'u', '0', '0', '0', '0', '"', ']'] = false := by
  have hzero : hexDigit '0' = some 0 := rfl
  have hstring : Reads (.value (.string [0])) ('"' :: _) [']'] :=
    .string (.intro (.unicode hzero hzero hzero hzero .close))
  have harray : Serializes (.array [.string [0]]) ['[', '"', '\\', 'u', '0', '0', '0', '0', '"', ']'] :=
    .element .nil (.array (.lastItem (.element .nil hstring .nil))) .nil
  obtain ⟨hexact, hrun⟩ := gatewayJsonHasNul_exact
  refine ⟨(hexact _ _ harray).mpr ⟨[0], ?_, List.mem_singleton.mpr rfl⟩, ?_⟩
  · exact .item (List.mem_singleton.mpr rfl) .string
  have heven := hrun ['[', '"'] 2 ['"', ']'] (by decide)
  exact Bool.eq_false_iff.mpr fun h => absurd (heven.mp h) (by decide)

end ModbusGateway
