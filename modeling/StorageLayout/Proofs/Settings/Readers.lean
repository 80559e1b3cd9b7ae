import StorageLayout.Number.Conversion
import StorageLayout.Proofs.Number.IntegerText
import StorageLayout.Settings.Schema

namespace StorageLayout

namespace Text

private theorem utf8Encode_ascii {data : List UInt8} (ascii : ∀ byte ∈ data, byte < 0x80) :
    (data.map fun byte => Char.ofNat byte.toNat).utf8Encode = data.toByteArray := by
  induction data with
  | nil => rfl
  | cons byte rest ih =>
    have small : byte.toNat < 128 := by simpa [UInt8.lt_iff_toNat_lt] using ascii byte (by simp)
    have value : (Char.ofNat byte.toNat).toNat = byte.toNat := by
      have valid : byte.toNat.isValidChar := .inl (by omega)
      rw [Char.ofNat, dif_pos valid]
      rfl
    have size : (Char.ofNat byte.toNat).utf8Size = 1 := by
      rw [Char.utf8Size_eq_one_iff, UInt32.le_iff_toNat_le]
      have bound : (Char.ofNat byte.toNat).toNat ≤ 127 := by omega
      exact bound
    have code : (Char.ofNat byte.toNat).val.toUInt8 = byte := by
      apply UInt8.toNat_inj.mp
      have toNat : (Char.ofNat byte.toNat).val.toNat = byte.toNat := value
      rw [UInt32.toNat_toUInt8, toNat]
      omega
    rw [List.map_cons, List.utf8Encode_cons, List.utf8Encode_singleton,
      String.utf8EncodeChar_eq_singleton size, code,
      ih fun other member => ascii other (List.mem_cons_of_mem _ member),
      ← List.toByteArray_append]
    rfl

theorem toList_of_decode? {data : List UInt8} (ascii : ∀ byte ∈ data, byte < 0x80) {text : String}
    (decoded : decode? data = some text) :
    text.toList = data.map fun byte => Char.ofNat byte.toNat := by
  have same : text = String.ofList (data.map fun byte => Char.ofNat byte.toNat) := by
    apply String.toByteArray_inj.mp
    rw [String.toByteArray_ofList, utf8Encode_ascii ascii]
    unfold decode? String.fromUTF8? at decoded
    split at decoded
    · obtain rfl := Option.some.inj decoded
      exact ByteArray.ext (List.data_toByteArray ..).symm
    · cases decoded
  rw [same, String.toList_ofList]

end Text

namespace Number

theorem mem_trimChars {drop : Char → Bool} {cs : List Char} {c : Char} (member : c ∈ cs)
    (kept : drop c = false) : c ∈ Text.trimChars drop cs := by
  have mem_dropWhile {cs : List Char} (member : c ∈ cs) : c ∈ cs.dropWhile drop := by
    induction cs with
    | nil => cases member
    | cons other rest ih =>
      rw [List.dropWhile_cons]
      split
      · next dropped =>
        rcases List.mem_cons.mp member with rfl | later
        · simp [kept] at dropped
        · exact ih later
      · exact member
  rw [Text.trimChars, List.mem_reverse]
  exact mem_dropWhile (List.mem_reverse.mpr (mem_dropWhile member))

theorem isNumeral_of_integer {cs : List Char} {number : Int} (read : integer cs = .ok number)
    {c : Char} (member : c ∈ cs) (visible : Text.isWhite c = false) (notMinus : c ≠ '-')
    (notPlus : c ≠ '+') : IsNumeral c := by
  have numerals := (integer_spec read).1
  have inside := mem_trimChars member visible
  generalize Text.trimChars Text.isWhite cs = text at numerals inside
  rcases splitSign_cases text with ⟨body, signed, rfl⟩ | ⟨body, signed, rfl⟩ | ⟨signed, -, -⟩
  · rw [signed] at numerals
    exact numerals c ((List.mem_cons.mp inside).resolve_left notMinus)
  · rw [signed] at numerals
    exact numerals c ((List.mem_cons.mp inside).resolve_left notPlus)
  · rw [signed] at numerals
    exact numerals c inside

end Number

namespace Value

theorem byteChar_eq {byte : UInt8} (ascii : byte < 0x80) :
    byteChar byte = Char.ofNat byte.toNat := by
  rw [byteChar, if_pos ascii]

theorem integerOfText_eq_ok {cs : List Char} {shown : String} {number : Int}
    (read : integerOfText cs shown = .ok number) : Number.integer cs = .ok number := by
  unfold integerOfText at read
  split at read
  · next other found =>
    obtain rfl := Except.ok.inj read
    exact found
  · cases read
  · cases read

theorem ascii_of_integer {data : List UInt8} {number : Int}
    (read : Number.integer (data.map byteChar) = .ok number) : ∀ byte ∈ data, byte < 0x80 := by
  intro byte member
  by_contra high
  have replaced : byteChar byte = '\ufffd' := by rw [byteChar, if_neg high]
  have inside : '\ufffd' ∈ data.map byteChar := List.mem_map.mpr ⟨byte, member, replaced⟩
  have numeral := Number.isNumeral_of_integer read inside (by decide) (by decide) (by decide)
  unfold Number.IsNumeral at numeral
  revert numeral
  decide

/-- Words stand in a document as texts or as raw data. -/
def isSpelled : Value → Bool
  | text _ => true
  | bytes _ => true
  | _ => false

end Value

namespace Binary64

theorem toInt?_eq_some {number : Binary64} {value : Int} (integral : number.toInt? = some value) :
    ∃ numerator denominator, number.toRatio? = some (numerator, denominator) ∧
      (denominator : Int) ∣ numerator ∧ value = numerator / denominator := by
  unfold toInt? at integral
  split at integral
  · next numerator denominator ratio =>
    split at integral
    · next whole =>
      exact ⟨numerator, denominator, ratio, Int.dvd_of_emod_eq_zero whole,
        (Option.some.inj integral).symm⟩
    · cases integral
  · cases integral

theorem truncate?_of_toInt? {number : Binary64} {value : Int}
    (integral : number.toInt? = some value) : number.truncate? = some value := by
  obtain ⟨numerator, denominator, ratio, divides, rfl⟩ := toInt?_eq_some integral
  rw [truncate?, ratio]
  exact congrArg some (Int.tdiv_eq_ediv_of_dvd divides)

theorem isZero_of_toInt? {number : Binary64} {value : Int} (integral : number.toInt? = some value) :
    number.isZero = decide (value = 0) := by
  obtain ⟨numerator, denominator, ratio, divides, rfl⟩ := toInt?_eq_some integral
  cases number with
  | nan => cases ratio
  | infinite negative => cases ratio
  | finite negative significand exponent =>
    obtain ⟨unit_pos, denominator_pos⟩ := powerRatio_two_pos exponent
    obtain ⟨numerator_eq, rfl⟩ := Prod.mk.inj (Option.some.inj ratio)
    have magnitude : numerator = 0 ↔ significand = 0 := by
      have product : significand * (powerRatio 2 exponent).1 = 0 ↔ significand = 0 :=
        Nat.mul_eq_zero.trans (or_iff_left unit_pos.ne')
      rw [← numerator_eq, ← product]
      split <;> omega
    obtain ⟨factor, rfl⟩ := divides
    have nonzero : ((powerRatio 2 exponent).2 : Int) ≠ 0 := by omega
    rw [Int.mul_ediv_cancel_left _ nonzero, isZero, decide_eq_decide, ← magnitude,
      Int.mul_eq_zero]
    simp [Nat.pos_iff_ne_zero.mp denominator_pos]

end Binary64

namespace Settings

theorem checkTruthNumber_eq_ok {narrow : Int → Bool} {value : Int} {truth : Bool}
    (checked : checkTruthNumber narrow value = .ok truth) : truth = decide (value ≠ 0) := by
  unfold checkTruthNumber at checked
  split at checked
  · next zero => simp [← Except.ok.inj checked, zero]
  · split at checked
    · next one => simp [← Except.ok.inj checked, one]
    · split at checked <;> cases checked

theorem ne_empty_of_checkTruthWord {word : String} {truth : Bool}
    (checked : checkTruthWord word = .ok truth) : word ≠ "" := by
  rintro rfl
  cases checked

/-- Where the check of a document finds a truth value, a reader that asks whether there is something
finds the same one, except that every word is something. -/
theorem truthy_of_checkTruth {value : Value} {truth : Bool}
    (checked : checkTruth value = .ok truth) : value.truthy = (truth || value.isSpelled) := by
  cases value with
  | bool given =>
    obtain rfl := Except.ok.inj checked
    simp [Value.truthy, Value.isSpelled]
  | int number =>
    rw [checkTruthNumber_eq_ok checked]
    simp [Value.truthy, Value.isSpelled]
  | float number =>
    simp only [checkTruth] at checked
    split at checked
    · next integer integral =>
      rw [checkTruthNumber_eq_ok checked]
      simp [Value.truthy, Value.isSpelled, Binary64.isZero_of_toInt? integral]
    · cases checked
  | text word =>
    have nonempty := ne_empty_of_checkTruthWord checked
    simp [Value.truthy, Value.isSpelled, nonempty]
  | bytes data =>
    simp only [checkTruth] at checked
    split at checked
    · next word decoded =>
      have nonempty : data ≠ [] := by
        rintro rfl
        obtain rfl := Option.some.inj decoded
        cases checked
      cases data with
      | nil => exact absurd rfl nonempty
      | cons byte rest => simp [Value.truthy, Value.isSpelled]
    · cases checked
  | null => cases checked
  | brokenText codes => cases checked
  | list items => cases checked
  | mapping access entries => cases checked
  | path name => cases checked
  | pathLike name => cases checked

theorem checkIntegerText_eq_ok {text : String} {number : Int}
    (checked : checkIntegerText text = .ok number) :
    Number.wholeNumber text.toList = .ok number := by
  unfold checkIntegerText at checked
  split at checked
  · next other read =>
    obtain rfl := Except.ok.inj checked
    exact read
  · cases checked
  · cases checked

/-- Where the check of a document finds an integer, a strict reader finds the same one if it finds
one at all. -/
theorem toInteger_eq_checkInteger {value : Value} {lenient strict : Int}
    (checked : checkInteger value = .ok lenient) (read : value.toInteger = .ok strict) :
    strict = lenient := by
  cases value with
  | bool given =>
    exact (Except.ok.inj read).symm.trans (Except.ok.inj checked)
  | int number =>
    exact (Except.ok.inj read).symm.trans (Except.ok.inj checked)
  | float number =>
    simp only [checkInteger] at checked
    split at checked
    · cases checked
    · cases checked
    · next ratio integer _ integral =>
      split at checked
      · obtain rfl := Except.ok.inj checked
        simp only [Value.toInteger, Value.integerOfFloat] at read
        rw [Binary64.truncate?_of_toInt? integral] at read
        split at read
        · cases read
        · next _ whole _ =>
          obtain rfl := Option.some.inj whole
          exact (Except.ok.inj read).symm
        · cases read
      · cases checked
  | text word =>
    exact Number.integer_eq_wholeNumber (Value.integerOfText_eq_ok read)
      (checkIntegerText_eq_ok checked)
  | bytes data =>
    simp only [checkInteger] at checked
    split at checked
    · next word decoded =>
      have readStrictly := Value.integerOfText_eq_ok read
      have ascii := Value.ascii_of_integer readStrictly
      have chars : word.toList = data.map Value.byteChar := by
        rw [Text.toList_of_decode? ascii decoded]
        exact List.map_congr_left fun byte member => (Value.byteChar_eq (ascii byte member)).symm
      have readLeniently := checkIntegerText_eq_ok checked
      rw [chars] at readLeniently
      exact Number.integer_eq_wholeNumber readStrictly readLeniently
    · cases checked
  | null => cases checked
  | brokenText codes => cases checked
  | list items => cases checked
  | mapping access entries => cases checked
  | path name => cases checked
  | pathLike name => cases checked

theorem checkCount_eq_ok {value : Value} {count : Int} (checked : checkCount value = .ok count) :
    checkInteger value = .ok count ∧ 1 ≤ count := by
  unfold checkCount at checked
  split at checked
  · next number read =>
    split at checked
    · cases checked
    · next large =>
      obtain rfl := Except.ok.inj checked
      exact ⟨read, by omega⟩
  · cases checked

end Settings

end StorageLayout
