import Mathlib.Data.Nat.Digits.Defs
import Mathlib.Tactic.Ring
import StorageLayout.Json.Writer
import StorageLayout.Proofs.Json.Numerals
import StorageLayout.Proofs.Number.Shortest

namespace StorageLayout

namespace Number

theorem ofDigits_zeros_append (count : Nat) (digits : List Char) :
    ofDigits (List.replicate count '0' ++ digits) = ofDigits digits := by
  change Nat.ofDigitChars 10 _ 0 = Nat.ofDigitChars 10 _ 0
  rw [Nat.ofDigitChars_append, Nat.ofDigitChars_replicate_zero, Nat.mul_zero]

theorem ofDigits_append_zeros (count : Nat) (digits : List Char) :
    ofDigits (digits ++ List.replicate count '0') = 10 ^ count * ofDigits digits := by
  change Nat.ofDigitChars 10 _ 0 = 10 ^ count * Nat.ofDigitChars 10 _ 0
  rw [Nat.ofDigitChars_append, Nat.ofDigitChars_replicate_zero]

theorem ofDigits_toDigits (number : Nat) : ofDigits (Nat.toDigits 10 number) = number :=
  Nat.ofDigitChars_ten_toDigits

theorem isDigit_toDigits (number : Nat) : ∀ c ∈ Nat.toDigits 10 number, c.isDigit = true :=
  fun _ member => Nat.isDigit_of_mem_toDigits (by decide) (by decide) member

theorem head_toDigits {number : Nat} (some_ : 0 < number) :
    (Nat.toDigits 10 number).head? ≠ some '0' := by
  induction number using Nat.strongRecOn with
  | ind number ih =>
    rcases Nat.lt_or_ge number 10 with single | more
    · have digits : ∀ digit < 10, 0 < digit → digit.digitChar ≠ '0' := by decide
      rw [Nat.toDigits_of_lt_base single, List.head?_cons]
      exact fun same => digits number single some_ (Option.some.inj same)
    · have shorter := ih (number / 10) (by omega) (by omega)
      rw [Nat.toDigits_of_base_le (by decide) more,
        List.head?_append_of_ne_nil _ Nat.toDigits_ne_nil]
      exact shorter

end Number

namespace Json5.DecimalText

theorem hasLeadingZero_of_head {text : DecimalText} (head : text.whole.head? ≠ some '0') :
    text.hasLeadingZero = false := by
  unfold hasLeadingZero
  split
  · next same => simp [same] at head
  · rfl

def ofNat (number : Nat) : DecimalText := ⟨Nat.toDigits 10 number, none, none⟩

theorem hasDigits_ofNat (number : Nat) : (ofNat number).HasDigits where
  whole_digits := Number.isDigit_toDigits number
  fraction_digits := by simp [ofNat]
  exponent_digits := by simp [ofNat]

theorem isNumeral_ofNat (number : Nat) : (ofNat number).IsNumeral where
  toHasDigits := hasDigits_ofNat number
  whole_ne_nil := Nat.toDigits_ne_nil
  no_leading_zero := by
    rcases Nat.eq_zero_or_pos number with rfl | some_
    · rfl
    · exact hasLeadingZero_of_head (Number.head_toDigits some_)
  fraction_ne_nil := by simp [ofNat]
  exponent_ne_nil := by simp [ofNat]

theorem isNumeral_zero : IsNumeral ⟨['0'], some ['0'], none⟩ where
  whole_digits := by simp
  fraction_digits := by simp
  exponent_digits := by simp
  whole_ne_nil := List.cons_ne_nil _ _
  no_leading_zero := rfl
  fraction_ne_nil := by simp
  exponent_ne_nil := by simp

/-- Digits, the first `places` of them before the point. Where there are fewer zeros stand for them,
and a zero stands on each side of the point where there is no digit. -/
def positional (digits : List Char) (places : Int) : DecimalText :=
  let zeros (count : Int) : List Char := List.replicate count.toNat '0'
  let whole := digits.take places.toNat ++ zeros (places - digits.length)
  let fraction := zeros (-places) ++ digits.drop places.toNat
  ⟨if whole.isEmpty then ['0'] else whole, some (if fraction.isEmpty then ['0'] else fraction), none⟩

/-- Whether the digits of a numeral are given ones besides zeros, with the point behind the given
number of places. -/
def Spells (text : DecimalText) (digits : List Char) (places : Int) : Prop :=
  ∃ before behind : Nat,
    text.whole ++ text.fraction.getD [] =
        List.replicate before '0' ++ digits ++ List.replicate behind '0' ∧
      text.power - (text.fraction.getD []).length + behind = places - digits.length

section

variable {digits : List Char} {places : Int}

theorem Spells.value {text : DecimalText} (spells : text.Spells digits places) :
    text.decimal.value = Number.ofDigits digits * 10 ^ (places - digits.length) := by
  obtain ⟨before, behind, written, point⟩ := spells
  have same : (text.decimal.digits : ℚ) = 10 ^ behind * Number.ofDigits digits := by
    rw [decimal, written, Number.ofDigits_append_zeros, Number.ofDigits_zeros_append]
    push_cast
    rfl
  rw [Binary64.Decimal.value, same, ← point, zpow_add₀ (by norm_num), zpow_natCast, decimal]
  ring

/-- The ways in which digits stand around the point. -/
inductive PlacedAs (digits : List Char) : Int → DecimalText → Prop where
  | behind (zeros : Nat) :
      PlacedAs digits (-zeros) ⟨['0'], some (List.replicate zeros '0' ++ digits), none⟩
  | around {whole behind : List Char} (parts : digits = whole ++ behind) (before : whole ≠ [])
      (after : behind ≠ []) : PlacedAs digits whole.length ⟨whole, some behind, none⟩
  | before (zeros : Nat) :
      PlacedAs digits (digits.length + zeros)
        ⟨digits ++ List.replicate zeros '0', some ['0'], none⟩

theorem positional_cases (some_ : digits ≠ []) (places : Int) :
    PlacedAs digits places (positional digits places) := by
  have length : 0 < digits.length := List.length_pos_iff.mpr some_
  -- The point stands in front of all digits, or among them, or behind the last one.
  rcases le_or_gt places 0 with small | positive
  · obtain ⟨zeros, rfl⟩ := Int.exists_eq_neg_ofNat small
    have shape : positional digits (-zeros) =
        ⟨['0'], some (List.replicate zeros '0' ++ digits), none⟩ := by
      have none_ : (-(zeros : Int) - digits.length).toNat = 0 := by omega
      simp [positional, some_, none_]
    exact shape ▸ .behind zeros
  · obtain ⟨count, rfl⟩ := Int.eq_ofNat_of_zero_le positive.le
    rcases Nat.lt_or_ge count digits.length with inside | large
    · have shape : positional digits count =
          ⟨digits.take count, some (digits.drop count), none⟩ := by
        have none_ : ((count : Int) - digits.length).toNat = 0 := by omega
        have whole : digits.take count ≠ [] := by simp [some_]; omega
        have fraction : digits.drop count ≠ [] := by simpa using inside
        simp [positional, none_, whole, fraction]
      have taken : (digits.take count).length = count := List.length_take_of_le inside.le
      have placed := PlacedAs.around (List.take_append_drop count digits).symm
        (by simp [some_]; omega) (by simpa using inside)
      rw [taken] at placed
      exact shape ▸ placed
    · have shape : positional digits count =
          ⟨digits ++ List.replicate (count - digits.length) '0', some ['0'], none⟩ := by
        have added : ((count : Int) - digits.length).toNat = count - digits.length := by omega
        simp [positional, added, List.take_of_length_le large, List.drop_eq_nil_of_le large, some_]
      have placed : PlacedAs digits _ _ := .before (count - digits.length)
      rw [← Int.natCast_add, Nat.add_sub_cancel' large] at placed
      exact shape ▸ placed

theorem spells_positional (some_ : digits ≠ []) : (positional digits places).Spells digits places := by
  have placed := positional_cases some_ places
  generalize positional digits places = text at placed
  cases placed with
  | behind zeros => exact ⟨zeros + 1, 0, by simp [List.replicate_succ], by simp [power]; omega⟩
  | around parts before after => exact ⟨0, 0, by simp [parts], by simp [parts, power]⟩
  | before zeros => exact ⟨0, zeros + 1, by simp [List.replicate_succ'], by simp [power]⟩

theorem hasDigits_positional (all : ∀ c ∈ digits, c.isDigit = true) :
    (positional digits places).HasDigits := by
  have zero (zeros : Nat) : ∀ c ∈ List.replicate zeros '0', c.isDigit = true := by
    intro c member
    rw [List.eq_of_mem_replicate member]
    rfl
  have padded {cs : List Char} (parts : ∀ c ∈ cs, c.isDigit = true) :
      ∀ c ∈ (if cs.isEmpty then ['0'] else cs), c.isDigit = true := by
    split
    · exact zero 1
    · exact parts
  refine ⟨padded ?_, ?_, by simp [positional]⟩
  · exact List.forall_mem_append.mpr
      ⟨fun c member => all c (List.mem_of_mem_take member), zero _⟩
  · rintro _ ⟨⟩
    exact padded (List.forall_mem_append.mpr
      ⟨zero _, fun c member => all c (List.mem_of_mem_drop member)⟩)

theorem isNumeral_positional (some_ : digits ≠ []) (all : ∀ c ∈ digits, c.isDigit = true)
    (head : digits.head? ≠ some '0') : (positional digits places).IsNumeral := by
  have hasDigits : (positional digits places).HasDigits := hasDigits_positional all
  have placed := positional_cases some_ places
  generalize positional digits places = text at placed hasDigits
  cases placed with
  | behind zeros => exact ⟨hasDigits, by simp, rfl, by simp [some_], by simp⟩
  | around parts before after =>
    rw [parts, List.head?_append_of_ne_nil _ before] at head
    exact ⟨hasDigits, before, hasLeadingZero_of_head head, by simpa using after, by simp⟩
  | before zeros =>
    refine ⟨hasDigits, by simp [some_], hasLeadingZero_of_head ?_, by simp, by simp⟩
    rwa [List.head?_append_of_ne_nil _ some_]

/-- The digits of an exponent: those of its size, and a zero in front of a single one. -/
def exponentDigits (exponent : Int) : List Char :=
  if (Nat.toDigits 10 exponent.natAbs).length < 2 then '0' :: Nat.toDigits 10 exponent.natAbs
  else Nat.toDigits 10 exponent.natAbs

theorem ofDigits_exponentDigits (exponent : Int) :
    Number.ofDigits (exponentDigits exponent) = exponent.natAbs := by
  unfold exponentDigits
  split
  · exact (Number.ofDigits_zeros_append 1 _).trans (Number.ofDigits_toDigits _)
  · exact Number.ofDigits_toDigits _

theorem exponentDigits_digits (exponent : Int) : ∀ c ∈ exponentDigits exponent, c.isDigit = true := by
  have all := Number.isDigit_toDigits exponent.natAbs
  unfold exponentDigits
  split
  · exact List.forall_mem_cons.mpr ⟨rfl, all⟩
  · exact all

theorem exponentDigits_ne_nil (exponent : Int) : exponentDigits exponent ≠ [] := by
  unfold exponentDigits
  split
  · exact List.cons_ne_nil _ _
  · exact Nat.toDigits_ne_nil

/-- Digits, one of them before the point, with an exponent of two digits at least. -/
def scientific (digits : List Char) (exponent : Int) : DecimalText :=
  ⟨digits.take 1, if digits.length ≤ 1 then none else some (digits.drop 1),
    some (exponent < 0, exponentDigits exponent)⟩

theorem power_scientific (exponent : Int) : (scientific digits exponent).power = exponent := by
  simp only [scientific, power, decide_eq_true_iff, ofDigits_exponentDigits]
  split <;> omega

theorem spells_scientific (some_ : digits ≠ []) :
    (scientific digits (places - 1)).Spells digits places := by
  have length : 0 < digits.length := List.length_pos_iff.mpr some_
  have behind : (scientific digits (places - 1)).fraction.getD [] = digits.drop 1 := by
    unfold scientific
    split
    · next single => exact (List.drop_eq_nil_of_le single).symm
    · rfl
  refine ⟨0, 0, ?_, ?_⟩
  · rw [behind]
    simpa [scientific] using List.take_append_drop 1 digits
  · rw [power_scientific, behind, List.length_drop]
    omega

theorem hasDigits_scientific (all : ∀ c ∈ digits, c.isDigit = true) :
    (scientific digits places).HasDigits where
  whole_digits := fun c member => all c (List.mem_of_mem_take member)
  fraction_digits := by
    intro behind written c member
    unfold scientific at written
    split at written
    · cases written
    · obtain rfl := Option.some.inj written
      exact all c (List.mem_of_mem_drop member)
  exponent_digits := by
    rintro _ ⟨⟩
    exact exponentDigits_digits places

theorem isNumeral_scientific (some_ : digits ≠ []) (all : ∀ c ∈ digits, c.isDigit = true) :
    (scientific digits places).IsNumeral where
  toHasDigits := hasDigits_scientific all
  whole_ne_nil := by simp [scientific, some_]
  no_leading_zero := by
    cases digits with
    | nil => exact absurd rfl some_
    | cons first more => simp [scientific, hasLeadingZero]
  fraction_ne_nil := by
    unfold scientific
    split
    · simp
    · next more =>
      intro none_
      exact more (List.drop_eq_nil_iff.mp (Option.some.inj none_))
  exponent_ne_nil := by
    rintro _ ⟨⟩
    exact exponentDigits_ne_nil places

end

end Json5.DecimalText

namespace Binary64.Decimal

open Json5

def significant (decimal : Decimal) : List Char :=
  ((Nat.toDigits 10 decimal.digits).reverse.dropWhile (· = '0')).reverse

def places (decimal : Decimal) : Int := decimalLength decimal.digits + decimal.exponent

/-- What a decimal is written as. -/
def numeral (decimal : Decimal) : DecimalText :=
  if decimal.places ≤ positionalPlaces && -positionalZeros ≤ decimal.places then
    .positional decimal.significant decimal.places
  else .scientific decimal.significant (decimal.places - 1)

theorem exponentText_toList (exponent : Int) :
    (exponentText exponent).toList =
      DecimalText.exponentChars (some (exponent < 0, DecimalText.exponentDigits exponent)) := by
  have size : (toString exponent.natAbs).toList = Nat.toDigits 10 exponent.natAbs := Nat.toList_repr
  have length : (toString exponent.natAbs).length = (Nat.toDigits 10 exponent.natAbs).length := by
    rw [← size, String.length_toList]
  simp only [exponentText, DecimalText.exponentChars, DecimalText.exponentDigits,
    String.toList_append, size, length, decide_eq_true_iff]
  split <;> split <;> rfl

theorem text_eq (decimal : Decimal) :
    decimal.text =
      if decimal.places ≤ positionalPlaces && -positionalZeros ≤ decimal.places then
        let text := DecimalText.positional decimal.significant decimal.places
        String.ofList (text.whole ++ '.' :: text.fraction.getD [])
      else
        String.ofList (decimal.significant.take 1 ++
          (if decimal.significant.length ≤ 1 then [] else '.' :: decimal.significant.drop 1)) ++
          exponentText (decimal.places - 1) := rfl

theorem text_toList (decimal : Decimal) : decimal.text.toList = decimal.numeral.chars := by
  rw [text_eq, numeral]
  split
  · rw [String.toList_ofList]
    simp [DecimalText.chars, DecimalText.positional, DecimalText.fractionChars,
      DecimalText.exponentChars]
  · rw [String.toList_append, String.toList_ofList, exponentText_toList, List.append_assoc]
    unfold DecimalText.chars DecimalText.scientific
    split <;> rfl

theorem significant_append_zeros (decimal : Decimal) :
    ∃ zeros : Nat,
      Nat.toDigits 10 decimal.digits = decimal.significant ++ List.replicate zeros '0' := by
  let reversed := (Nat.toDigits 10 decimal.digits).reverse
  have zeros : reversed.takeWhile (· = '0') =
      List.replicate (reversed.takeWhile (· = '0')).length '0' := by
    refine List.eq_replicate_of_mem fun c member => ?_
    simpa using List.all_eq_true.mp List.all_takeWhile c member
  refine ⟨(reversed.takeWhile (· = '0')).length, ?_⟩
  calc Nat.toDigits 10 decimal.digits
      = reversed.reverse := (List.reverse_reverse _).symm
    _ = (reversed.takeWhile (· = '0') ++ reversed.dropWhile (· = '0')).reverse := by
        rw [List.takeWhile_append_dropWhile]
    _ = decimal.significant ++ (reversed.takeWhile (· = '0')).reverse := List.reverse_append
    _ = _ := by rw [zeros, List.reverse_replicate, List.length_replicate]

section

variable {decimal : Decimal}

theorem significant_ne_nil (some_ : 0 < decimal.digits) : decimal.significant ≠ [] := by
  intro none_
  obtain ⟨zeros, parts⟩ := significant_append_zeros decimal
  have head := Number.head_toDigits some_
  rw [none_, List.nil_append] at parts
  cases zeros with
  | zero => exact Nat.toDigits_ne_nil parts
  | succ more => simp [parts, List.replicate_succ] at head

theorem head_significant (some_ : 0 < decimal.digits) : decimal.significant.head? ≠ some '0' := by
  obtain ⟨zeros, parts⟩ := significant_append_zeros decimal
  have head := Number.head_toDigits some_
  rwa [parts, List.head?_append_of_ne_nil _ (significant_ne_nil some_)] at head

theorem significant_digits : ∀ c ∈ decimal.significant, c.isDigit = true := by
  intro c member
  obtain ⟨zeros, parts⟩ := significant_append_zeros decimal
  apply Number.isDigit_toDigits decimal.digits
  rw [parts]
  exact List.mem_append_left _ member

/-- The digits that are not left out stand for the decimal. -/
theorem value_significant (some_ : 0 < decimal.digits) :
    decimal.value =
      Number.ofDigits decimal.significant *
        10 ^ (decimal.places - decimal.significant.length) := by
  obtain ⟨zeros, parts⟩ := significant_append_zeros decimal
  have digits : decimal.digits = 10 ^ zeros * Number.ofDigits decimal.significant := by
    rw [← Number.ofDigits_append_zeros, ← parts, Number.ofDigits_toDigits]
  have length : decimal.places - decimal.significant.length = zeros + decimal.exponent := by
    rw [places, decimalLength, if_neg some_.ne', parts, List.length_append, List.length_replicate]
    push_cast
    ring
  rw [value, length, zpow_add₀ (by norm_num), zpow_natCast]
  nth_rewrite 1 [digits]
  push_cast
  ring

theorem hasDigits_numeral : decimal.numeral.HasDigits := by
  unfold numeral
  split
  · exact DecimalText.hasDigits_positional significant_digits
  · exact DecimalText.hasDigits_scientific significant_digits

theorem isNumeral_numeral (some_ : 0 < decimal.digits) : decimal.numeral.IsNumeral := by
  have digits := significant_ne_nil some_
  unfold numeral
  split
  · exact DecimalText.isNumeral_positional digits significant_digits (head_significant some_)
  · exact DecimalText.isNumeral_scientific digits significant_digits

theorem numeral_value (some_ : 0 < decimal.digits) :
    decimal.numeral.decimal.value = decimal.value := by
  have digits := significant_ne_nil some_
  have spells : decimal.numeral.Spells decimal.significant decimal.places := by
    unfold numeral
    split
    · exact DecimalText.spells_positional digits
    · exact DecimalText.spells_scientific digits
  rw [spells.value, value_significant some_]

theorem numeral_not_integer : decimal.numeral.fraction ≠ none ∨ decimal.numeral.exponent ≠ none := by
  unfold numeral
  split
  · exact .inl (by simp [DecimalText.positional])
  · exact .inr (by simp [DecimalText.scientific])

end

end Binary64.Decimal

namespace Json

open Json5

theorem int_written (value : Int) :
    (toString value).toList = (DecimalText.ofNat value.natAbs).signed (value < 0) := by
  rw [Int.toString_eq_repr, Int.repr_eq_if]
  simp only [DecimalText.signed, DecimalText.ofNat, DecimalText.chars, DecimalText.fractionChars,
    DecimalText.exponentChars, List.append_nil]
  rcases Int.lt_or_le value 0 with negative | positive
  · have size : (-value).toNat = value.natAbs := by omega
    simp [negative, Int.not_le.mpr negative, size]
  · have size : value.toNat = value.natAbs := by omega
    simp [positive, Int.not_lt.mpr positive, size]

theorem isLong_eq_false_iff {value : Int} :
    isLong value = false ↔ value.natAbs < 10 ^ Number.maxDigits := by
  rw [isLong, decide_eq_false_iff_not, Nat.not_le, Nat.pow_eq]

theorem denotes_int {value : Int} (short : isLong value = false) :
    Denotes (toString value).toList (.int value) := by
  have isNumeral := DecimalText.isNumeral_ofNat value.natAbs
  have signed : (if value < 0 then -(value.natAbs : Int) else value.natAbs) = value := by omega
  have fits : (Nat.toDigits 10 value.natAbs).length ≤ Number.maxDigits :=
    Nat.toDigits_length 10 value.natAbs Number.maxDigits (by decide) (isLong_eq_false_iff.mp short)
  refine ⟨value < 0, _, isNumeral, int_written value, ?_⟩
  rw [DecimalText.ofNat, numberOf_integer isNumeral fits, Number.ofDigits_toDigits]
  simp only [decide_eq_true_iff, signed]

/-- A finite number is written behind its sign. -/
theorem float_written (negative : Bool) (significand : Nat) (exponent : Int) :
    (floatText (.finite negative significand exponent)).toList =
      (if significand = 0 then ⟨['0'], some ['0'], none⟩
        else (Binary64.shortest significand exponent).numeral : DecimalText).signed negative := by
  change (Binary64.finite negative significand exponent).text.toList = _
  rw [Binary64.text, String.toList_append, DecimalText.signed]
  congr 1
  · cases negative <;> rfl
  · split
    · rfl
    · exact Binary64.Decimal.text_toList _

theorem denotes_float {value : Binary64} (normalized : value.IsNormalized) :
    Denotes (floatText value).toList (.float value) := by
  match value, normalized with
  | .finite negative significand exponent, normalized =>
    have written := float_written negative significand exponent
    rcases Nat.eq_zero_or_pos significand with rfl | some_
    · have least : exponent = Binary64.leastExponent := normalized.2.resolve_right (by decide)
      rw [if_pos rfl] at written
      refine ⟨negative, _, DecimalText.isNumeral_zero, written, ?_⟩
      rw [numberOf_float DecimalText.isNumeral_zero (by simp), least]
      rfl
    · have around : Binary64.IsAround significand exponent
          (Binary64.shortest significand exponent).value :=
        Binary64.isAround_shortest some_ normalized.1.1
      have digits := around.digits_pos some_
      have isNumeral := Binary64.Decimal.isNumeral_numeral digits
      rw [if_neg some_.ne'] at written
      refine ⟨negative, _, isNumeral, written, ?_⟩
      rw [numberOf_float isNumeral Binary64.Decimal.numeral_not_integer,
        Binary64.ofDecimal_eq some_ normalized (Binary64.Decimal.numeral_value digits)]

end Json

end StorageLayout
