import Mathlib.Data.List.TakeDrop
import StorageLayout.Json.Reader
import StorageLayout.Number.Shortest

namespace StorageLayout

namespace Json5.DecimalText

def exponentChars : Option (Bool × List Char) → List Char
  | none => []
  | some (below, written) => 'e' :: (if below then '-' else '+') :: written

/-- Digits behind the point as they are written. -/
def fractionChars : Option (List Char) → List Char
  | none => []
  | some behind => '.' :: behind

/-- A numeral as it is written. -/
def chars (text : DecimalText) : List Char :=
  text.whole ++ (fractionChars text.fraction ++ exponentChars text.exponent)

/-- A numeral behind its sign. -/
def signed (negative : Bool) (text : DecimalText) : List Char :=
  (if negative then ['-'] else []) ++ text.chars

/-- Whether all parts of a numeral are digits. -/
structure HasDigits (text : DecimalText) : Prop where
  whole_digits : ∀ c ∈ text.whole, c.isDigit = true
  fraction_digits : ∀ behind ∈ text.fraction, ∀ c ∈ behind, c.isDigit = true
  exponent_digits : ∀ parts ∈ text.exponent, ∀ c ∈ parts.2, c.isDigit = true

/-- Whether a numeral is made up as JSON asks for: there is a digit in every part of it, and no zero
in front of other digits. -/
structure IsNumeral (text : DecimalText) : Prop extends text.HasDigits where
  whole_ne_nil : text.whole ≠ []
  no_leading_zero : text.hasLeadingZero = false
  fraction_ne_nil : text.fraction ≠ some []
  exponent_ne_nil : ∀ parts ∈ text.exponent, parts.2 ≠ []

/-- The power of ten that the exponent of a numeral stands for. -/
def power (text : DecimalText) : Int :=
  match text.exponent with
  | none => 0
  | some (below, written) =>
    if below then -(Number.ofDigits written : Int) else Number.ofDigits written

def decimal (text : DecimalText) : Binary64.Decimal :=
  let behind := text.fraction.getD []
  ⟨Number.ofDigits (text.whole ++ behind), text.power - behind.length⟩

end Json5.DecimalText

namespace Json

open Json5

variable {written rest : List Char}

/-- Whether something stands behind a value that ends it. -/
def IsClosed (rest : List Char) : Prop := ∀ c ∈ rest.head?, c = ',' ∨ c = ']' ∨ c = '\x7d'

theorem isClosed_nil : IsClosed [] := by simp [IsClosed]

theorem isClosed_cons {c : Char} (ends : c = ',' ∨ c = ']' ∨ c = '\x7d') : IsClosed (c :: rest) := by
  simpa [IsClosed] using ends

theorem IsClosed.not_numeral (closed : IsClosed rest) :
    ∀ c ∈ rest.head?, c.isDigit = false ∧ c ≠ '.' ∧ c ≠ 'e' ∧ c ≠ 'E' := by
  intro c first
  rcases closed c first with rfl | rfl | rfl <;> decide

theorem digits_append (all : ∀ c ∈ written, c.isDigit = true)
    (ends : ∀ c ∈ rest.head?, c.isDigit = false) :
    Json5.digits (written ++ rest) = (written, rest) := by
  have none_taken : rest.takeWhile Char.isDigit = [] ∧ rest.dropWhile Char.isDigit = rest := by
    cases rest with
    | nil => exact ⟨rfl, rfl⟩
    | cons c more => simp [ends c rfl]
  rw [Json5.digits, List.span_eq_takeWhile_dropWhile, List.takeWhile_append_of_pos all,
    List.dropWhile_append_of_pos all, none_taken.1, none_taken.2, List.append_nil]

theorem exponentText_append {exponent : Option (Bool × List Char)}
    (all : ∀ parts ∈ exponent, ∀ c ∈ parts.2, c.isDigit = true) (closed : IsClosed rest) :
    exponentText (DecimalText.exponentChars exponent ++ rest) = (exponent, rest) := by
  cases exponent with
  | none =>
    cases rest with
    | nil => rfl
    | cons c more =>
      obtain ⟨-, -, lower, upper⟩ := closed.not_numeral c rfl
      unfold DecimalText.exponentChars exponentText
      simp [lower, upper]
  | some parts =>
    obtain ⟨below, written⟩ := parts
    have read := digits_append (all (below, written) rfl)
      fun c first => (closed.not_numeral c first).1
    cases below <;> simp [DecimalText.exponentChars, exponentText, read]

theorem exponentChars_not_digit {exponent : Option (Bool × List Char)} (closed : IsClosed rest) :
    ∀ c ∈ (DecimalText.exponentChars exponent ++ rest).head?, c.isDigit = false ∧ c ≠ '.' := by
  intro c first
  cases exponent with
  | none =>
    obtain ⟨digit, point, -⟩ := closed.not_numeral c first
    exact ⟨digit, point⟩
  | some parts =>
    obtain rfl : 'e' = c := by simpa [DecimalText.exponentChars] using first
    decide

theorem decimalText_chars {text : DecimalText} (isNumeral : text.IsNumeral)
    (closed : IsClosed rest) : decimalText (text.chars ++ rest) = (text, rest) := by
  obtain ⟨whole, fraction, exponent⟩ := text
  have readExponent := exponentText_append isNumeral.exponent_digits closed
  have ends : ∀ c ∈ (DecimalText.exponentChars exponent ++ rest).head?, c.isDigit = false ∧ c ≠ '.' :=
    exponentChars_not_digit closed
  simp only [DecimalText.chars, List.append_assoc]
  generalize DecimalText.exponentChars exponent ++ rest = tail at ends readExponent
  cases fraction with
  | none =>
    have read := digits_append isNumeral.whole_digits fun c first => (ends c first).1
    have pointless : ∀ more, tail ≠ '.' :: more := by
      rintro more rfl
      exact (ends '.' rfl).2 rfl
    simp only [DecimalText.fractionChars, List.nil_append, decimalText, read]
    rw [readExponent]
  | some behind =>
    have read := digits_append (isNumeral.fraction_digits behind rfl) fun c first => (ends c first).1
    have readWhole : digits (whole ++ '.' :: (behind ++ tail)) = (whole, '.' :: (behind ++ tail)) :=
      digits_append isNumeral.whole_digits (by simp)
    simp [DecimalText.fractionChars, decimalText, read, readWhole, readExponent]

theorem exists_digit_cons {text : DecimalText} (isNumeral : text.IsNumeral) :
    ∃ digit more, text.chars = digit :: more ∧ digit.isDigit = true := by
  obtain ⟨digit, more, whole⟩ := List.exists_cons_of_ne_nil isNumeral.whole_ne_nil
  refine ⟨digit, _, by rw [DecimalText.chars, whole, List.cons_append],
    isNumeral.whole_digits digit ?_⟩
  rw [whole]
  exact List.mem_cons_self

/-- A number is read behind its sign. -/
theorem number_signed {negative : Bool} {text : DecimalText} (isNumeral : text.IsNumeral)
    (closed : IsClosed rest) :
    number (text.signed negative ++ rest) =
      (numberOf negative text).map fun value => (value, rest) := by
  have split : Number.splitMinus (text.signed negative ++ rest) = (negative, text.chars ++ rest) := by
    cases negative with
    | true => rfl
    | false =>
      obtain ⟨digit, more, written, isDigit⟩ := exists_digit_cons isNumeral
      have unsigned : digit ≠ '-' := by
        rintro rfl
        exact absurd isDigit (by decide)
      simp [DecimalText.signed, written, Number.splitMinus, unsigned]
  rw [number, split]
  dsimp only
  rw [decimalText_chars isNumeral closed]

/-- A numeral without a point and an exponent is an integer, unless it is too long. -/
theorem numberOf_integer {negative : Bool} {whole : List Char}
    (isNumeral : DecimalText.IsNumeral ⟨whole, none, none⟩)
    (short : whole.length ≤ Number.maxDigits) :
    numberOf negative ⟨whole, none, none⟩ =
      some (.int (if negative then -(Number.ofDigits whole : Int) else Number.ofDigits whole)) := by
  have leading := isNumeral.no_leading_zero
  simp [numberOf, isNumeral.whole_ne_nil, leading, short]

theorem power?_eq {text : DecimalText} (isNumeral : text.IsNumeral) :
    power? text.exponent = some text.power := by
  obtain ⟨whole, fraction, exponent⟩ := text
  have some_ := isNumeral.exponent_ne_nil
  unfold power? DecimalText.power
  cases exponent with
  | none => rfl
  | some parts =>
    obtain ⟨below, _ | ⟨digit, more⟩⟩ := parts
    · exact absurd rfl (some_ _ rfl)
    · rfl

/-- Any other numeral is a number with a point, the one nearest to what its digits stand for. -/
theorem numberOf_float {negative : Bool} {text : DecimalText} (isNumeral : text.IsNumeral)
    (other : text.fraction ≠ none ∨ text.exponent ≠ none) :
    numberOf negative text =
      some (.float (Binary64.ofDecimal negative text.decimal.digits text.decimal.exponent)) := by
  have power := power?_eq isNumeral
  rw [numberOf, if_neg]
  · split
    · next fraction exponent => simp [fraction, exponent] at other
    · rw [power]
      rfl
  · simp [isNumeral.whole_ne_nil, isNumeral.no_leading_zero, isNumeral.fraction_ne_nil]

def Denotes (cs : List Char) (value : Json) : Prop :=
  ∃ (negative : Bool) (text : DecimalText),
    text.IsNumeral ∧ cs = text.signed negative ∧ numberOf negative text = some value

namespace Denotes

variable {cs : List Char} {value : Json}

theorem number_eq (denotes : Denotes cs value) (closed : IsClosed rest) :
    number (cs ++ rest) = some (value, rest) := by
  obtain ⟨negative, text, isNumeral, rfl, means⟩ := denotes
  rw [number_signed isNumeral closed, means, Option.map_some]

theorem exists_cons (denotes : Denotes cs value) :
    ∃ first more, cs = first :: more ∧ (first = '-' ∨ first.isDigit = true) := by
  obtain ⟨negative, text, isNumeral, rfl, -⟩ := denotes
  cases negative with
  | true => exact ⟨'-', text.chars, rfl, .inl rfl⟩
  | false =>
    obtain ⟨digit, more, written, isDigit⟩ := exists_digit_cons isNumeral
    exact ⟨digit, more, written, .inr isDigit⟩

end Denotes

end Json

end StorageLayout
