import Mathlib.Data.List.Basic
import Mathlib.Data.List.TakeDrop
import Mathlib.Data.List.TakeWhile
import StorageLayout.Number.IntegerText

namespace StorageLayout.Number

open StorageLayout.Text

def digitsNumber (cs : List Char) : Nat :=
  (cs.filterMap digitValue?).foldl (fun value digit => 10 * value + digit) 0

/-- The integer that the digits among characters stand for. -/
def signedNumber (negative : Bool) (cs : List Char) : Int :=
  if negative then -(digitsNumber cs : Int) else digitsNumber cs

theorem ofDigitValues_eq (negative : Bool) (cs : List Char) :
    ofDigitValues negative (cs.filterMap digitValue?) = signedNumber negative cs := rfl

/-- Whether a character can stand in a number behind its sign. -/
def IsNumeral (c : Char) : Prop := c = '_' ∨ (digitValue? c).isSome

theorem isNumeral_zero : IsNumeral '0' := .inr rfl

theorem isNumeral_underscore : IsNumeral '_' := .inl rfl

theorem not_isNumeral_minus : ¬ IsNumeral '-' := by
  unfold IsNumeral
  decide

theorem not_isNumeral_point : ¬ IsNumeral '.' := by
  unfold IsNumeral
  decide

theorem point_notMem {cs : List Char} (numerals : ∀ c ∈ cs, IsNumeral c) : '.' ∉ cs := by
  intro inside
  exact not_isNumeral_point (numerals '.' inside)

/-! ### Underscores -/

theorem dropUnderscores_subset {cs kept : List Char} (dropped : dropUnderscores cs = some kept) :
    kept ⊆ cs := by
  fun_induction dropUnderscores cs generalizing kept with
  | case1 => simp_all
  | case2 => cases dropped
  | case3 => cases dropped
  | case4 rest _ _ ih =>
    exact fun c member => List.mem_cons_of_mem _ (ih dropped member)
  | case5 c rest _ _ _ ih =>
    obtain ⟨inner, droppedRest, rfl⟩ := Option.map_eq_some_iff.mp dropped
    intro other member
    rcases List.mem_cons.mp member with rfl | later
    · exact List.mem_cons_self
    · exact List.mem_cons_of_mem _ (ih droppedRest later)

theorem filterMap_dropUnderscores {cs kept : List Char}
    (dropped : dropUnderscores cs = some kept) :
    kept.filterMap digitValue? = cs.filterMap digitValue? := by
  have underscore : digitValue? '_' = none := by decide
  fun_induction dropUnderscores cs generalizing kept with
  | case1 => simp_all
  | case2 => cases dropped
  | case3 => cases dropped
  | case4 rest _ _ ih => rw [ih dropped, List.filterMap_cons_none underscore]
  | case5 c rest _ _ _ ih =>
    obtain ⟨inner, droppedRest, rfl⟩ := Option.map_eq_some_iff.mp dropped
    rw [List.filterMap_cons, List.filterMap_cons, ih droppedRest]

theorem dropUnderscores_of_unspaced {cs kept : List Char} (dropped : unspaced cs = some kept) :
    dropUnderscores cs = some kept := by
  unfold unspaced at dropped
  split at dropped
  · cases dropped
  · exact dropped

theorem digitsNumber_unspaced {cs kept : List Char} (dropped : unspaced cs = some kept) :
    digitsNumber kept = digitsNumber cs := by
  rw [digitsNumber, digitsNumber, filterMap_dropUnderscores (dropUnderscores_of_unspaced dropped)]

/-! ### Leading zeros -/

theorem digitsNumber_zero_cons (cs : List Char) : digitsNumber ('0' :: cs) = digitsNumber cs := by
  have zero : digitValue? '0' = some 0 := by decide
  rw [digitsNumber, List.filterMap_cons_some zero]
  rfl

theorem digitsNumber_underscore_cons (cs : List Char) :
    digitsNumber ('_' :: cs) = digitsNumber cs := by
  have underscore : digitValue? '_' = none := by decide
  rw [digitsNumber, List.filterMap_cons_none underscore]
  rfl

theorem dropZeros_spec {last : Char} {cs rest : List Char} (leading : last = '0' ∨ last = '_')
    (numerals : ∀ c ∈ cs, IsNumeral c) (dropped : dropZeros last cs = some rest) :
    digitsNumber rest = digitsNumber cs ∧ ∀ c ∈ rest, IsNumeral c := by
  induction cs generalizing last with
  | nil =>
    obtain rfl := Option.some.inj dropped
    rcases leading with rfl | rfl
    · exact ⟨digitsNumber_zero_cons [], List.forall_mem_singleton.mpr isNumeral_zero⟩
    · exact ⟨digitsNumber_underscore_cons [], List.forall_mem_singleton.mpr isNumeral_underscore⟩
  | cons c cs ih =>
    rw [dropZeros] at dropped
    have numeralsRest : ∀ other ∈ cs, IsNumeral other := by
      intro other member
      exact numerals other (List.mem_cons_of_mem _ member)
    split at dropped
    · next padding =>
      have leadingHere : c = '0' ∨ c = '_' := by simpa using padding
      obtain ⟨same, numeralsLeft⟩ := ih leadingHere numeralsRest dropped
      refine ⟨?_, numeralsLeft⟩
      rcases leadingHere with rfl | rfl
      · rw [same, digitsNumber_zero_cons]
      · rw [same, digitsNumber_underscore_cons]
    · split at dropped
      · obtain rfl := Option.some.inj dropped
        exact ⟨rfl, numerals⟩
      · cases dropped

theorem withoutLeadingZeros_spec {cs rest : List Char} (numerals : ∀ c ∈ cs, IsNumeral c)
    (dropped : withoutLeadingZeros cs = some rest) :
    digitsNumber rest = digitsNumber cs ∧ ∀ c ∈ rest, IsNumeral c := by
  cases cs with
  | nil => cases dropped
  | cons c cs =>
    rw [withoutLeadingZeros] at dropped
    split at dropped
    · next zero =>
      obtain ⟨same, numeralsLeft⟩ := dropZeros_spec (.inl rfl)
        (fun other member => numerals other (List.mem_cons_of_mem _ member)) (zero ▸ dropped)
      rw [zero, digitsNumber_zero_cons]
      exact ⟨same, numeralsLeft⟩
    · split at dropped
      · obtain rfl := Option.some.inj dropped
        exact ⟨rfl, numerals⟩
      · cases dropped

/-! ### Readers -/

/-- A text with its sign split off. -/
theorem splitSign_cases (cs : List Char) :
    (∃ body, splitSign cs = (true, body) ∧ cs = '-' :: body) ∨
      (∃ body, splitSign cs = (false, body) ∧ cs = '+' :: body) ∨
        splitSign cs = (false, cs) ∧ cs.head? ≠ some '-' ∧ cs.head? ≠ some '+' := by
  unfold splitSign
  split
  · next rest => exact .inl ⟨rest, rfl, rfl⟩
  · next rest => exact .inr (.inl ⟨rest, rfl, rfl⟩)
  · next notMinus notPlus =>
    refine .inr (.inr ⟨rfl, ?_, ?_⟩)
    · intro minus
      obtain ⟨rest, rfl⟩ := List.head?_eq_some_iff.mp minus
      exact notMinus rest rfl
    · intro plus
      obtain ⟨rest, rfl⟩ := List.head?_eq_some_iff.mp plus
      exact notPlus rest rfl

/-- What the strict reader takes is numerals behind a sign, and they make up the number. -/
theorem integer_spec {cs : List Char} {number : Int} (read : integer cs = .ok number) :
    (∀ c ∈ (splitSign (trimChars isWhite cs)).2, IsNumeral c) ∧
      number = signedNumber (splitSign (trimChars isWhite cs)).1
        (splitSign (trimChars isWhite cs)).2 := by
  unfold integer at read
  generalize splitSign (trimChars isWhite cs) = split at read ⊢
  obtain ⟨negative, body⟩ := split
  dsimp only at read ⊢
  rw [List.span_eq_takeWhile_dropWhile] at read
  dsimp only at read
  split at read
  · cases read
  · next digits dropped =>
    split at read
    · cases read
    · split at read
      · cases read
      · next whole =>
        have all : body.dropWhile (fun c => c = '_' || (digitValue? c).isSome) = [] := by
          rw [← List.isEmpty_iff]
          by_contra more
          exact whole (by simp [more])
        have numerals := List.dropWhile_eq_nil_iff.mp all
        have taken : body.takeWhile (fun c => c = '_' || (digitValue? c).isSome) = body := by
          have parts := List.takeWhile_append_dropWhile
            (p := fun c => c = '_' || (digitValue? c).isSome) (l := body)
          rwa [all, List.append_nil] at parts
        refine ⟨fun c member => by simpa [IsNumeral] using numerals c member, ?_⟩
        rw [taken] at dropped
        rw [← Except.ok.inj read, ofDigitValues_eq, signedNumber, signedNumber,
          digitsNumber_unspaced dropped]

theorem asciiDigitValue?_eq {c : Char} (digit : c.isDigit = true) :
    asciiDigitValue? c = digitValue? c := by
  have bounds : '0'.toNat ≤ c.toNat ∧ c.toNat ≤ '9'.toNat := by
    simpa [Char.isDigit, Char.le_def, UInt32.le_iff_toNat_le] using digit
  have first : (zeroDigits.find? fun start => start ≤ c.toNat && c.toNat < start + 10) =
      some 0x30 := by
    rw [zeroDigits, List.find?_cons_of_pos]
    simp at bounds ⊢
    omega
  have ascii : ('0' ≤ c && c ≤ '9') = true := by
    simpa [Char.le_def, UInt32.le_iff_toNat_le] using bounds
  rw [asciiDigitValue?, if_pos ascii, digitValue?, first]
  rfl

theorem splitMinus_shape (cs : List Char) :
    ∃ negative body, cs = (if negative then '-' :: body else body) ∧
      splitMinus cs = (negative, body) := by
  unfold splitMinus
  split
  · next rest => exact ⟨true, rest, rfl, rfl⟩
  · exact ⟨false, cs, rfl, rfl⟩

theorem plainInteger_spec {cs : List Char} {number : Int} (read : plainInteger cs = .ok number) :
    ∃ negative body, cs = (if negative then '-' :: body else body) ∧
      (∀ c ∈ body, c.isDigit = true) ∧ number = signedNumber negative body := by
  have values {body : List Char} (digits : ∀ c ∈ body, c.isDigit = true) :
      body.filterMap asciiDigitValue? = body.filterMap digitValue? :=
    List.filterMap_congr fun c member => asciiDigitValue?_eq (digits c member)
  obtain ⟨negative, body, shape, split_eq⟩ := splitMinus_shape cs
  refine ⟨negative, body, shape, ?_⟩
  unfold plainInteger at read
  rw [split_eq] at read
  dsimp only at read
  rw [List.span_eq_takeWhile_dropWhile] at read
  dsimp only at read
  split at read
  · cases read
  · cases read
  · split at read
    · cases read
    · split at read
      · cases read
      · next whole =>
        have all : body.dropWhile Char.isDigit = [] := by
          rw [← List.isEmpty_iff]
          by_contra more
          exact whole (by simp [more])
        have digits := List.dropWhile_eq_nil_iff.mp all
        have taken : body.takeWhile Char.isDigit = body := by
          have parts := List.takeWhile_append_dropWhile (p := Char.isDigit) (l := body)
          rwa [all, List.append_nil] at parts
        rw [taken, values digits, ofDigitValues_eq] at read
        exact ⟨digits, (Except.ok.inj read).symm⟩

/-! ### Both readers -/

theorem trimChars_eq_self {drop : Char → Bool} {cs : List Char}
    (kept : ∀ c ∈ cs, drop c = false) : trimChars drop cs = cs := by
  have untouched {cs : List Char} (kept : ∀ c ∈ cs, drop c = false) : cs.dropWhile drop = cs := by
    cases cs with
    | nil => rfl
    | cons c rest => simp [kept c]
  have keptReversed : ∀ c ∈ cs.reverse, drop c = false := by
    intro c member
    exact kept c (List.mem_reverse.mp member)
  rw [trimChars, untouched kept, untouched keptReversed, List.reverse_reverse]

theorem isWhite_digit {c : Char} (digit : c.isDigit = true) : isWhite c = false := by
  have bounds : '0'.toNat ≤ c.toNat ∧ c.toNat ≤ '9'.toNat := by
    simpa [Char.isDigit, Char.le_def, UInt32.le_iff_toNat_le] using digit
  simp [isWhite, isBlank, inRanges, blankRanges] at bounds ⊢
  omega

theorem withoutZeroFraction_eq_self {cs : List Char} (pointless : '.' ∉ cs) :
    withoutZeroFraction cs = cs := by
  have none_left : cs.dropWhile (· ≠ '.') = [] := by
    apply List.dropWhile_eq_nil_iff.mpr
    intro c member
    simpa using fun same : c = '.' => pointless (same ▸ member)
  rw [withoutZeroFraction, none_left]

theorem withoutZeros_unsigned {cs : List Char} (notMinus : cs.head? ≠ some '-')
    (notPlus : cs.head? ≠ some '+') : withoutZeros cs = withoutLeadingZeros cs := by
  unfold withoutZeros
  split
  · exact absurd rfl notMinus
  · exact absurd rfl notPlus
  · rfl

/-- The plain form of numerals without a minus stands for the same number. -/
private theorem plain_unsigned {body rest form : List Char} {number : Int}
    (numerals : ∀ c ∈ body, IsNumeral c) (dropped : withoutLeadingZeros body = some rest)
    (kept : unspaced rest = some form) (read : plainInteger form = .ok number) :
    number = signedNumber false body := by
  obtain ⟨same, numeralsRest⟩ := withoutLeadingZeros_spec numerals dropped
  have subset := dropUnderscores_subset (dropUnderscores_of_unspaced kept)
  obtain ⟨negative, digits, rfl, -, rfl⟩ := plainInteger_spec read
  cases negative with
  | true =>
    have minus : '-' ∈ rest := subset (by simp)
    exact absurd (numeralsRest '-' minus) not_isNumeral_minus
  | false =>
    simp only [Bool.false_eq_true, if_false] at kept
    rw [signedNumber, signedNumber, digitsNumber_unspaced kept, same]

/-- The plain form of numerals behind a minus stands for the same number. -/
private theorem plain_signed {body rest form : List Char} {number : Int}
    (numerals : ∀ c ∈ body, IsNumeral c) (dropped : withoutLeadingZeros body = some rest)
    (kept : unspaced ('-' :: rest) = some form) (read : plainInteger form = .ok number) :
    number = signedNumber true body := by
  obtain ⟨same, -⟩ := withoutLeadingZeros_spec numerals dropped
  have keptAll := dropUnderscores_of_unspaced kept
  rw [dropUnderscores] at keptAll
  · obtain ⟨inner, keptRest, rfl⟩ := Option.map_eq_some_iff.mp keptAll
    obtain ⟨negative, digits, shape, areDigits, rfl⟩ := plainInteger_spec read
    cases negative with
    | true =>
      obtain ⟨-, rfl⟩ := List.cons.inj shape
      rw [signedNumber, signedNumber, digitsNumber, filterMap_dropUnderscores keptRest,
        ← digitsNumber, same]
    | false =>
      simp only [Bool.false_eq_true, if_false] at shape
      have digit := areDigits '-' (shape ▸ List.mem_cons_self)
      cases digit
  · simp
  · simp
  · simp

/-- A text that is plain already is the same number for the strict reader, white space or not. -/
private theorem plain_trimmed {cs : List Char} {number : Int}
    (read : plainInteger cs = .ok number) :
    number = signedNumber (splitSign (trimChars isWhite cs)).1
      (splitSign (trimChars isWhite cs)).2 := by
  obtain ⟨negative, body, rfl, digits, rfl⟩ := plainInteger_spec read
  have visible : ∀ c ∈ body, isWhite c = false := by
    intro c member
    exact isWhite_digit (digits c member)
  cases negative with
  | true =>
    have untrimmed : trimChars isWhite ('-' :: body) = '-' :: body := by
      apply trimChars_eq_self
      exact List.forall_mem_cons.mpr ⟨by decide, visible⟩
    simp only [if_true, untrimmed, splitSign]
  | false =>
    simp only [Bool.false_eq_true, if_false, trimChars_eq_self visible]
    rcases splitSign_cases body with ⟨rest, -, rfl⟩ | ⟨rest, -, rfl⟩ | ⟨unsigned, -, -⟩
    · cases digits '-' List.mem_cons_self
    · cases digits '+' List.mem_cons_self
    · rw [unsigned]

theorem integer_eq_wholeNumber {cs : List Char} {strict lenient : Int}
    (readStrictly : integer cs = .ok strict) (readLeniently : wholeNumber cs = .ok lenient) :
    strict = lenient := by
  obtain ⟨numerals, rfl⟩ := integer_spec readStrictly
  unfold wholeNumber at readLeniently
  split at readLeniently
  · next number read =>
    obtain rfl := Except.ok.inj readLeniently
    exact (plain_trimmed read).symm
  · cases readLeniently
  · split at readLeniently
    · next number form =>
      obtain rfl := Except.ok.inj readLeniently
      obtain ⟨plain, formed, read⟩ := Option.map_eq_some_iff.mp form
      obtain ⟨zeroless, dropped, kept⟩ := Option.bind_eq_some_iff.mp formed
      generalize trimChars isWhite cs = text at numerals dropped ⊢
      rcases splitSign_cases text with
        ⟨body, signed, rfl⟩ | ⟨body, signed, rfl⟩ | ⟨signed, notMinus, notPlus⟩
      · rw [signed] at numerals ⊢
        have pointless : '.' ∉ '-' :: body :=
          List.not_mem_cons_of_ne_of_not_mem (by decide) (point_notMem numerals)
        rw [withoutZeroFraction_eq_self pointless, withoutZeros] at dropped
        obtain ⟨rest, droppedBody, rfl⟩ := Option.map_eq_some_iff.mp dropped
        exact (plain_signed numerals droppedBody kept read).symm
      · rw [signed] at numerals ⊢
        have pointless : '.' ∉ '+' :: body :=
          List.not_mem_cons_of_ne_of_not_mem (by decide) (point_notMem numerals)
        rw [withoutZeroFraction_eq_self pointless, withoutZeros] at dropped
        exact (plain_unsigned numerals dropped kept read).symm
      · rw [signed] at numerals ⊢
        rw [withoutZeroFraction_eq_self (point_notMem numerals),
          withoutZeros_unsigned notMinus notPlus] at dropped
        exact (plain_unsigned numerals dropped kept read).symm
    · cases readLeniently

end StorageLayout.Number
