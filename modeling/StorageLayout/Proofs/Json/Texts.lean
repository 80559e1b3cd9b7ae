import Mathlib.Data.List.Forall2
import StorageLayout.Json.Reader

namespace StorageLayout.Json

open StorageLayout.Text

/-! ### One line -/

/-- Whether code points can stand on one line: there is no control character among them. -/
def IsOneLine (codes : Codes) : Prop := ∀ code ∈ codes, 0x20 ≤ code.number

instance (codes : Codes) : Decidable (IsOneLine codes) :=
  List.decidableBAll (fun code : Code => 0x20 ≤ code.number) codes

theorem isOneLine_nil : IsOneLine [] := List.forall_mem_nil _

theorem isOneLine_append {left right : Codes} (first : IsOneLine left) (second : IsOneLine right) :
    IsOneLine (left ++ right) := by
  intro code member
  rcases List.mem_append.mp member with before | behind
  · exact first code before
  · exact second code behind

theorem isOneLine_cons {code : Code} {codes : Codes} (visible : 0x20 ≤ code.number)
    (rest : IsOneLine codes) : IsOneLine (code :: codes) :=
  List.forall_mem_cons.mpr ⟨visible, rest⟩

theorem isOneLine_chars {cs : List Char} (visible : ∀ c ∈ cs, 0x20 ≤ c.toNat) :
    IsOneLine (cs.map .char) := by
  intro code member
  obtain ⟨c, inside, rfl⟩ := List.mem_map.mp member
  exact visible c inside

theorem hexadecimal_control : ∀ number < 0x20, (hexadecimal 4 number).length = 4 ∧
    Json5.hexNumber? 0 (hexadecimal 4 number) = some number ∧
    ((hexadecimal 4 number).all fun c => 0x20 ≤ c.toNat) = true := by
  decide

theorem shortEscapes_spec : ∀ pair ∈ shortEscapes, 0x20 ≤ pair.2.toNat ∧ pair.2 ≠ 'u' ∧
    escapes.lookup pair.2 = some pair.1 := by
  decide

/-- The ways in which a character is written. -/
inductive EscapedAs (c : Char) : List Char → Prop where
  | marked (special : c = doubleQuote ∨ c = backslash) : EscapedAs c [backslash, c]
  | lettered {letter : Char} (short : (c, letter) ∈ shortEscapes) : EscapedAs c [backslash, letter]
  | numbered (control : c.toNat < 0x20) :
      EscapedAs c (backslash :: 'u' :: hexadecimal 4 c.toNat)
  | itself (visible : 0x20 ≤ c.toNat) (quotes : c ≠ doubleQuote) (escapes : c ≠ backslash) :
      EscapedAs c [c]

theorem escapeChar_cases (c : Char) : EscapedAs c (escapeChar c) := by
  unfold escapeChar
  split
  · next special => exact .marked (by simpa using special)
  · next ordinary =>
    rw [Bool.or_eq_true, decide_eq_true_iff, decide_eq_true_iff, not_or] at ordinary
    split
    · next letter found =>
      obtain ⟨before, behind, parts, -⟩ := List.lookup_eq_some_iff.mp found
      exact .lettered (by simp [parts])
    · split
      · next control => exact .numbered control
      · next visible => exact .itself (Nat.le_of_not_lt visible) ordinary.1 ordinary.2

theorem visible_escapeChar (c : Char) : ∀ written ∈ escapeChar c, 0x20 ≤ written.toNat := by
  have slash : 0x20 ≤ backslash.toNat := by decide
  have ways := escapeChar_cases c
  generalize escapeChar c = written at ways
  cases ways with
  | marked special =>
    have visible : 0x20 ≤ c.toNat := by
      rcases special with rfl | rfl <;> decide
    simp [slash, visible]
  | lettered short => simp [slash, (shortEscapes_spec _ short).1]
  | numbered control =>
    have letter : 0x20 ≤ 'u'.toNat := by decide
    have digits : ∀ digit ∈ hexadecimal 4 c.toNat, 0x20 ≤ digit.toNat := by
      simpa using (hexadecimal_control c.toNat control).2.2
    exact List.forall_mem_cons.mpr ⟨slash, List.forall_mem_cons.mpr ⟨letter, digits⟩⟩
  | itself visible _ _ => simpa using visible

theorem isOneLine_escapeCode (code : Code) : IsOneLine (escapeCode code) := by
  cases code with
  | char c => exact isOneLine_chars (visible_escapeChar c)
  | half place =>
    have visible : 0x20 ≤ (Code.half place).number := by
      simp only [Code.number, Code.firstHalf]
      omega
    exact isOneLine_cons visible isOneLine_nil

theorem isOneLine_encodeText (codes : Codes) : IsOneLine (encodeText codes) := by
  have quote : 0x20 ≤ (Code.char doubleQuote).number := by decide
  refine isOneLine_append (isOneLine_cons quote fun code member => ?_)
    (isOneLine_cons quote isOneLine_nil)
  obtain ⟨original, -, written⟩ := List.mem_flatMap.mp member
  exact isOneLine_escapeCode original code written

/-! ### Reading -/

/-- Whether a piece is what a code point is read as: the code point, or the number of a control
character. -/
inductive Piece.Means : Piece → Code → Prop where
  | code (code : Code) : Means (.code code) code
  | control {c : Char} (control : c.toNat < 0x20) : Means (.number c.toNat) (.char c)

theorem joinPieces_control {number : Nat} (control : number < 0x20) (pieces : List Piece) :
    joinPieces (.number number :: pieces) = .ofNumber number :: joinPieces pieces := by
  have low : isHighHalf number = false := by
    simp only [isHighHalf, Bool.and_eq_false_iff, decide_eq_false_iff_not]
    omega
  rcases pieces with _ | ⟨_ | second, pieces⟩
  · rfl
  · rfl
  · rw [joinPieces, low, Bool.false_and, if_neg Bool.false_ne_true]

theorem ofNumber_control {c : Char} (control : c.toNat < 0x20) :
    Code.ofNumber c.toNat = .char c := by
  have low : c.toNat < Code.firstHalf := Nat.lt_trans control (by decide)
  rw [Code.ofNumber, if_pos low, Char.ofNat_toNat]

theorem joinPieces_eq {pieces : List Piece} {codes : Codes}
    (means : List.Forall₂ Piece.Means pieces codes) : joinPieces pieces = codes := by
  induction means with
  | nil => rfl
  | cons first _ ih =>
    cases first with
    | code code => rw [joinPieces, ih]
    | control control => rw [joinPieces_control control, ofNumber_control control, ih]

variable {rest : Rest}

/-- A letter behind a backslash, unless it announces a number, is read as what it stands for. -/
theorem textPieces_letter {letter meant : Char} (other : letter ≠ 'u')
    (known : escapes.lookup letter = some meant) :
    textPieces (.char backslash :: .char letter :: rest) =
      (textPieces rest).map fun (pieces, left) => (.code (.char meant) :: pieces, left) := by
  rw [backslash, textPieces]
  · rw [known]
    rfl
  · intro _ _ _ _ _ _
    exact other

/-- Four digits behind a backslash are read as the number that they stand for. -/
theorem textPieces_number {digits : List Char} {number : Nat} (four : digits.length = 4)
    (meant : Json5.hexNumber? 0 digits = some number) :
    textPieces (.char backslash :: .char 'u' :: (digits.map .char ++ rest)) =
      (textPieces rest).map fun (pieces, left) => (.number number :: pieces, left) := by
  match digits, four with
  | [first, second, third, fourth], _ =>
    simp only [List.map_cons, List.map_nil, List.cons_append, List.nil_append]
    rw [backslash, textPieces, meant]
    rfl

theorem textPieces_itself {code : Code} (visible : 0x20 ≤ code.number)
    (quotes : code ≠ .char doubleQuote) (escapes : code ≠ .char backslash) :
    textPieces (code :: rest) =
      (textPieces rest).map fun (pieces, left) => (.code code :: pieces, left) := by
  rw [textPieces]
  · rw [if_neg (by simp [escapes, visible])]
  · exact quotes
  · intro _ _ _ _ _ same
    exact absurd same escapes
  · intro _ _ same
    exact absurd same escapes

theorem textPieces_escapeCode (code : Code) :
    ∃ piece : Piece, piece.Means code ∧ ∀ rest, textPieces (escapeCode code ++ rest) =
      (textPieces rest).map fun (pieces, left) => (piece :: pieces, left) := by
  cases code with
  | half place =>
    have visible : 0x20 ≤ (Code.half place).number := by
      simp only [Code.number, Code.firstHalf]
      omega
    exact ⟨_, .code _, fun rest => textPieces_itself visible (by simp) (by simp)⟩
  | char c =>
    have ways := escapeChar_cases c
    rw [escapeCode]
    generalize escapeChar c = written at ways
    cases ways with
    | marked special =>
      refine ⟨_, .code _, fun rest => ?_⟩
      rcases special with rfl | rfl
      · exact textPieces_letter (by decide) (by decide)
      · exact textPieces_letter (by decide) (by decide)
    | lettered short =>
      obtain ⟨-, other, known⟩ := shortEscapes_spec _ short
      exact ⟨_, .code _, fun rest => textPieces_letter other known⟩
    | numbered control =>
      obtain ⟨four, meant, -⟩ := hexadecimal_control c.toNat control
      exact ⟨_, .control control, fun rest => textPieces_number four meant⟩
    | itself visible quotes escapes =>
      exact ⟨_, .code _, fun rest =>
        textPieces_itself visible (by simpa using quotes) (by simpa using escapes)⟩

theorem textPieces_written (codes : Codes) :
    ∃ pieces, List.Forall₂ Piece.Means pieces codes ∧
      textPieces (codes.flatMap escapeCode ++ .char doubleQuote :: rest) = some (pieces, rest) := by
  induction codes with
  | nil => exact ⟨[], .nil, rfl⟩
  | cons code codes ih =>
    obtain ⟨piece, means, read⟩ := textPieces_escapeCode code
    obtain ⟨pieces, meanRest, readRest⟩ := ih
    refine ⟨piece :: pieces, .cons means meanRest, ?_⟩
    rw [List.flatMap_cons, List.append_assoc, read, readRest]
    rfl

theorem textCodes_written (codes : Codes) :
    textCodes (codes.flatMap escapeCode ++ .char doubleQuote :: rest) = some (codes, rest) := by
  obtain ⟨pieces, means, read⟩ := @textPieces_written rest codes
  rw [textCodes, read, Option.map_some]
  exact congrArg (fun codes => some (codes, rest)) (joinPieces_eq means)

end StorageLayout.Json
