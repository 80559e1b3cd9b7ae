import StorageLayout.Proofs.Json.Numbers
import StorageLayout.Proofs.Json.Texts

namespace StorageLayout.Json

open Json5 Text

/-! ### One line -/

theorem isOneLine_digits {cs : List Char} (digits : ∀ c ∈ cs, c.isDigit = true) :
    IsOneLine (cs.map .char) := by
  refine isOneLine_chars fun c member => ?_
  have digit := digits c member
  rw [Char.isDigit, Bool.and_eq_true, decide_eq_true_iff] at digit
  exact Nat.le_trans (by decide) (UInt32.le_iff_toNat_le.mp digit.1)

theorem isOneLine_signed {negative : Bool} {text : DecimalText} (hasDigits : text.HasDigits) :
    IsOneLine ((text.signed negative).map .char) := by
  have minus : IsOneLine [.char '-'] := isOneLine_cons (by decide) isOneLine_nil
  simp only [DecimalText.signed, DecimalText.chars, List.map_append]
  refine isOneLine_append ?_ (isOneLine_append (isOneLine_digits hasDigits.whole_digits)
    (isOneLine_append ?_ ?_))
  · split
    · exact minus
    · exact isOneLine_nil
  · cases fraction : text.fraction with
    | none => exact isOneLine_nil
    | some behind =>
      exact isOneLine_cons (by decide) (isOneLine_digits (hasDigits.fraction_digits behind fraction))
  · cases exponent : text.exponent with
    | none => exact isOneLine_nil
    | some parts =>
      have written := isOneLine_digits (hasDigits.exponent_digits parts exponent)
      refine isOneLine_cons (by decide) (isOneLine_cons ?_ written)
      split <;> decide

theorem isOneLine_int (value : Int) : IsOneLine (int value).encode := by
  rw [encode, codes, int_written]
  exact isOneLine_signed (DecimalText.hasDigits_ofNat _)

theorem isOneLine_float (value : Binary64) : IsOneLine (float value).encode := by
  rw [encode]
  match value with
  | .nan => decide
  | .infinite negative => cases negative <;> decide
  | .finite negative significand exponent =>
    rw [codes, float_written]
    apply isOneLine_signed
    split
    · exact DecimalText.isNumeral_zero.toHasDigits
    · exact Binary64.Decimal.hasDigits_numeral

mutual

/-- Whatever is written stays on one line. -/
theorem isOneLine_encode : (value : Json) → IsOneLine value.encode
  | null => by decide
  | bool truth => by cases truth <;> decide
  | int value => isOneLine_int value
  | float value => isOneLine_float value
  | text codes => isOneLine_encodeText codes
  | list items =>
    isOneLine_append (isOneLine_cons (by decide) (isOneLine_encodeItems items))
      (isOneLine_cons (by decide) isOneLine_nil)
  | object members =>
    isOneLine_append (isOneLine_cons (by decide) (isOneLine_encodeMembers members))
      (isOneLine_cons (by decide) isOneLine_nil)

theorem isOneLine_encodeItems : (items : List Json) → IsOneLine (encodeItems items)
  | [] => isOneLine_nil
  | item :: items => by
    rw [encodeItems]
    split
    · exact isOneLine_encode item
    · exact isOneLine_append (isOneLine_encode item)
        (isOneLine_cons (by decide) (isOneLine_encodeItems items))

theorem isOneLine_encodeMembers :
    (members : List (Codes × Json)) → IsOneLine (encodeMembers members)
  | [] => isOneLine_nil
  | (name, value) :: members => by
    have member : IsOneLine (encodeText name ++ .char ':' :: encode value) :=
      isOneLine_append (isOneLine_encodeText name)
        (isOneLine_cons (by decide) (isOneLine_encode value))
    rw [encodeMembers]
    split
    · exact member
    · exact isOneLine_append member (isOneLine_cons (by decide) (isOneLine_encodeMembers members))

end

/-! ### What is read -/

variable {rest left : Rest} {fuel : Nat}

/-- Whether something stands behind a value that ends it. -/
def Ends (rest : Rest) : Prop :=
  ∀ code ∈ rest.head?, code = .char ',' ∨ code = .char ']' ∨ code = .char '\x7d'

theorem ends_cons {code : Code} (ends : code = .char ',' ∨ code = .char ']' ∨ code = .char '\x7d') :
    Ends (code :: rest) := by
  simpa [Ends] using ends

theorem leading_append (cs : List Char) (rest : Rest) :
    leading (cs.map .char ++ rest) = (cs ++ (leading rest).1, (leading rest).2) := by
  induction cs with
  | nil => rfl
  | cons c cs ih => rw [List.map_cons, List.cons_append, leading, ih, List.cons_append]

theorem leading_parts (rest : Rest) : (leading rest).1.map .char ++ (leading rest).2 = rest := by
  induction rest with
  | nil => rfl
  | cons code rest ih =>
    cases code with
    | char c => rw [leading, List.map_cons, List.cons_append, ih]
    | half place => rfl

theorem Ends.isClosed (ends : Ends rest) : IsClosed (leading rest).1 := by
  match rest, ends with
  | [], _ => exact isClosed_nil
  | .half _ :: _, _ => exact isClosed_nil
  | .char c :: more, ends => exact isClosed_cons (by simpa [Ends] using ends)

theorem skip_cons {first : Code} {more : Rest} (visible : isSpace first = false) :
    skip (first :: more) = first :: more := by
  rw [skip, List.dropWhile_cons_of_neg (by simp [visible])]

/-- Whether a value is read as it was before it was written. Twice as many readings as its text has
code points are enough, less one; and its first character tells a list that begins with it from an
empty one. -/
structure IsRead (value : Json) : Prop where
  starts : ∃ first more,
    value.encode = .char first :: more ∧ isSpace (.char first) = false ∧ first ≠ ']'
  reads : ∀ {fuel : Nat} {rest : Rest}, 2 * value.encode.length ≤ fuel + 2 → Ends rest →
    value? (fuel + 1) (value.encode ++ rest) = some (value, rest)

namespace IsRead

variable {value : Json}

theorem length_pos (isRead : IsRead value) : 0 < value.encode.length := by
  obtain ⟨first, more, written, -⟩ := isRead.starts
  rw [written, List.length_cons]
  exact Nat.succ_pos _

theorem value?_eq (isRead : IsRead value) (enough : 2 * value.encode.length ≤ fuel + 1)
    (ends : Ends rest) : value? fuel (value.encode ++ rest) = some (value, rest) := by
  have some_ := isRead.length_pos
  obtain ⟨less, rfl⟩ : ∃ less, fuel = less + 1 := ⟨fuel - 1, by omega⟩
  exact isRead.reads enough ends

theorem skip_eq (isRead : IsRead value) : skip (value.encode ++ rest) = value.encode ++ rest := by
  obtain ⟨first, more, written, visible, -⟩ := isRead.starts
  rw [written]
  exact skip_cons visible

end IsRead

/-! ### Words and numbers -/

/-- A character that white space, a text, a list or a mapping begins or ends with. -/
def IsSign (c : Char) : Prop :=
  isSpace (.char c) = true ∨ c = '\x22' ∨ c = '[' ∨ c = ']' ∨ c = '\x7b'

/-- A value is read if it is written in characters alone and read from them. -/
theorem isRead_of_plainValue {value : Json} {first : Char} {more : List Char}
    (written : value.encode = (first :: more).map .char) (other : ¬IsSign first)
    (read : ∀ {rest : List Char}, IsClosed rest →
      plainValue (first :: more ++ rest) = some (value, rest)) : IsRead value := by
  simp only [IsSign, not_or, Bool.not_eq_true] at other
  obtain ⟨visible, text, list, bracket, mapping⟩ := other
  refine ⟨⟨first, more.map .char, written, visible, bracket⟩, fun {fuel rest} _ ends => ?_⟩
  have parts : leading (.char first :: (more.map .char ++ rest)) =
      (first :: more ++ (leading rest).1, (leading rest).2) := leading_append (first :: more) rest
  rw [written, List.map_cons, List.cons_append, value?]
  · rw [parts, read ends.isClosed, Option.map_some]
    exact congrArg (fun left => some (value, left)) (leading_parts rest)
  · exact fun _ same => text (Code.char.inj (List.cons.inj same).1)
  · exact fun _ same => list (Code.char.inj (List.cons.inj same).1)
  · exact fun _ same => mapping (Code.char.inj (List.cons.inj same).1)

theorem plainValue_other {first : Char} {more : List Char}
    (other : first ≠ 'n' ∧ first ≠ 't' ∧ first ≠ 'f') :
    plainValue (first :: more) = number (first :: more) := by
  obtain ⟨null, yes, no⟩ := other
  simp [plainValue, words, dropWord, null.symm, yes.symm, no.symm]

theorem not_numeral {first : Char} (numeral : first = '-' ∨ first.isDigit = true) {other : Char}
    (separate : other ≠ '-' ∧ other.isDigit = false) : first ≠ other := by
  rintro rfl
  rcases numeral with minus | digit
  · exact separate.1 minus
  · exact absurd digit (by simp [separate.2])

theorem isRead_of_denotes {value : Json} {cs : List Char} (written : value.encode = cs.map .char)
    (denotes : Denotes cs value) : IsRead value := by
  have read {rest : List Char} (closed : IsClosed rest) : number (cs ++ rest) = some (value, rest) :=
    denotes.number_eq closed
  obtain ⟨first, more, rfl, numeral⟩ := denotes.exists_cons
  have other {c : Char} : c ≠ '-' ∧ c.isDigit = false → first ≠ c := not_numeral numeral
  refine isRead_of_plainValue written ?_ fun closed => ?_
  · have space : first ≠ ' ' := other (by decide)
    have line : first ≠ '\n' := other (by decide)
    have back : first ≠ '\r' := other (by decide)
    have tab : first ≠ '\t' := other (by decide)
    simp [IsSign, isSpace, space, line, back, tab, @other '\x22' (by decide), @other '[' (by decide),
      @other ']' (by decide), @other '\x7b' (by decide)]
  · rw [List.cons_append, plainValue_other ⟨other (by decide), other (by decide), other (by decide)⟩]
    exact read closed

theorem isRead_null : IsRead null := by
  have written : encode null = ['n', 'u', 'l', 'l'].map .char := rfl
  exact isRead_of_plainValue written (by simp [IsSign, isSpace]) fun _ => rfl

theorem isRead_bool (truth : Bool) : IsRead (bool truth) := by
  cases truth with
  | true =>
    have written : encode (bool true) = ['t', 'r', 'u', 'e'].map .char := rfl
    exact isRead_of_plainValue written (by simp [IsSign, isSpace]) fun _ => rfl
  | false =>
    have written : encode (bool false) = ['f', 'a', 'l', 's', 'e'].map .char := rfl
    exact isRead_of_plainValue written (by simp [IsSign, isSpace]) fun _ => rfl

/-! ### Texts -/

theorem isRead_text (codes : Codes) : IsRead (text codes) where
  starts := ⟨doubleQuote, _, rfl, rfl, by decide⟩
  reads := by
    intro fuel rest _ _
    have read : textCodes (codes.flatMap escapeCode ++ .char doubleQuote :: rest) =
        some (codes, rest) := textCodes_written codes
    rw [encode, encodeText, List.append_assoc, List.cons_append, List.singleton_append]
    unfold doubleQuote at read ⊢
    rw [value?, read]
    rfl

/-! ### Lists -/

theorem encodeItems_cons (item : Json) (items : List Json) :
    encodeItems (item :: items) =
      item.encode ++ (if items.isEmpty then [] else .char ',' :: encodeItems items) := by
  rw [encodeItems]
  split
  · exact (List.append_nil _).symm
  · rfl

theorem items?_last {value : Json} (isRead : IsRead value)
    (enough : 2 * value.encode.length ≤ fuel + 1) :
    items? (fuel + 1) (value.encode ++ .char ']' :: rest) = some ([value], rest) := by
  have read : value? fuel (value.encode ++ .char ']' :: rest) = some (value, .char ']' :: rest) :=
    isRead.value?_eq enough (ends_cons (by simp))
  simp [items?, read, skip_cons, isSpace]

theorem items?_more {value : Json} (isRead : IsRead value)
    (enough : 2 * value.encode.length ≤ fuel + 1) {items : List Json}
    (others : items? fuel (skip rest) = some (items, left)) :
    items? (fuel + 1) (value.encode ++ .char ',' :: rest) = some (value :: items, left) := by
  have read : value? fuel (value.encode ++ .char ',' :: rest) = some (value, .char ',' :: rest) :=
    isRead.value?_eq enough (ends_cons (by simp))
  simp [items?, read, skip_cons, isSpace, others]

theorem skip_items {items : List Json} (some_ : items ≠ []) (each : ∀ item ∈ items, IsRead item) :
    skip (encodeItems items ++ rest) = encodeItems items ++ rest := by
  cases items with
  | nil => exact absurd rfl some_
  | cons item items => rw [encodeItems_cons, List.append_assoc, (each item List.mem_cons_self).skip_eq]

theorem items?_written {items : List Json} (some_ : items ≠ [])
    (each : ∀ item ∈ items, IsRead item) (enough : 2 * (encodeItems items).length ≤ fuel) :
    items? fuel (encodeItems items ++ .char ']' :: rest) = some (items, rest) := by
  -- Every item takes one reading of the items behind it, and at least one character of the text.
  induction items generalizing fuel with
  | nil => exact absurd rfl some_
  | cons item items ih =>
    obtain ⟨first, others⟩ := List.forall_mem_cons.mp each
    have positive := first.length_pos
    rw [encodeItems_cons] at enough ⊢
    rw [List.length_append] at enough
    obtain ⟨less, rfl⟩ : ∃ less, fuel = less + 1 := ⟨fuel - 1, by omega⟩
    cases items with
    | nil =>
      rw [List.isEmpty_nil, if_pos rfl, List.append_nil]
      exact items?_last first (by omega)
    | cons second items =>
      have more : second :: items ≠ [] := List.cons_ne_nil _ _
      rw [List.isEmpty_cons, if_neg Bool.false_ne_true] at enough ⊢
      rw [List.length_cons] at enough
      rw [List.append_assoc, List.cons_append]
      apply items?_more first (by omega)
      rw [skip_items more others]
      exact ih more others (by omega)

theorem value?_list {codes : Codes} (some_ : ∀ rest, skip codes ≠ .char ']' :: rest) :
    value? (fuel + 1) (.char '[' :: codes) =
      (items? fuel (skip codes)).map fun (items, rest) => (.list items, rest) := by
  rw [value?]
  split
  · next none_ => exact absurd none_ (some_ _)
  · rfl

theorem isRead_list {items : List Json} (each : ∀ item ∈ items, IsRead item) :
    IsRead (list items) where
  starts := ⟨'[', _, rfl, rfl, by decide⟩
  reads := by
    intro fuel rest enough _
    have written : (list items).encode ++ rest =
        .char '[' :: (encodeItems items ++ .char ']' :: rest) := by
      simp [encode]
    rw [written]
    cases items with
    | nil => simp [value?, encodeItems, skip_cons, isSpace]
    | cons item items =>
      have read : items? fuel (encodeItems (item :: items) ++ .char ']' :: rest) =
          some (item :: items, rest) :=
        items?_written (List.cons_ne_nil _ _) each (by simp [encode] at enough; omega)
      obtain ⟨first, more, begins, visible, other⟩ := (each item List.mem_cons_self).starts
      rw [encodeItems_cons, begins, List.cons_append, List.cons_append] at read ⊢
      rw [value?_list, skip_cons visible, read, Option.map_some]
      intro rest closed
      rw [skip_cons visible] at closed
      exact other (Code.char.inj (List.cons.inj closed).1)

/-! ### Objects -/

theorem encodeMembers_cons (name : Codes) (value : Json) (members : List (Codes × Json)) :
    encodeMembers ((name, value) :: members) =
      encodeText name ++ .char ':' :: value.encode ++
        (if members.isEmpty then [] else .char ',' :: encodeMembers members) := by
  rw [encodeMembers]
  split
  · exact (List.append_nil _).symm
  · rfl

theorem textCodes_name (name : Codes) (value : Json) :
    textCodes (name.flatMap escapeCode ++ .char '\x22' :: .char ':' :: (value.encode ++ rest)) =
      some (name, .char ':' :: (value.encode ++ rest)) :=
  textCodes_written name

theorem members?_last (name : Codes) {value : Json} (isRead : IsRead value)
    (enough : 2 * value.encode.length ≤ fuel + 1) :
    members? (fuel + 1) (encodeText name ++ .char ':' :: value.encode ++ .char '\x7d' :: rest) =
      some ([(name, value)], rest) := by
  have read : value? fuel (value.encode ++ .char '\x7d' :: rest) =
      some (value, .char '\x7d' :: rest) :=
    isRead.value?_eq enough (ends_cons (by simp))
  simp [encodeText, doubleQuote, members?, textCodes_name, read, isRead.skip_eq, skip_cons, isSpace]

theorem members?_more (name : Codes) {value : Json} (isRead : IsRead value)
    (enough : 2 * value.encode.length ≤ fuel + 1) {members : List (Codes × Json)}
    (others : members? fuel (skip rest) = some (members, left)) :
    members? (fuel + 1) (encodeText name ++ .char ':' :: value.encode ++ .char ',' :: rest) =
      some ((name, value) :: members, left) := by
  have read : value? fuel (value.encode ++ .char ',' :: rest) = some (value, .char ',' :: rest) :=
    isRead.value?_eq enough (ends_cons (by simp))
  simp [encodeText, doubleQuote, members?, textCodes_name, read, isRead.skip_eq, skip_cons, isSpace,
    others]

theorem exists_members_cons {members : List (Codes × Json)} (some_ : members ≠ []) :
    ∃ more, encodeMembers members ++ rest = .char '\x22' :: more := by
  cases members with
  | nil => exact absurd rfl some_
  | cons member members =>
    rw [encodeMembers_cons]
    exact ⟨_, rfl⟩

theorem skip_members {members : List (Codes × Json)} (some_ : members ≠ []) :
    skip (encodeMembers members ++ rest) = encodeMembers members ++ rest := by
  obtain ⟨more, begins⟩ := exists_members_cons some_
  rw [begins]
  exact skip_cons rfl

/-- Members are read up to the bracket behind them. -/
theorem members?_written {members : List (Codes × Json)} (some_ : members ≠ [])
    (each : ∀ member ∈ members, IsRead member.2)
    (enough : 2 * (encodeMembers members).length ≤ fuel) :
    members? fuel (encodeMembers members ++ .char '\x7d' :: rest) = some (members, rest) := by
  induction members generalizing fuel with
  | nil => exact absurd rfl some_
  | cons member members ih =>
    obtain ⟨name, value⟩ := member
    obtain ⟨first, others⟩ := List.forall_mem_cons.mp each
    rw [encodeMembers_cons] at enough ⊢
    rw [List.length_append, List.length_append, List.length_cons] at enough
    obtain ⟨less, rfl⟩ : ∃ less, fuel = less + 1 := ⟨fuel - 1, by omega⟩
    have small : 2 * value.encode.length ≤ less + 1 := by omega
    cases members with
    | nil =>
      rw [List.isEmpty_nil, if_pos rfl, List.append_nil]
      exact members?_last name first small
    | cons second members =>
      have more : second :: members ≠ [] := List.cons_ne_nil _ _
      rw [List.isEmpty_cons, if_neg Bool.false_ne_true] at enough ⊢
      rw [List.length_cons] at enough
      rw [List.append_assoc _ (_ :: encodeMembers _), List.cons_append]
      apply members?_more name first small
      rw [skip_members more]
      exact ih more others (by omega)

theorem value?_object {codes : Codes} (some_ : ∀ rest, skip codes ≠ .char '\x7d' :: rest) :
    value? (fuel + 1) (.char '\x7b' :: codes) =
      (members? fuel (skip codes)).map fun (members, rest) =>
        (.object (ofMembers members), rest) := by
  rw [value?]
  split
  · next none_ => exact absurd none_ (some_ _)
  · rfl

theorem ofMembers_of_nodup {members : List (Codes × Json)}
    (distinct : (members.map Prod.fst).Nodup) : ofMembers members = members := by
  induction members with
  | nil => rfl
  | cons member members ih =>
    obtain ⟨fresh, others⟩ := List.nodup_cons.mp distinct
    have different : ∀ other ∈ members, other.1 ≠ member.1 := fun other inside same =>
      fresh (same ▸ List.mem_map_of_mem inside)
    have absent : members.lookup member.1 = none :=
      List.lookup_eq_none_iff.mpr fun other inside => by simpa using (different other inside).symm
    rw [ofMembers, ih others, absent, Option.getD_none,
      List.filter_eq_self.mpr fun other inside => decide_eq_true (different other inside)]

theorem isRead_object {members : List (Codes × Json)} (distinct : (members.map Prod.fst).Nodup)
    (each : ∀ member ∈ members, IsRead member.2) : IsRead (object members) where
  starts := ⟨'\x7b', encodeMembers members ++ [.char '\x7d'], by simp [encode], rfl, by decide⟩
  reads := by
    intro fuel rest enough _
    have written : (object members).encode ++ rest =
        .char '\x7b' :: (encodeMembers members ++ .char '\x7d' :: rest) := by
      simp [encode]
    rw [written]
    cases members with
    | nil => simp [value?, encodeMembers, skip_cons, isSpace]
    | cons member members =>
      have read : members? fuel (encodeMembers (member :: members) ++ .char '\x7d' :: rest) =
          some (member :: members, rest) :=
        members?_written (List.cons_ne_nil _ _) each (by simp [encode] at enough; omega)
      have skipped : skip (encodeMembers (member :: members) ++ .char '\x7d' :: rest) =
          encodeMembers (member :: members) ++ .char '\x7d' :: rest :=
        skip_members (List.cons_ne_nil _ _)
      rw [value?_object, skipped, read, Option.map_some]
      · dsimp only
        rw [ofMembers_of_nodup distinct]
      · intro other closed
        obtain ⟨more, begins⟩ : ∃ more, encodeMembers (member :: members) ++ .char '\x7d' :: rest =
            .char '\x22' :: more := exists_members_cons (List.cons_ne_nil _ _)
        rw [skipped, begins] at closed
        exact absurd (List.cons.inj closed).1 (by decide)

/-! ### All values -/

/-- Whether a value can be told by its text: numbers have to be finite, and the names in an object
differ from each other. -/
inductive IsFaithful : Json → Prop where
  | null : IsFaithful null
  | bool (truth : Bool) : IsFaithful (bool truth)
  | int (value : Int) : IsFaithful (int value)
  | float {value : Binary64} (normalized : value.IsNormalized) : IsFaithful (float value)
  | text (codes : Codes) : IsFaithful (text codes)
  | list {items : List Json} (each : ∀ item ∈ items, IsFaithful item) : IsFaithful (list items)
  | object {members : List (Codes × Json)} (distinct : (members.map Prod.fst).Nodup)
      (each : ∀ member ∈ members, IsFaithful member.2) : IsFaithful (object members)

theorem hasLong_of_hasLongItem {items : List Json} (short : hasLongItem items = false) :
    ∀ item ∈ items, item.hasLong = false := by
  induction items with
  | nil => exact List.forall_mem_nil _
  | cons item items ih =>
    rw [hasLongItem, Bool.or_eq_false_iff] at short
    exact List.forall_mem_cons.mpr ⟨short.1, ih short.2⟩

theorem hasLong_of_hasLongMember {members : List (Codes × Json)}
    (short : hasLongMember members = false) : ∀ member ∈ members, member.2.hasLong = false := by
  induction members with
  | nil => exact List.forall_mem_nil _
  | cons member members ih =>
    rw [hasLongMember, Bool.or_eq_false_iff] at short
    exact List.forall_mem_cons.mpr ⟨short.1, ih short.2⟩

/-- A value that can be told is read as it was before it was written, if no integer in it is too
long. -/
theorem isRead {value : Json} (faithful : value.IsFaithful) (short : value.hasLong = false) :
    IsRead value := by
  induction faithful with
  | null => exact isRead_null
  | bool truth => exact isRead_bool truth
  | int value => exact isRead_of_denotes rfl (denotes_int short)
  | float normalized => exact isRead_of_denotes rfl (denotes_float normalized)
  | text codes => exact isRead_text codes
  | list _ ih =>
    exact isRead_list fun item member => ih item member (hasLong_of_hasLongItem short item member)
  | object distinct _ ih =>
    exact isRead_object distinct fun entry member =>
      ih entry member (hasLong_of_hasLongMember short entry member)

/-- Nothing is read that JSON does not have. -/
example : (read? "[1,]").isNone = true := by decide +kernel

end StorageLayout.Json
