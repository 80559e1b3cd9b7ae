/-! Texts as rows of code points. A row of code points need not be a text of characters: half of a
surrogate pair, which is no character, may stand in it. Raw data is text if it is encoded in UTF-8. -/

namespace StorageLayout

/-- A code point: a character, or half of a surrogate pair, by its place among all the halves. -/
inductive Code where
  | char (c : Char)
  | half (place : Fin 0x800)
  deriving DecidableEq, Repr

abbrev Codes := List Code

namespace Code

def firstHalf : Nat := 0xD800

def number : Code → Nat
  | char c => c.toNat
  | half place => firstHalf + place

def ofNumber (number : Nat) : Code :=
  if number < firstHalf then char (Char.ofNat number)
  else if inside : number - firstHalf < 0x800 then half ⟨number - firstHalf, inside⟩
  else char (Char.ofNat number)

def char? : Code → Option Char
  | char c => some c
  | half _ => none

def shown : Code → Char
  | char c => c
  | half _ => '\ufffd'

/-- How many bytes a code point takes in the name of a file. Among the halves only those stand for
something there that the system itself uses for bytes which are no text. -/
def nameBytes? : Code → Option Nat
  | char c => some c.utf8Size
  | half place => if 0x480 ≤ place.val && place.val < 0x500 then some 1 else none

end Code

namespace Text

def codes (text : String) : Codes := text.toList.map .char

instance : Coe String Codes := ⟨codes⟩

/-- The text that code points make up, unless there is a half among them. -/
def ofCodes? (codes : Codes) : Option String := (codes.mapM Code.char?).map String.ofList

def shown (codes : Codes) : String := String.ofList (codes.map Code.shown)

/-- How many bytes the name of a file takes, if it can be one. -/
def nameBytes? (codes : Codes) : Option Nat := (codes.mapM Code.nameBytes?).map fun sizes => sizes.foldr Nat.add 0

def decode? (data : List UInt8) : Option String := String.fromUTF8? ⟨data.toArray⟩

theorem codes_injective {left right : String} (same : codes left = codes right) : left = right :=
  String.toList_injective ((List.map_inj_right fun _ _ => Code.char.inj).mp same)

theorem mapM_char?_eq_some_iff {row : Codes} {cs : List Char} :
    row.mapM Code.char? = some cs ↔ row = cs.map .char := by
  induction row generalizing cs with
  | nil => cases cs <;> simp
  | cons code row ih =>
    cases code with
    | half place => cases cs <;> simp [Code.char?]
    | char c =>
      cases cs with
      | nil => simp [Code.char?, Option.bind_eq_some_iff]
      | cons first rest =>
        simp only [List.mapM_cons, Code.char?, Option.bind_eq_bind, Option.bind_some,
          Option.pure_def, Option.bind_eq_some_iff, ih, Option.some.injEq, List.cons.injEq,
          List.map_cons, Code.char.injEq]
        constructor
        · rintro ⟨_, rfl, rfl, rfl⟩
          exact ⟨rfl, rfl⟩
        · rintro ⟨rfl, rfl⟩
          exact ⟨rest, rfl, rfl, rfl⟩

theorem ofCodes?_eq_some_iff {row : Codes} {text : String} :
    ofCodes? row = some text ↔ row = codes text := by
  simp only [ofCodes?, Option.map_eq_some_iff, mapM_char?_eq_some_iff, codes]
  constructor
  · rintro ⟨cs, rfl, rfl⟩
    rw [String.toList_ofList]
  · rintro rfl
    exact ⟨text.toList, rfl, String.ofList_toList⟩

@[simp] theorem ofCodes?_codes (text : String) : ofCodes? (codes text) = some text :=
  ofCodes?_eq_some_iff.mpr rfl

end Text

/-- A text that is not one of characters: there is a half among its code points. -/
structure BrokenText where
  codes : Codes
  broken : Text.ofCodes? codes = none
  deriving DecidableEq

end StorageLayout
