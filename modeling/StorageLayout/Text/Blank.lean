namespace StorageLayout.Text

/-- The closed ranges of code points that separate words. -/
def blankRanges : List (Nat × Nat) :=
  [(0x09, 0x0D), (0x1C, 0x20), (0x85, 0x85), (0xA0, 0xA0), (0x1680, 0x1680), (0x2000, 0x200A),
   (0x2028, 0x2029), (0x202F, 0x202F), (0x205F, 0x205F), (0x3000, 0x3000)]

/-- Whether a code point lies in one of the given closed ranges. -/
def inRanges (ranges : List (Nat × Nat)) (code : Nat) : Bool :=
  ranges.any fun range => range.1 ≤ code && code ≤ range.2

/-- A blank separates words and is dropped at both ends of a trimmed text. -/
def isBlank (c : Char) : Bool := inRanges blankRanges c.toNat

/-- Unicode white space proper: a blank that is not one of the four ASCII information separators. -/
def isWhite (c : Char) : Bool := isBlank c && !(0x1C ≤ c.toNat && c.toNat ≤ 0x1F)

/-- Drops the characters of a class at both ends. -/
def trimChars (drop : Char → Bool) (cs : List Char) : List Char :=
  ((cs.dropWhile drop).reverse.dropWhile drop).reverse

def trim (text : String) : String := String.ofList (trimChars isBlank text.toList)

/-- Splits at runs of blanks; `word` holds the letters of the word being read, last one first. -/
def wordsFrom (word : List Char) : List Char → List (List Char)
  | [] => if word.isEmpty then [] else [word.reverse]
  | c :: cs =>
    if isBlank c then
      if word.isEmpty then wordsFrom [] cs else word.reverse :: wordsFrom [] cs
    else wordsFrom (c :: word) cs

def words (text : String) : List String := (wordsFrom [] text.toList).map String.ofList

/-- A text with every run of blanks replaced by one space and none at its ends. -/
def squeeze (text : String) : String := " ".intercalate (words text)

/-- The ASCII capitals of a text in lower case; all other characters stay. -/
def lower (text : String) : String := String.ofList (text.toList.map Char.toLower)

/-- The small ASCII letters of a text as capitals; all other characters stay. -/
def upper (text : String) : String := String.ofList (text.toList.map Char.toUpper)

end StorageLayout.Text
