import StorageLayout.Number.Conversion
import StorageLayout.Number.Fixed

/-! Message templates: texts in which each percent sign with a letter takes the next argument.
Between the two may stand flags, the least width and the precision of what is written, and each of
the last two may be taken from the arguments as well. A template without arguments is taken as it
stands. -/

namespace StorageLayout

/-- Why a template cannot be filled in. -/
inductive TemplateProblem where
  | tooFewArguments
  | tooManyArguments
  | incomplete
  | incompleteKey
  | notMapping
  | missingKey (key : String)
  | unknownLetter (letter : Char) (index : Nat)
  | notNumber (letter : Char) (typeName : String)
  | notInteger (letter : Char) (typeName : String)
  | notReal (typeName : String)
  | notCharacter
  | characterRange
  | measureNotInteger
  | widthRange
  | precisionRange
  | widthTooBig
  | precisionTooBig
  | tooManyDigits
  | noMemory
  | number (problem : NumberProblem)
  deriving DecidableEq, Repr

def TemplateProblem.message : TemplateProblem → String
  | tooFewArguments => "not enough arguments for format string"
  | tooManyArguments => "not all arguments converted during string formatting"
  | incomplete => "incomplete format"
  | incompleteKey => "incomplete format key"
  | notMapping => "format requires a mapping"
  | missingKey key => key
  | unknownLetter letter index =>
    "unsupported format character '" ++ (if 0x1F ≤ letter.toNat && letter.toNat < 0x7F then
      String.singleton letter else "?") ++ "' (0x" ++
      String.ofList (Text.hexadecimal 1 letter.toNat) ++ ") at index " ++ toString index
  | notNumber letter typeName =>
    "%" ++ String.singleton letter ++ " format: a real number is required, not " ++ typeName
  | notInteger letter typeName =>
    "%" ++ String.singleton letter ++ " format: an integer is required, not " ++ typeName
  | notReal typeName => "must be real number, not " ++ typeName
  | notCharacter => "%c requires int or char"
  | characterRange => "%c arg not in range(0x110000)"
  | measureNotInteger => "* wants int"
  | widthRange => "Python int too large to convert to C ssize_t"
  | precisionRange => "Python int too large to convert to C int"
  | widthTooBig => "width too big"
  | precisionTooBig => "precision too big"
  | tooManyDigits => "precision too large"
  | noMemory => ""
  | number problem => problem.message

namespace Template

/-- What is left to fill in: arguments in order, or a single mapping. A mapping can be taken whole,
and any of its entries can be selected to be taken instead; either is taken once. -/
inductive Arguments where
  | ordered (rest : List Value)
  | keyed (entries : Table Value) (selected : Option Value)

namespace Arguments

/-- A single mapping with entries counts as the mapping itself. -/
def ofList (arguments : List Value) : Arguments :=
  match arguments with
  | [.mapping access (entry :: entries)] =>
    keyed (entry :: entries) (some (.mapping access (entry :: entries)))
  | _ => ordered arguments

/-- The next argument and those after it. -/
def next : Arguments → Except TemplateProblem (Value × Arguments)
  | ordered (value :: rest) => .ok (value, ordered rest)
  | ordered [] => .error .tooFewArguments
  | keyed entries (some selected) => .ok (selected, keyed entries none)
  | keyed _ none => .error .tooFewArguments

/-- Selects the argument under a name; `none` is a name that is never closed. -/
def select (arguments : Arguments) (name : Option String) : Except TemplateProblem Arguments :=
  match arguments, name with
  | ordered _, _ => .error .notMapping
  | keyed _ _, none => .error .incompleteKey
  | keyed entries _, some key =>
    match entries.get? key with
    | some value => .ok (keyed entries (some value))
    | none => .error (.missingKey key)

end Arguments

/-- How an argument is written: with flags, at least so wide, and so precise; `index` is the place
of the letter in the template. -/
structure Field where
  flags : List Char
  width : Nat
  precision : Option Nat
  letter : Char
  index : Nat

namespace Field

/-- Fills a text up to the width. A left-aligned text is filled behind; `zeros` asks for zeros,
which come behind the sign. -/
def pad (field : Field) (zeros : Bool) (sign body : String) : String :=
  let missing := field.width - (sign.length + body.length)
  if field.flags.contains '-' then
    sign ++ body ++ String.ofList (List.replicate missing ' ')
  else if zeros then sign ++ String.ofList (List.replicate missing '0') ++ body
  else String.ofList (List.replicate missing ' ') ++ sign ++ body

/-- Writes a text; the precision is how much of it is kept. -/
def text (field : Field) (shown : String) : String :=
  let kept :=
    match field.precision with
    | some length => String.ofList (shown.toList.take length)
    | none => shown
  field.pad false "" kept

/-- The sign of a number. -/
def sign (field : Field) (negative : Bool) : String :=
  if negative then "-"
  else if field.flags.contains '+' then "+"
  else if field.flags.contains ' ' then " "
  else ""

/-- Whether the number is marked by its base, or keeps its decimal point. -/
def isAlternate (field : Field) : Bool := field.flags.contains '#'

def fillsWithZeros (field : Field) : Bool := field.flags.contains '0'

/-- The base of the digits of an integer, and the mark of that base. -/
def base (field : Field) : Nat × String :=
  match field.letter with
  | 'o' => (8, "0o")
  | 'x' => (16, "0x")
  | 'X' => (16, "0X")
  | _ => (10, "")

/-- More digits cannot be asked for in an integer. -/
def maxDigits : Nat := 0x7ffffffc

/-- Writes an integer; the precision is the least number of its digits. -/
def integer (field : Field) (number : Int) : Except TemplateProblem String :=
  let least := field.precision.getD 0
  if maxDigits < least then .error .tooManyDigits
  else
    let (base, mark) := field.base
    let digits := Nat.toDigits base number.natAbs
    let cased := if field.letter = 'X' then digits.map Char.toUpper else digits
    let zeros := List.replicate (least - digits.length) '0'
    .ok (field.pad field.fillsWithZeros
      (field.sign (number < 0) ++ (if field.isAlternate then mark else ""))
      (String.ofList (zeros ++ cased)))

def layout (field : Field) : Binary64.Layout :=
  if field.letter.toLower = 'e' then .scientific
  else if field.letter.toLower = 'f' then .positional
  else .general

/-- Numbers are written with this precision if none is given. -/
def standardPrecision : Nat := 6

/-- Writes a number. A capital letter asks for capitals. -/
def real (field : Field) (number : Binary64) : String :=
  let body := number.laidOut field.layout (field.precision.getD standardPrecision) field.isAlternate
  field.pad field.fillsWithZeros (field.sign number.isNegative)
    (if field.letter.isUpper then Text.upper body else body)

end Field

/-- The integer that a template asks for. Letters with a base of their own take integers only; for
the others fractions are dropped. -/
def integerOf (letter : Char) (value : Value) : Except TemplateProblem Int :=
  let based := ['o', 'x', 'X'].contains letter
  match value with
  | .bool truth => .ok (if truth then 1 else 0)
  | .int number => .ok number
  | .float number =>
    if based then .error (.notInteger letter value.typeName)
    else (Value.integerOfFloat number).mapError .number
  | value =>
    .error (if based then .notInteger letter value.typeName else .notNumber letter value.typeName)

/-- The number that a template asks for. -/
def realOf (value : Value) : Except TemplateProblem Binary64 :=
  match value, value.integer? with
  | .float number, _ => .ok number
  | _, some number =>
    match Binary64.ofInt? number with
    | some real => .ok real
    | none => .error (.number .tooLarge)
  | _, none => .error (.notReal value.typeName)

/-- Character codes lie below this bound. -/
def codeBound : Int := 0x110000

/-- The character that a template asks for: a text of one character, or a code. -/
def characterOf (value : Value) : Except TemplateProblem String :=
  match value, value.integer? with
  | .text text, _ => if text.length = 1 then .ok text else .error .notCharacter
  | _, some code =>
    if 0 ≤ code && code < codeBound then .ok (String.singleton (Char.ofNat code.toNat))
    else .error .characterRange
  | _, none => .error .notCharacter

/-- The text that a field makes of an argument. -/
def convert (field : Field) (value : Value) : Except TemplateProblem String :=
  let letter := field.letter
  if letter = 's' then .ok (field.text value.plain)
  else if letter = 'r' then .ok (field.text value.inspect)
  else if letter = 'a' then .ok (field.text (Text.asciiOnly value.inspect))
  else if letter = 'c' then (characterOf value).map (field.pad false "")
  else if ['d', 'i', 'u', 'o', 'x', 'X'].contains letter then
    (integerOf letter value).bind field.integer
  else if ['e', 'E', 'f', 'F', 'g', 'G'].contains letter then (realOf value).map field.real
  else .error (.unknownLetter letter field.index)

/-- A width or a precision as a template gives it. -/
inductive Measure where
  | absent
  | given (size : Nat)
  | argument
  deriving DecidableEq, Repr

/-- A place of a template; one that breaks off has no letter. -/
structure Directive where
  flags : List Char
  width : Measure
  precision : Measure
  letter : Option Char
  index : Nat

namespace Arguments

/-- The next argument, which has to be an integer, and those after it. -/
def nextSize (arguments : Arguments) : Except TemplateProblem (Int × Arguments) :=
  match arguments.next with
  | .error problem => .error problem
  | .ok (value, left) =>
    match value.integer? with
    | some size => .ok (size, left)
    | none => .error .measureNotInteger

end Arguments

namespace Directive

def widthBound : Int := 0x8000000000000000

def precisionBound : Int := 0x80000000

/-- No field of this width can be made. -/
def memoryBound : Nat := 0x1000000000

/-- The width of a field; a negative one asks for left alignment. -/
def resolveWidth (directive : Directive) (arguments : Arguments) :
    Except TemplateProblem (Int × Arguments) :=
  match directive.width with
  | .absent => .ok (0, arguments)
  | .given size => if widthBound ≤ size then .error .widthTooBig else .ok (size, arguments)
  | .argument =>
    match arguments.nextSize with
    | .error problem => .error problem
    | .ok (size, left) =>
      if size < -widthBound || widthBound ≤ size then .error .widthRange else .ok (size, left)

/-- The precision of a field; a negative one counts as zero. -/
def resolvePrecision (directive : Directive) (arguments : Arguments) :
    Except TemplateProblem (Option Nat × Arguments) :=
  match directive.precision with
  | .absent => .ok (none, arguments)
  | .given size =>
    if precisionBound ≤ size then .error .precisionTooBig else .ok (some size, arguments)
  | .argument =>
    match arguments.nextSize with
    | .error problem => .error problem
    | .ok (size, left) =>
      if size < -precisionBound || precisionBound ≤ size then .error .precisionRange
      else .ok (some size.toNat, left)

/-- Takes what a directive needs from the arguments, in order: width, precision, and what is
written. The least of all widths has no opposite and counts as none. -/
def fill (directive : Directive) (arguments : Arguments) :
    Except TemplateProblem (String × Arguments) := do
  let (width, arguments) ← directive.resolveWidth arguments
  let (precision, arguments) ← directive.resolvePrecision arguments
  match directive.letter with
  | none => .error .incomplete
  | some letter =>
    let (value, left) ← arguments.next
    let flags := if width < 0 then '-' :: directive.flags else directive.flags
    let columns := if width = -widthBound then 0 else width.natAbs
    let fits := columns ≤ memoryBound
    let field : Field := ⟨flags, if fits then columns else 0, precision, letter, directive.index⟩
    let shown ← convert field value
    if fits then .ok (shown, left) else .error .noMemory

end Directive

/-- What a template does at one place. -/
inductive Piece where
  | plain (c : Char)
  | percent
  | select (name : Option String)
  | place (directive : Directive)

/-- Splits a name off that is closed by a bracket; brackets inside it are paired. -/
def splitName (depth : Nat) (name : List Char) : List Char → Option (List Char × List Char)
  | [] => none
  | ')' :: rest =>
    if depth = 0 then some (name.reverse, rest) else splitName (depth - 1) (')' :: name) rest
  | '(' :: rest => splitName (depth + 1) ('(' :: name) rest
  | c :: rest => splitName depth (c :: name) rest

/-- Splits a width or a precision off: an asterisk or digits. -/
def splitMeasure : List Char → Measure × List Char
  | '*' :: rest => (.argument, rest)
  | cs =>
    match cs.takeWhile Char.isDigit with
    | [] => (.absent, cs)
    | digits => (.given (Number.ofDigits digits), cs.dropWhile Char.isDigit)

/-- Splits a precision off; a point alone stands for zero. -/
def splitPrecision : List Char → Measure × List Char
  | '.' :: rest =>
    match splitMeasure rest with
    | (.absent, rest) => (.given 0, rest)
    | found => found
  | cs => (.absent, cs)

def isFlag (c : Char) : Bool := ['-', '+', ' ', '#', '0'].contains c

/-- A letter of size before the letter of a directive says nothing. -/
def withoutSize : List Char → List Char
  | c :: rest => if ['h', 'l', 'L'].contains c then rest else c :: rest
  | [] => []

/-- Splits a directive off, in a template of `size` characters. -/
def splitDirective (size : Nat) (cs : List Char) : Directive × List Char :=
  let (width, afterWidth) := splitMeasure (cs.dropWhile isFlag)
  let (precision, afterPrecision) := splitPrecision afterWidth
  let directive (letter : Option Char) (rest : List Char) : Directive :=
    ⟨cs.takeWhile isFlag, width, precision, letter, size - (rest.length + 1)⟩
  match withoutSize afterPrecision with
  | [] => (directive none [], [])
  | letter :: rest => (directive (some letter) rest, rest)

/-- Splits the selection of an argument off; one that is not closed has nothing behind it. -/
def splitSelection : List Char → List Piece × Option (List Char)
  | '(' :: rest =>
    match splitName 0 [] rest with
    | none => ([.select none], none)
    | some (name, rest) => ([.select (some (String.ofList name))], some rest)
  | cs => ([], some cs)

/-- Reads a template of `size` characters; `fuel` bounds the pieces. -/
def pieces (size : Nat) : Nat → List Char → List Piece
  | 0, _ => []
  | _, [] => []
  | fuel + 1, '%' :: '%' :: rest => .percent :: pieces size fuel rest
  | fuel + 1, '%' :: rest =>
    let (selection, body) := splitSelection rest
    match body with
    | none => selection
    | some body =>
      let (directive, rest) := splitDirective size body
      selection ++ .place directive :: pieces size fuel rest
  | fuel + 1, c :: rest => .plain c :: pieces size fuel rest

/-- Fills pieces in one by one. -/
def fillPieces (arguments : Arguments) : List Piece → Except TemplateProblem (String × Arguments)
  | [] => .ok ("", arguments)
  | .plain c :: rest =>
    (fillPieces arguments rest).map fun (text, left) => (String.singleton c ++ text, left)
  | .percent :: rest =>
    (fillPieces arguments rest).map fun (text, left) => ("%" ++ text, left)
  | .select name :: rest => (arguments.select name).bind fun selected => fillPieces selected rest
  | .place directive :: rest => do
    let (shown, left) ← directive.fill arguments
    let (text, left) ← fillPieces left rest
    return (shown ++ text, left)

/-- Fills a template in; all arguments have to be used, except those of a mapping. -/
def fill (template : Value) (arguments : List Value) : Except TemplateProblem String :=
  let text := template.plain
  if arguments.isEmpty then .ok text
  else
    match fillPieces (Arguments.ofList arguments)
        (pieces text.length (text.length + 1) text.toList) with
    | .ok (_, .ordered (_ :: _)) => .error .tooManyArguments
    | .ok (filled, _) => .ok filled
    | .error problem => .error problem

end Template

end StorageLayout
