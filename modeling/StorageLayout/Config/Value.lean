import StorageLayout.Config.Table
import StorageLayout.Number.Shortest
import StorageLayout.Path.Pathname

namespace StorageLayout

/-- What can be done with a mapping. Anyone may write a `writable` one. One of a read-only class of
a host's own is `frozen`, and a `proxy` is a read-only view, of which no copy can be made. -/
inductive Access where
  | writable
  | frozen (className : String)
  | proxy
  deriving DecidableEq, Inhabited, Repr

namespace Access

def isWritable : Access → Bool
  | writable => true
  | _ => false

def isCopyable : Access → Bool
  | proxy => false
  | _ => true

def typeName : Access → String
  | writable => "dict"
  | frozen className => className
  | proxy => "mappingproxy"

@[simp] theorem isWritable_iff {access : Access} : access.isWritable = true ↔ access = .writable := by
  cases access <;> simp [isWritable]

end Access

/-- A dynamic value. Values are trees, so no mapping stands at two places, and all mappings keep
what they are given. -/
inductive Value where
  | null
  | bool (truth : Bool)
  | int (value : Int)
  | float (value : Binary64)
  | text (value : String)
  | brokenText (text : BrokenText)
  | list (items : List Value)
  | mapping (access : Access) (entries : List (String × Value))
  | path (path : Pathname)
  | pathLike (name : Codes)
  | bytes (data : List UInt8)
  deriving Inhabited

namespace Value

abbrev object (entries : Table Value) : Value := mapping .writable entries

/-- The text, broken or not, that code points make up. -/
def ofCodes (codes : Codes) : Value :=
  match read : Text.ofCodes? codes with
  | some value => text value
  | none => brokenText ⟨codes, read⟩

/-- The code points of a text, broken or not. -/
def codes? : Value → Option Codes
  | text value => some value
  | brokenText broken => some broken.codes
  | _ => none

/-- What a value says about a file: a text, broken or not, and a path of any form. -/
def fileName? : Value → Option Codes
  | path place => some place.text
  | pathLike name => some name
  | value => value.codes?

/-- The label of an entry whose name is a broken text. It holds a dot, so no key leads to it. -/
def brokenLabel (codes : Codes) : String :=
  "." ++ ",".intercalate (codes.map fun code => toString code.number)

/-- An entry whose name is made up of code points. Nothing can be found under a broken one, and so
the name stands there in place of a value. -/
def entryOfCodes (codes : Codes) (value : Value) : String × Value :=
  match read : Text.ofCodes? codes with
  | some name => (name, value)
  | none => (brokenLabel codes, brokenText ⟨codes, read⟩)

def brokenName? (entry : String × Value) : Option BrokenText :=
  match entry.2 with
  | brokenText broken => if entry.1 = brokenLabel broken.codes then some broken else none
  | _ => none

def isMisnamed (entry : String × Value) : Bool := (brokenName? entry).isSome

def nameCodes (entry : String × Value) : Codes :=
  (brokenName? entry).elim (Text.codes entry.1) BrokenText.codes

/-- The name of the kind of a value in diagnostics. -/
def typeName : Value → String
  | null => "NoneType"
  | bool _ => "bool"
  | int _ => "int"
  | float _ => "float"
  | text _ => "str"
  | brokenText _ => "str"
  | list _ => "list"
  | mapping access _ => access.typeName
  | path _ => "PosixPath"
  | pathLike _ => "AnyPathLike"
  | bytes _ => "bytes"

def entries? : Value → Option (Table Value)
  | mapping _ entries => some entries
  | _ => none

def isMapping (value : Value) : Bool := value.entries?.isSome

def isWritable : Value → Bool
  | mapping access _ => access.isWritable
  | _ => false

def isNull : Value → Bool
  | null => true
  | _ => false

theorem eq_null_of_isNull {value : Value} (null : value.isNull = true) : value = .null := by
  cases value <;> simp_all [isNull]

/-- The truth of a value: null, zeros and everything empty are false. -/
def truthy : Value → Bool
  | null => false
  | bool truth => truth
  | int value => value ≠ 0
  | float value => !value.isZero
  | text value => value ≠ ""
  | brokenText _ => true
  | list items => !items.isEmpty
  | mapping _ entries => !entries.isEmpty
  | path _ => true
  | pathLike _ => true
  | bytes data => !data.isEmpty

/-- Whether a value is an integer; truth values are the integers zero and one. -/
def integer? : Value → Option Int
  | bool truth => some (if truth then 1 else 0)
  | int value => some value
  | _ => none

/-- What walking through a value gives: the items of a list, the characters of a text, the keys of a
mapping, the numbers of raw data. Other values cannot be walked through. -/
def elements? : Value → Option (List Value)
  | list items => some items
  | text value => some (value.toList.map fun c => text (String.singleton c))
  | brokenText broken => some (broken.codes.map fun code => ofCodes [code])
  | mapping _ entries => some (entries.map fun entry => ofCodes (nameCodes entry))
  | bytes data => some (data.map fun byte => int byte.toNat)
  | _ => none

mutual

/-- Whether all mappings in a value are of certain kinds. -/
def allMappings (admitted : Access → Bool) : Value → Bool
  | list items => allMappingsIn admitted items
  | mapping access entries => admitted access && allMappingsUnder admitted entries
  | _ => true

def allMappingsIn (admitted : Access → Bool) : List Value → Bool
  | [] => true
  | item :: items => allMappings admitted item && allMappingsIn admitted items

def allMappingsUnder (admitted : Access → Bool) : List (String × Value) → Bool
  | [] => true
  | (_, value) :: entries => allMappings admitted value && allMappingsUnder admitted entries

end

/-- Whether a value can be copied. -/
def isCopyable (value : Value) : Bool := value.allMappings Access.isCopyable

def isOpen (value : Value) : Bool := value.allMappings Access.isWritable

@[simp] theorem ofCodes_codes (value : String) : ofCodes (Text.codes value) = text value := by
  unfold ofCodes
  split
  · next read =>
    rw [Text.ofCodes?_codes] at read
    rw [Option.some.inj read]
  · next read =>
    rw [Text.ofCodes?_codes] at read
    cases read

theorem codes?_eq_some_iff {value : Value} {codes : Codes} :
    value.codes? = some codes ↔ value = ofCodes codes := by
  constructor
  · intro has
    cases value with
    | text value =>
      obtain rfl := Option.some.inj has
      exact (ofCodes_codes value).symm
    | brokenText broken =>
      obtain rfl := Option.some.inj has
      unfold ofCodes
      split
      · next read => cases broken.broken.symm.trans read
      · rfl
    | _ => cases has
  · rintro rfl
    unfold ofCodes
    split
    · next read => exact congrArg some (Text.ofCodes?_eq_some_iff.mp read).symm
    · rfl

@[simp] theorem codes?_ofCodes (codes : Codes) : (ofCodes codes).codes? = some codes :=
  codes?_eq_some_iff.mpr rfl

theorem fileName?_of_codes? {value : Value} {codes : Codes} (has : value.codes? = some codes) :
    value.fileName? = some codes := by
  unfold fileName?
  split
  · cases has
  · cases has
  · exact has

theorem ofCodes_injective {left right : Codes} (same : ofCodes left = ofCodes right) :
    left = right := by
  have has : (ofCodes right).codes? = some left := codes?_eq_some_iff.mpr same.symm
  rw [codes?_ofCodes] at has
  exact (Option.some.inj has).symm

end Value

end StorageLayout
