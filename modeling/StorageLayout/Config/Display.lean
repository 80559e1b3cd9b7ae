import StorageLayout.Config.Value
import StorageLayout.Text.Quoted

namespace StorageLayout.Value

open StorageLayout.Text

def truthText (truth : Bool) : String := if truth then "True" else "False"

def braced (inner : String) : String := "\x7b" ++ inner ++ "\x7d"

mutual

/-- The quoted text of a value. -/
def inspect : Value → String
  | null => "None"
  | bool truth => truthText truth
  | int value => toString value
  | float value => value.text
  | text value => quoted value
  | brokenText broken => quoted broken.codes
  | list items => "[" ++ inspectItems items ++ "]"
  | mapping access entries =>
    if access.isWritable then braced (inspectEntries entries)
    else access.typeName ++ "(" ++ braced (inspectEntries entries) ++ ")"
  | path place => "PosixPath(" ++ quoted place.text ++ ")"
  | pathLike name => "AnyPathLike(" ++ quoted name ++ ")"
  | bytes data => quotedBytes data

def inspectItems : List Value → String
  | [] => ""
  | item :: items =>
    if items.isEmpty then inspect item else inspect item ++ ", " ++ inspectItems items

def inspectEntries : List (String × Value) → String
  | [] => ""
  | (key, value) :: entries =>
    let entry := quoted (nameCodes (key, value)) ++ ": " ++ inspect value
    if entries.isEmpty then entry else entry ++ ", " ++ inspectEntries entries

end

/-- The code points of the plain text of a value: texts and paths as they are, a view as what it
shows, anything else quoted. -/
def plainCodes : Value → Codes
  | text value => value
  | brokenText broken => broken.codes
  | path place => place.text
  | mapping .proxy entries => braced (inspectEntries entries)
  | value => inspect value

def plain : Value → String
  | text value => value
  | value => Text.shown value.plainCodes

end StorageLayout.Value
