import StorageLayout.Config.Value

namespace StorageLayout.Value

/-- Whether two numbers are equal; truth values count as zero and one. -/
def sameNumber : Value → Value → Bool
  | float left, float right => left.sameValue right
  | float left, right => right.integer?.any left.sameInt
  | left, float right => left.integer?.any right.sameInt
  | left, right => left.integer?.isSome && left.integer? == right.integer?

mutual

/-- Equality of values; `nan` equals nothing. -/
def agrees : Value → Value → Bool
  | null, null => true
  | text left, text right => left == right
  | brokenText left, brokenText right => left == right
  | list left, list right => itemsAgree left right
  | mapping _ left, mapping _ right =>
    right.all (fun entry => Table.has left entry.1) && entriesAgree left right
  | path left, path right => left == right
  | pathLike left, pathLike right => left == right
  | bytes left, bytes right => left == right
  | left, right => sameNumber left right

def itemsAgree : List Value → List Value → Bool
  | [], [] => true
  | left :: lefts, right :: rights => agrees left right && itemsAgree lefts rights
  | _, _ => false

/-- Whether every entry has an equal one under the same key. -/
def entriesAgree : List (String × Value) → List (String × Value) → Bool
  | [], _ => true
  | (key, left) :: lefts, rights =>
    (match Table.get? rights key with
      | some right => agrees left right
      | none => false) && entriesAgree lefts rights

end

def isNan : Value → Bool
  | float .nan => true
  | _ => false

/-- Whether a value changed. `shared` says that both are the same stored value, which equals itself
unless it is the number `nan`. -/
def changed (shared : Bool) (old new : Value) : Bool :=
  if shared then old.isNan else !agrees old new

end StorageLayout.Value
