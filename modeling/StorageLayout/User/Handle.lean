import StorageLayout.Config.Value

namespace StorageLayout

/-- Why a value is no user handle. -/
inductive HandleProblem where
  | notInteger (typeName : String)
  | negative (value : Int)
  deriving DecidableEq, Repr

def HandleProblem.message : HandleProblem → String
  | notInteger typeName => "User handle must be an int, not '" ++ typeName ++ "'"
  | negative value => "User handle must be non-negative, got " ++ toString value

namespace User

/-- Accepts a value that is a user handle; truth values are none. -/
def checkHandle : Value → Except HandleProblem Nat
  | .int value => if value < 0 then .error (.negative value) else .ok value.toNat
  | value => .error (.notInteger value.typeName)

def idsPerUser : Int := 100000

/-- The user who owns a process, by its user id; without user ids there is only the first user. -/
def ownerHandle : Option Int → Int
  | some userId => Int.fdiv userId idsPerUser
  | none => 0

end User

end StorageLayout
