import StorageLayout.Failure

namespace StorageLayout

/-- The types that a service can be required to have. Truth values are integers as well. -/
inductive ServiceType where
  | text
  | integer
  | truth
  | list
  | mapping
  | float
  deriving DecidableEq, Repr

namespace ServiceType

def name : ServiceType → String
  | text => "str"
  | integer => "int"
  | truth => "bool"
  | list => "list"
  | mapping => "dict"
  | float => "float"

def all : List ServiceType := [text, integer, truth, list, mapping, float]

def ofName? (name : String) : Option ServiceType := all.find? fun type => type.name = name

/-- Whether a value is of a type. -/
def holds (type : ServiceType) (value : Value) : Bool :=
  match type, value with
  | text, value => value.codes?.isSome
  | integer, value => value.integer?.isSome
  | truth, .bool _ => true
  | list, .list _ => true
  | mapping, value => value.isWritable
  | float, .float _ => true
  | _, _ => false

end ServiceType

/-- Services by name. -/
structure Registry where
  services : Table Value

namespace Registry

def empty : Registry := ⟨[]⟩

/-- Registers a service; a name that is taken can only be overwritten. -/
def register (registry : Registry) (name : String) (service : Value) (overwrite : Bool) :
    Except Failure Registry :=
  if !overwrite && registry.services.has name then .error (.registry (.taken name))
  else .ok ⟨registry.services.set name service⟩

def get (registry : Registry) (name : String) : Value := (registry.services.get? name).getD .null

def unregister (registry : Registry) (name : String) : Registry := ⟨registry.services.erase name⟩

/-- The service under a name, which has to be there and of the given type. -/
def require (registry : Registry) (name : String) (type : Option ServiceType) :
    Except Failure Value :=
  let service := registry.get name
  if service.isNull then .error (.registry (.missing name))
  else
    match type with
    | none => .ok service
    | some type =>
      if type.holds service then .ok service
      else .error (.registry (.wrongType name type.name))

end Registry

end StorageLayout
