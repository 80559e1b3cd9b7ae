import StorageLayout.User.Environment

/-! The current user. Lookups that do not name a user go to the user held here; in strict mode each
of them is logged as an error first. -/

namespace StorageLayout

/-- Where the current user comes from: the owner of the process, or a source that gives a value or
fails. -/
inductive UserSource where
  | processOwner
  | given (handle : Except Failure Value)

namespace UserSource

/-- The value that a source gives now. -/
def read (source : UserSource) (userId : Option Int) : Except Failure Value :=
  match source with
  | processOwner => .ok (.int (User.ownerHandle userId))
  | given handle => handle

end UserSource

/-- The holder of the current user. Its source is read again only on request. -/
structure CurrentUser where
  source : UserSource
  host : Option HostCapabilities
  environment : EnvironmentSource
  strict : Bool
  current : UserEnvironment

namespace CurrentUser

def logger : String := "droidenv.environment.user_context"

/-- Reads a source and makes the storage of the user that it gives. -/
def resolve (machine : Machine) (source : UserSource) (host : Option HostCapabilities)
    (environment : EnvironmentSource) : Except Failure UserEnvironment :=
  (source.read machine.userId).bind fun handle =>
    UserEnvironment.create handle host environment none

/-- Holds the user that a source gives now. -/
def create (machine : Machine) (source : UserSource) (host : Option HostCapabilities)
    (environment : EnvironmentSource) (strict : Bool) : Except Failure CurrentUser :=
  (resolve machine source host environment).map fun current =>
    ⟨source, host, environment, strict, current⟩

/-- The record of a switch from one user to another. -/
def switched (context : LogContext) (previous fresh : Nat) : LogRecord where
  level := .info
  logger := logger
  message := "Current user changed: " ++ toString previous ++ " -> " ++ toString fresh
  context := context

/-- Reads the source again. If it fails or gives no user, everything stays as it was. A switch is made
before it is logged. -/
def refresh (machine : Machine) (context : LogContext) (holder : CurrentUser) :
    CurrentUser × Traced UserEnvironment :=
  match resolve machine holder.source holder.host holder.environment with
  | .error failure => (holder, .fail failure)
  | .ok fresh =>
    ({ holder with current := fresh },
      if holder.current.handle = fresh.handle then .done fresh
      else
        (machine.log (switched context holder.current.handle fresh.handle)).map fun _ => fresh)

/-- Sets strict mode. -/
def requireUser (holder : CurrentUser) (strict : Bool) : CurrentUser :=
  { holder with strict := strict }

def forUser (holder : CurrentUser) (handle : Value) : Except Failure UserEnvironment :=
  UserEnvironment.create handle holder.host holder.environment none

/-- The record of a lookup that does not name a user, in the context that strict mode sets up. -/
def unnamedUser (context : LogContext) (accessor : String) (user : Nat) : LogRecord where
  level := .error
  logger := logger
  message := "Path requests must specify a user by using UserEnvironment (" ++ accessor ++
    "() used current user " ++ toString user ++ ")"
  context := context
  withStack := true

/-- What strict mode does before a lookup. -/
def complain (machine : Machine) (context : LogContext) (holder : CurrentUser)
    (accessor : String) : Scoped Unit :=
  if holder.strict then
    context.within [("userHandle", .int holder.current.handle)] fun inner =>
      (inner, machine.log (unnamedUser inner accessor holder.current.handle))
  else (context, .done ())

/-- Answers a lookup that does not name a user, unless the complaint about it cannot be logged. -/
def answer {α : Type} (machine : Machine) (context : LogContext) (holder : CurrentUser)
    (accessor : String) (lookup : LogContext → Scoped α) : Scoped α :=
  Scoped.andThen (holder.complain machine context accessor) fun context _ => lookup context

def rootsAccessor : String := "getExternalDirs"

def externalDirs (machine : Machine) (context : LogContext) (holder : CurrentUser) :
    Scoped (List Pathname) :=
  holder.answer machine context rootsAccessor fun context => holder.current.externalDirs machine context

/-- The directories of an area for the current user. Public files of no kind are the roots. -/
def areaDirs (machine : Machine) (context : LogContext) (holder : CurrentUser)
    (area : StorageArea) (name : Value) : Scoped (List Pathname) :=
  holder.answer machine context area.accessor fun context =>
    if area = .publicFiles && name.isNull then holder.current.externalDirs machine context
    else holder.current.areaDirs machine context area name

end CurrentUser

end StorageLayout
