import StorageLayout.Path.Build

/-! A tree of files below a base directory. What lies outside of it is not there, except for the
directories on the way up. -/

namespace StorageLayout

/-- A file with its content, or a directory, which the process may not look into if it is locked. -/
inductive FileEntry where
  | directory
  | locked
  | file (data : List UInt8)
  deriving DecidableEq, Repr

/-- Files and directories by the components that lead to them from the base directory. -/
structure FileTree where
  entries : List (List Codes × FileEntry)

namespace FileTree

def empty : FileTree := ⟨[]⟩

/-- Where a walk through the tree stands: inside, by components, or in a directory outside. -/
inductive Position where
  | inside (components : List Codes)
  | outside

/-- What is at the given components. The directories that lead to an entry are there as well. -/
def at? (tree : FileTree) (components : List Codes) : Option FileEntry :=
  match tree.entries.lookup components with
  | some entry => some entry
  | none =>
    if components.isEmpty || tree.entries.any fun entry => components.isPrefixOf entry.1 then
      some .directory
    else none

def entryAt? (tree : FileTree) : Position → Option FileEntry
  | .inside components => tree.at? components
  | .outside => some .directory

/-- Why a pathname leads to nothing. -/
inductive Absence where
  | missing
  | notDirectory
  | nameTooLong
  | denied
  deriving DecidableEq, Repr

/-- Names of entries take at most so many bytes. -/
def maxNameBytes : Nat := 255

/-- Pathnames take at most so many bytes. -/
def maxPathBytes : Nat := 4095

def exceeds (bound : Nat) (name : Codes) : Bool := (Text.nameBytes? name).any (bound < ·)

def isLongName (component : Codes) : Bool := exceeds maxNameBytes component

/-- Takes one step of a walk; only directories can be left, and only those that are not locked. -/
def step (tree : FileTree) (position : Position) (component : Codes) : Except Absence Position :=
  match tree.entryAt? position with
  | none => .error .missing
  | some (.file _) => .error .notDirectory
  | some .locked => .error .denied
  | some .directory =>
    if isLongName component then .error .nameTooLong
    else
      match position with
      | .inside components =>
        if component = Pathname.dots then
          .ok (if components.isEmpty then .outside else .inside components.dropLast)
        else .ok (.inside (components ++ [component]))
      | .outside => if component = Pathname.dots then .ok .outside else .error .missing

def holdsNul (path : Pathname) : Bool :=
  path.components.any fun component => component.contains Pathname.nul

def isUnnameable (path : Pathname) : Bool :=
  path.components.any fun component => (Text.nameBytes? component).isNone

/-- What a pathname leads to, seen from the base directory. -/
def find (tree : FileTree) (path : Pathname) : Except Absence FileEntry :=
  if isUnnameable path || holdsNul path then .error .missing
  else if exceeds maxPathBytes path.text then .error .nameTooLong
  else
    let start : Position := if path.isAbsolute then .outside else .inside []
    match path.components.foldlM tree.step start with
    | .error absence => .error absence
    | .ok position =>
      match tree.entryAt? position with
      | some entry => .ok entry
      | none => .error .missing

def add (tree : FileTree) (path : Pathname) (entry : FileEntry) : FileTree :=
  ⟨(path.components, entry) :: tree.entries.filter fun other => other.1 ≠ path.components⟩

/-- Why a file cannot be opened for writing. -/
inductive OpenProblem where
  | missingDirectory
  | notDirectory
  | isDirectory
  | nameTooLong
  | denied
  | embeddedNul
  | unnameable
  deriving DecidableEq, Repr

/-- What an absence on the way to a file means for opening it. -/
def Absence.openProblem : Absence → OpenProblem
  | missing => .missingDirectory
  | notDirectory => .notDirectory
  | nameTooLong => .nameTooLong
  | denied => .denied

/-- The tree with a file at the end of a pathname; what the file holds already stays. -/
def openFile (tree : FileTree) (path : Pathname) : Except OpenProblem FileTree :=
  if isUnnameable path then .error .unnameable
  else if holdsNul path then .error .embeddedNul
  else
    match tree.find path with
    | .ok .directory | .ok .locked => .error .isDirectory
    | .ok (.file _) => .ok tree
    | .error .missing =>
      match tree.find { path with components := path.components.dropLast } with
      | .ok .directory => .ok (tree.add path (.file []))
      | .ok (.file _) => .error .notDirectory
      | .ok .locked => .error .denied
      | .error absence => .error absence.openProblem
    | .error absence => .error absence.openProblem

/-- The text of a file; every kind of line end is read as a single one. -/
def unifyLineEnds : List Char → List Char
  | '\r' :: '\n' :: rest => '\n' :: unifyLineEnds rest
  | '\r' :: rest => '\n' :: unifyLineEnds rest
  | c :: rest => c :: unifyLineEnds rest
  | [] => []

def readText? (data : List UInt8) : Option String :=
  (Text.decode? data).map fun text => String.ofList (unifyLineEnds text.toList)

end FileTree

end StorageLayout
