import StorageLayout.Text.Codes
import StorageLayout.Text.Split

/-! Pathnames: the components of a path and where it starts. Reading drops empty components and
single dots; double dots stay, since what they lead to depends on links. Components are rows of code
points, since names of files need not be texts of characters. Main facts: seen from an absolute
working directory every pathname has an absolute form, and an absolute one is its own. -/

namespace StorageLayout

/-- Where a pathname starts. Exactly two leading slashes are a root of their own. -/
inductive Anchor where
  | working
  | root
  | doubleRoot
  deriving DecidableEq, Repr

namespace Pathname

def slash : Code := .char '/'

def dot : Codes := [.char '.']

def dots : Codes := [.char '.', .char '.']

end Pathname

namespace Anchor

open Pathname (slash)

def slashes : Anchor → Codes
  | working => []
  | root => [slash]
  | doubleRoot => [slash, slash]

/-- The anchor of a text by the number of its leading slashes. -/
def ofSlashes (count : Nat) : Anchor :=
  if count = 0 then working else if count = 2 then doubleRoot else root

end Anchor

/-- A pathname: its anchor and its components, none of them empty or a single dot. -/
structure Pathname where
  anchor : Anchor
  components : List Codes
  deriving DecidableEq, Repr

namespace Pathname

def isComponent (piece : Codes) : Bool := piece ≠ [] && piece ≠ dot

def parse (text : Codes) : Pathname where
  anchor := Anchor.ofSlashes (text.takeWhile (· = slash)).length
  components := (Text.split slash text).filter isComponent

def isAbsolute (path : Pathname) : Bool := path.anchor ≠ .working

/-- The text of a pathname; a single dot stands for the empty one. -/
def text (path : Pathname) : Codes :=
  if path.anchor = .working && path.components.isEmpty then dot
  else path.anchor.slashes ++ [slash].intercalate path.components

def shown (path : Pathname) : String := Text.shown path.text

def absolute (working path : Pathname) : Pathname :=
  if path.isAbsolute then path
  else { working with components := working.components ++ path.components }

/-- Adds a component to components that are given last one first; double dots take one away. -/
def collapseStep (reversed : List Codes) (component : Codes) : List Codes :=
  match reversed with
  | [] => [component]
  | last :: rest => if component = dots && last ≠ dots then rest else component :: last :: rest

/-- A pathname with double dots taken at face value, whatever is there. Nothing is above a root. -/
def collapse (path : Pathname) : Pathname :=
  let kept := (path.components.foldl collapseStep []).reverse
  { path with components := if path.isAbsolute then kept.dropWhile (· = dots) else kept }

def join (path : Pathname) (component : Codes) : Pathname :=
  { path with components := path.components ++ [component] }

theorem absolute_of_isAbsolute {path : Pathname} (absolute : path.isAbsolute = true)
    (working : Pathname) : Pathname.absolute working path = path := by
  simp [Pathname.absolute, absolute]

theorem isAbsolute_absolute {working : Pathname} (rooted : working.isAbsolute = true)
    (path : Pathname) : (absolute working path).isAbsolute = true := by
  unfold absolute
  split
  · assumption
  · exact rooted

end Pathname

end StorageLayout
