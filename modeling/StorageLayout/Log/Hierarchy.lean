import StorageLayout.Config.Table
import StorageLayout.Log.RepeatFilter

/-! Loggers above and below each other. A logger takes its place when it is first used: below the
nearest one that its name leads to, and above those below that one which it leads to. What a logger
logs passes all loggers above it on its way to the root. -/

namespace StorageLayout

/-- The names that lead to a logger, the nearest first. They end before a dot; of two dots in a row
only the last one counts. The name is given backwards; `behindDot` says that a dot was just seen. -/
def namesLeading (behindDot : Bool) : List Char → List String
  | [] => []
  | c :: rest =>
    if behindDot then namesLeading false rest
    else if c = '.' && !rest.isEmpty then
      String.ofList rest.reverse :: namesLeading true rest
    else namesLeading false rest

/-- Loggers by name, each with the one right above it, and those that let nothing through. -/
structure LoggerTree where
  above : Table String
  closed : List String

namespace LoggerTree

def empty : LoggerTree := ⟨[], []⟩

def leading (logger : String) : List String := namesLeading false logger.toList.reverse

/-- The logger that a new one is put below: the nearest there is, or else the root. -/
def nearest (tree : LoggerTree) (logger : String) : String :=
  ((leading logger).find? tree.above.has).getD rootLogger

/-- Puts a logger in its place. A logger that it leads to moves below it, unless the name of the one
above that starts with the new name and so counts as nearer. -/
def use (tree : LoggerTree) (logger : String) : LoggerTree :=
  if namedLogger logger = rootLogger || tree.above.has logger then tree
  else
    let moved : Table String := tree.above.map fun (below, above) =>
      if (leading below).contains logger && !above.startsWith logger then (below, logger)
      else (below, above)
    { tree with above := moved.set logger (tree.nearest logger) }

/-- Lets nothing through a logger any more. The root cannot be closed. -/
def close (tree : LoggerTree) (logger : String) : LoggerTree :=
  if namedLogger logger = rootLogger then tree
  else { tree.use logger with closed := logger :: tree.closed }

/-- The loggers that a record passes, of which there are at most `count`, without the root. -/
def way (tree : LoggerTree) : Nat → String → List String
  | 0, _ => []
  | count + 1, logger =>
    match tree.above.get? logger with
    | none => []
    | some above => logger :: tree.way count above

def reachesRoot (tree : LoggerTree) (logger : String) : Bool :=
  !(tree.way tree.above.length logger).any tree.closed.contains

/-- The loggers after summaries were logged, and those of the summaries that reached the root. -/
def passSummaries : LoggerTree → List RepeatSummary → LoggerTree × List RepeatSummary
  | tree, [] => (tree, [])
  | tree, summary :: rest =>
    let used := tree.use summary.key.logger
    let (last, passed) := used.passSummaries rest
    (last, if used.reachesRoot summary.key.logger then summary :: passed else passed)

end LoggerTree

end StorageLayout
