import StorageLayout.Json.Writer
import StorageLayout.Log.Record

namespace StorageLayout

/-- What a line says about a failure: the name of its type, its text unless that cannot be had, and
its report, which is what it comes down to, behind the places it went through if these are shown. -/
structure FailureNote where
  typeName : String
  text : Option Codes
  report : Codes

namespace FailureNote

def ownModule : String := "droidenv.core.errors."

/-- A kind with its module, unless that is a standard one. -/
def qualifiedName (kind : FailureKind) : String :=
  if kind.isOwn then ownModule ++ kind.name else kind.name

/-- The note on a failure of a kind with a text, without the places it went through. -/
def described (kind : FailureKind) (text : String) : FailureNote :=
  let shown := Failure.embedded kind text
  let report := if shown = "" then qualifiedName kind else qualifiedName kind ++ ": " ++ shown
  ⟨kind.name, some shown, report⟩

def ofFailure (failure : Failure) : FailureNote := described failure.kind failure.message

def nothing : FailureNote := ⟨"NoneType", some "None", "NoneType: None"⟩

def textless (typeName : String) : FailureNote :=
  ⟨typeName, none, typeName ++ ": <exception str() failed>"⟩

/-- The fields of a failure in a file. Without its text nothing of it is told. -/
def document (note : FailureNote) : Json :=
  let fields (type message : Codes) (stack : Json) : Json :=
    .object [("type", .text type), ("message", .text message), ("stack", stack)]
  match note.text with
  | some text => fields note.typeName text (.text note.report)
  | none => fields "Error" "format failed" .null

end FailureNote

/-- Everything that a line is made of besides its message, with the context as JSON holds it. Names
and numbers of the process and the thread may be missing; a stack that is empty is left out. -/
structure LogLine where
  created : Binary64
  level : Level
  logger : Codes
  context : Option (List (Codes × Json))
  processId : Json
  processName : Json
  threadId : Json
  threadName : Json
  failure : Option FailureNote
  stack : Value

namespace LogLine

def millisecondsPerSecond : Nat := 1000

/-- When a record was made, in whole milliseconds. -/
def timestamp (line : LogLine) : Except NumberProblem Int :=
  Value.integerOfFloat (line.created.scale millisecondsPerSecond)

/-- The fields of a line in a file, in the order in which they are written. -/
def fields (line : LogLine) (timestamp : Int) (message : Codes) : List (Codes × Json) :=
  let always : List (Codes × Json) :=
    [("ts", .int timestamp),
     ("level", .text (Text.lower line.level.name)),
     ("logger", .text line.logger),
     ("msg", .text message),
     ("ctx", .object (line.context.getD [])),
     ("proc", .object [("pid", line.processId), ("name", line.processName)]),
     ("thread", .object [("id", line.threadId), ("name", line.threadName)])]
  let failed : List (Codes × Json) :=
    match line.failure with
    | some note => [("exc", note.document)]
    | none => []
  let stacked : List (Codes × Json) :=
    if line.stack.truthy then [("stack", .text line.stack.plainCodes)] else []
  always ++ failed ++ stacked

/-- A line in a file. The time has to be a number, and only then the message counts; and no integer
may be too long to be written. -/
def fileText (line : LogLine) (message : Except TemplateProblem Codes) : Except Failure Codes :=
  match line.timestamp, message with
  | .error problem, _ => .error (.number problem)
  | .ok _, .error problem => .error (.template problem)
  | .ok timestamp, .ok message =>
    let fields := Json.object (line.fields timestamp message)
    if fields.hasLong then .error (.number .tooLongToShow) else .ok fields.encode

/-- The marks that a console shows: the user and the strategy. -/
def marks (context : LogContext) : Codes :=
  let user := context.mark "userHandle"
  let strategy := context.mark "strategy"
  let shown : List Codes :=
    (if user.isNull then [] else [.char 'u' :: user.plainCodes]) ++
    (if strategy.truthy then [strategy.plainCodes] else [])
  if shown.isEmpty then [] else " [" ++ [.char '/'].intercalate shown ++ "]"

/-- A line on a console. -/
def consoleText (line : LogLine) (context : LogContext) (message : Codes) : Codes :=
  Text.codes (line.level.name ++ ": [") ++ line.logger ++ "] " ++ message ++
    (match line.failure with
      | some note => .char '\n' :: note.report
      | none => []) ++
    (if line.stack.truthy then .char '\n' :: line.stack.plainCodes else []) ++
    marks context

end LogLine

end StorageLayout
