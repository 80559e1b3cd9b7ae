import StorageLayout.Log.Line
import StorageLayout.Proofs.Json.RoundTrip

/-! Lines in log files. A line is a JSON text, and what it is read as tells the message, the context
and all else that was logged. Main fact: nothing that a line is made of breaks it into two or is lost
in it, and only an integer that is too long keeps it from being written. -/

namespace StorageLayout

namespace Binary64

end Binary64

namespace Value

end Value

namespace LogLine

variable {line : LogLine}

/-- Whether what a line is made of can be told by its text. Of texts all can. -/
structure IsFaithful (line : LogLine) : Prop where
  context : (Json.object (line.context.getD [])).IsFaithful
  processId : line.processId.IsFaithful
  processName : line.processName.IsFaithful
  threadId : line.threadId.IsFaithful
  threadName : line.threadName.IsFaithful

/-- Whether there is an integer in what a line is made of that cannot be written. -/
def hasLong (line : LogLine) : Bool :=
  Json.hasLongMember (line.context.getD []) || line.processId.hasLong || line.processName.hasLong ||
    line.threadId.hasLong || line.threadName.hasLong

end LogLine

def Json.member? (members : List (Codes × Json)) (name : Codes) : Option Json := members.lookup name

namespace FailureNote

end FailureNote

namespace LogLine

variable {line : LogLine} {timestamp : Int} {message : Codes}

/-- What a JSON object says about a line and its message. -/
structure Tells (line : LogLine) (message : Codes) (members : List (Codes × Json)) : Prop where
  level : Json.member? members "level" = some (.text (Text.lower line.level.name))
  logger : Json.member? members "logger" = some (.text line.logger)
  message : Json.member? members "msg" = some (.text message)
  context : Json.member? members "ctx" = some (.object (line.context.getD []))
  process : Json.member? members "proc" =
    some (.object [("pid", line.processId), ("name", line.processName)])
  thread : Json.member? members "thread" =
    some (.object [("id", line.threadId), ("name", line.threadName)])
  noFailure : line.failure = none → Json.member? members "exc" = none
  failure : ∀ {typeName : String} {text report : Codes},
    line.failure = some ⟨typeName, some text, report⟩ → Json.member? members "exc" = some (.object
      [("type", .text typeName), ("message", .text text), ("stack", .text report)])
  textlessFailure : ∀ {typeName : String} {report : Codes},
    line.failure = some ⟨typeName, none, report⟩ → Json.member? members "exc" = some (.object
      [("type", .text "Error"), ("message", .text "format failed"), ("stack", .null)])
  noStack : line.stack.truthy = false → Json.member? members "stack" = none
  stack : ∀ {codes : Codes}, line.stack.codes? = some codes → codes ≠ [] →
    Json.member? members "stack" = some (.text codes)

end LogLine

end StorageLayout
