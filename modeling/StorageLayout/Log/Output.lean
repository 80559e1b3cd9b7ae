import StorageLayout.Log.Line
import StorageLayout.Log.RepeatFilter
import StorageLayout.Trace

/-! Where log records go. Until logging is configured all records are collected; then they are
written to a console and, if the settings name one, to a file. All handlers share one filter for
repeated messages, so a record passes it once for every handler. -/

namespace StorageLayout

/-- What a handler writes to. -/
inductive LogTarget where
  | console
  | file (path : Pathname)
  deriving DecidableEq, Repr

/-- A handler: its target and the least level of records that it writes. -/
structure LogHandler where
  target : LogTarget
  level : Level
  deriving DecidableEq, Repr

namespace LogHandler

/-- The name of the form in which a handler writes lines. -/
def form (handler : LogHandler) : String :=
  match handler.target with
  | .console => "DevFormatter"
  | .file _ => "JsonFormatter"

end LogHandler

/-- Where records go at present. While `collecting` is set there are no handlers. -/
structure LogOutput where
  collecting : Bool
  level : Level
  handlers : List LogHandler
  filter : Option RepeatFilter

/-- What happens to a record: it is collected, written by a handler, or, where there is no handler
at all, shown bare if it is important. -/
inductive Delivery where
  | collected (record : LogRecord)
  | written (target : LogTarget) (record : LogRecord)
  | bare (record : LogRecord)

namespace LogOutput

def collectAll : LogOutput := ⟨true, 1, [], none⟩

def isEnabled (output : LogOutput) (level : Level) : Bool := 0 < level && output.level ≤ level

/-- Records of this level are shown even where there is no handler. -/
def bareLevel : Level := Level.warning

/-- Writes a record with every handler that takes its level, past the filter. -/
def writeAll (output : LogOutput) (record : LogRecord) : List Delivery :=
  if output.isEnabled record.level then
    (output.handlers.filter fun handler => handler.level ≤ record.level).map fun handler =>
      .written handler.target record
  else []

/-- What the clock says about a record, by the handler that asks. -/
abbrev Clock := LogTarget → Binary64

/-- Offers a record to the filter once per handler and writes it where it passes. -/
def writeFiltered (output : LogOutput) (clock : Clock) (record : LogRecord) :
    List LogHandler → RepeatFilter → RepeatFilter × List Delivery × Except Failure Unit
  | [], filter => (filter, [], .ok ())
  | handler :: rest, filter =>
    if record.level < handler.level then writeFiltered output clock record rest filter
    else
      match filter.offer (clock handler.target) record with
      | (after, .error failure) => (after, [], .error failure)
      | (after, .ok verdict) =>
        let reports := verdict.summaries.flatMap fun summary =>
          output.writeAll (RepeatFilter.summaryRecord filter.limits record.context summary)
        let own : List Delivery := if verdict.passed then [.written handler.target record] else []
        let (last, deliveries, outcome) := writeFiltered output clock record rest after
        (last, reports ++ own ++ deliveries, outcome)

/-- Delivers a record. -/
def deliver (output : LogOutput) (clock : Clock) (record : LogRecord) :
    LogOutput × List Delivery × Except Failure Unit :=
  if !output.isEnabled record.level then (output, [], .ok ())
  else if output.collecting then (output, [.collected record], .ok ())
  else if output.handlers.isEmpty then
    (output, if bareLevel ≤ record.level then [.bare record] else [], .ok ())
  else
    match output.filter with
    | none => (output, output.writeAll record, .ok ())
    | some filter =>
      let (after, deliveries, outcome) := output.writeFiltered clock record output.handlers filter
      ({ output with filter := some after }, deliveries, outcome)

/-- Delivers records one after the other, up to the first failure. -/
def deliverAll : LogOutput → List (Clock × LogRecord) →
    LogOutput × List Delivery × Except Failure Unit
  | output, [] => (output, [], .ok ())
  | output, (clock, record) :: rest =>
    match output.deliver clock record with
    | (after, deliveries, .error failure) => (after, deliveries, .error failure)
    | (after, deliveries, .ok _) =>
      let (last, more, outcome) := after.deliverAll rest
      (last, deliveries ++ more, outcome)

/-- Delivers the records of a trail, each by a clock of its own. What sent them out has dealt with
those that fail. -/
def deliverTrail : LogOutput → (Nat → Clock) → List Emission → LogOutput × List Delivery
  | output, _, [] => (output, [])
  | output, clocks, .record record :: rest =>
    let (after, deliveries, _) := output.deliver (clocks 0) record
    let (last, more) := after.deliverTrail (fun turn => clocks (turn + 1)) rest
    (last, deliveries ++ more)
  | output, clocks, _ :: rest => output.deliverTrail clocks rest

/-- The failure that comes of a record, if it cannot be delivered: a handler that takes it asks a
filter whose window of time is too long to be worked out. -/
def refusal (output : LogOutput) (record : LogRecord) : Option Failure :=
  match output.filter with
  | none => none
  | some filter =>
    if output.isEnabled record.level && !output.collecting && !record.isSummary &&
        (output.handlers.any fun handler => handler.level ≤ record.level) &&
        (Binary64.ofInt? filter.limits.windowSeconds).isNone then
      some (.number .tooLarge)
    else none

/-- How a call stack is shown: traces of calls are left out. -/
def stackMark : String := "<stack>"

/-- What a line of a record is made of, without time, process and thread. -/
def lineOf (record : LogRecord) : LogLine where
  created := .zero
  level := record.level
  logger := record.logger
  context := record.context.map Value.entriesToJson
  processId := .null
  processName := .null
  threadId := .null
  threadName := .null
  failure := record.failure.map FailureNote.ofFailure
  stack := if record.withStack then .text stackMark else .null

def consoleLine (record : LogRecord) : Codes :=
  (lineOf record).consoleText record.context record.message ++ Text.codes "\n"

def fileFields (record : LogRecord) : List (Codes × Json) := (lineOf record).fields 0 record.message

def bareLine (record : LogRecord) : String :=
  record.message ++ (if record.withStack then "\n" ++ stackMark else "") ++ "\n"

end LogOutput

end StorageLayout
