import StorageLayout.Log.Record
import StorageLayout.Text.Blank

/-! Dropping messages that keep coming. A message passes unless it was seen too often within a
window of time; how often it was dropped is reported when it passes again or is forgotten. The
filter holds no clock: every record comes with the time at which it is seen. -/

namespace StorageLayout

/-- The limits of a filter. Each count is at least one. -/
structure RepeatLimits where
  windowSeconds : Nat
  maxPerWindow : Nat
  maxKeys : Nat
  summaryLevel : Level
  deriving DecidableEq, Repr

namespace RepeatLimits

/-- A count out of a value, at least one. -/
def countOf (value : Value) : Except Failure Nat :=
  match value.toInteger with
  | .ok number => .ok (max 1 number).toNat
  | .error problem => .error (.number problem)

def levelOf (value : Value) : Except Failure Level :=
  match value.toInteger with
  | .ok number => .ok number
  | .error problem => .error (.number problem)

/-- Limits out of values. -/
def ofValues (windowSeconds maxPerWindow summaryLevel maxKeys : Value) :
    Except Failure RepeatLimits := do
  let windowSeconds ← countOf windowSeconds
  let maxPerWindow ← countOf maxPerWindow
  let summaryLevel ← levelOf summaryLevel
  let maxKeys ← countOf maxKeys
  return { windowSeconds, maxPerWindow, maxKeys, summaryLevel }

end RepeatLimits

/-- What makes two messages the same one. -/
structure RepeatKey where
  logger : String
  level : Level
  text : String
  deriving DecidableEq, Repr

namespace RepeatKey

/-- Longer texts are cut. -/
def maxLength : Nat := 512

/-- A text as it is compared: with single spaces, and not too long. -/
def normalize (message : String) : String :=
  let text := Text.squeeze message
  if maxLength < text.length then String.ofList (text.toList.take maxLength) ++ "..." else text

def ofRecord (record : LogRecord) : RepeatKey :=
  ⟨record.logger, record.level, normalize record.message⟩

end RepeatKey

/-- When a message was seen, the oldest time first, and how often it was dropped since the last
report. -/
structure RepeatWindow where
  stamps : List Binary64
  suppressed : Nat
  deriving DecidableEq, Repr

namespace RepeatWindow

def fresh : RepeatWindow := ⟨[], 0⟩

/-- Forgets the times before a cutoff. -/
def expire (cutoff : Binary64) (window : RepeatWindow) : RepeatWindow :=
  { window with stamps := window.stamps.dropWhile fun stamp => stamp.below cutoff }

/-- Whether nothing is left to remember. -/
def isSpent (window : RepeatWindow) : Bool := window.stamps.isEmpty && window.suppressed = 0

end RepeatWindow

/-- A report of dropped messages. -/
structure RepeatSummary where
  key : RepeatKey
  count : Nat
  deriving DecidableEq, Repr

/-- A filter: its limits and the windows of tracked messages, the one seen longest ago first. -/
structure RepeatFilter where
  limits : RepeatLimits
  windows : List (RepeatKey × RepeatWindow)

/-- What a filter says to a record, and the reports it sends out before. -/
structure RepeatVerdict where
  passed : Bool
  summaries : List RepeatSummary

namespace RepeatFilter

def ofLimits (limits : RepeatLimits) : RepeatFilter := ⟨limits, []⟩

def trackedKeys (filter : RepeatFilter) : Nat := filter.windows.length

def window? (filter : RepeatFilter) (key : RepeatKey) : Option RepeatWindow :=
  filter.windows.lookup key

/-- The report due for a window, if any messages were dropped. -/
def summaryOf (key : RepeatKey) (window : RepeatWindow) : List RepeatSummary :=
  if window.suppressed = 0 then [] else [⟨key, window.suppressed⟩]

/-- Forgets the windows seen longest ago until there is room, and reports what they dropped. -/
def evict (room : Nat) : List (RepeatKey × RepeatWindow) →
    List (RepeatKey × RepeatWindow) × List RepeatSummary
  | [] => ([], [])
  | (key, window) :: rest =>
    if room ≤ rest.length + 1 then
      let (kept, summaries) := evict room rest
      (kept, summaryOf key window ++ summaries)
    else ((key, window) :: rest, [])

/-- Makes room for one more message: spent windows go first. -/
def makeRoom (cutoff : Binary64) (filter : RepeatFilter) :
    List (RepeatKey × RepeatWindow) × List RepeatSummary :=
  if filter.windows.length < filter.limits.maxKeys then (filter.windows, [])
  else
    let expired := filter.windows.map fun entry => (entry.1, entry.2.expire cutoff)
    evict filter.limits.maxKeys (expired.filter fun entry => !entry.2.isSpent)

/-- The time before which messages are out of the window. -/
def cutoff? (filter : RepeatFilter) (now : Binary64) : Option Binary64 :=
  (Binary64.ofInt? filter.limits.windowSeconds).map now.sub

/-- Shows a filter a message at a time. -/
def see (filter : RepeatFilter) (now cutoff : Binary64) (key : RepeatKey) :
    RepeatFilter × RepeatVerdict :=
  let (others, evicted) : List (RepeatKey × RepeatWindow) × List RepeatSummary :=
    match filter.window? key with
    | some _ => (filter.windows.filter (fun entry => entry.1 ≠ key), [])
    | none => filter.makeRoom cutoff
  let current := ((filter.window? key).getD .fresh).expire cutoff
  let stamps := current.stamps ++ [now]
  if stamps.length ≤ filter.limits.maxPerWindow then
    ({ filter with windows := others ++ [(key, ⟨stamps, 0⟩)] },
      ⟨true, evicted ++ summaryOf key current⟩)
  else
    ({ filter with windows := others ++ [(key, ⟨stamps, current.suppressed + 1⟩)] },
      ⟨false, evicted⟩)

/-- The filter after a message whose window of time cannot be worked out: only a message that is not
tracked yet, and fits in, leaves something. -/
def unseen (filter : RepeatFilter) (key : RepeatKey) : RepeatFilter :=
  match filter.window? key with
  | some window =>
    { filter with
      windows := (filter.windows.filter fun entry => entry.1 ≠ key) ++ [(key, window)] }
  | none =>
    if filter.windows.length < filter.limits.maxKeys then
      { filter with windows := filter.windows ++ [(key, .fresh)] }
    else filter

/-- Offers a record to a filter at a time. Summaries always pass. -/
def offer (filter : RepeatFilter) (now : Binary64) (record : LogRecord) :
    RepeatFilter × Except Failure RepeatVerdict :=
  if record.isSummary then (filter, .ok ⟨true, []⟩)
  else
    let key := RepeatKey.ofRecord record
    match filter.cutoff? now with
    | none => (filter.unseen key, .error (.number .tooLarge))
    | some cutoff =>
      let (after, verdict) := filter.see now cutoff key
      (after, .ok verdict)

/-- Offers records one after the other, each at its time, up to the first failure. -/
def offerAll : RepeatFilter → List (Binary64 × LogRecord) →
    RepeatFilter × Except Failure (List RepeatVerdict)
  | filter, [] => (filter, .ok [])
  | filter, (now, record) :: rest =>
    match filter.offer now record with
    | (after, .error failure) => (after, .error failure)
    | (after, .ok verdict) =>
      let (last, verdicts) := after.offerAll rest
      (last, verdicts.map (verdict :: ·))

/-- A report as a record, in the context in which it is made. -/
def summaryRecord (limits : RepeatLimits) (context : LogContext) (summary : RepeatSummary) :
    LogRecord where
  level := limits.summaryLevel
  logger := namedLogger summary.key.logger
  message :=
    "Suppressed " ++ toString summary.count ++ " repeated logs: " ++ summary.key.text
  context := context
  isSummary := true

end RepeatFilter

end StorageLayout
