import StorageLayout.Config.Document
import StorageLayout.Number.IntegerText
import StorageLayout.Settings.Issue
import StorageLayout.Text.Codes

/-! The settings of the library and the documents that stand for them. A document may leave out any
setting, but may name no other one. Truth values and numbers may also be given in words and digits;
what a document holds is kept as it was given, and only the checked settings show what it means. -/

namespace StorageLayout

namespace Settings

/-- The levels at which suppressed messages may be reported. -/
inductive SummaryLevel where
  | debug
  | info
  | warning
  | error
  deriving DecidableEq, Repr

namespace SummaryLevel

def name : SummaryLevel → String
  | debug => "DEBUG"
  | info => "INFO"
  | warning => "WARNING"
  | error => "ERROR"

def all : List SummaryLevel := [debug, info, warning, error]

def ofName? (name : String) : Option SummaryLevel := all.find? fun level => level.name = name

end SummaryLevel

/-- Settings for dropping messages that keep coming. -/
structure Suppression where
  enabled : Bool
  windowSeconds : Int
  maxPerWindow : Int
  maxKeys : Int
  summaryLevel : SummaryLevel
  deriving DecidableEq, Repr

end Settings

/-- All settings. -/
structure Settings where
  devMode : Bool
  suppression : Settings.Suppression
  logFile : Option Codes
  strictMode : Bool
  deriving DecidableEq, Repr

namespace Settings

/-- The settings of an empty document. -/
def Suppression.standard : Suppression where
  enabled := false
  windowSeconds := 60
  maxPerWindow := 5
  maxKeys := 1024
  summaryLevel := .info

/-- The settings of an empty document. -/
def standard : Settings where
  devMode := false
  suppression := Suppression.standard
  logFile := none
  strictMode := false

def Suppression.document (suppression : Suppression) : Table Value :=
  [("enabled", .bool suppression.enabled),
   ("windowSeconds", .int suppression.windowSeconds),
   ("maxPerWindow", .int suppression.maxPerWindow),
   ("maxKeys", .int suppression.maxKeys),
   ("summaryLevel", .text suppression.summaryLevel.name)]

/-- The entries that spell out every setting. -/
def document (settings : Settings) : Table Value :=
  [("debug", .object
      [("devModeEnabled", .bool settings.devMode),
       ("suppressRecurringMessages", .object settings.suppression.document)]),
   ("logging", .object [("file", settings.logFile.elim .null .ofCodes)]),
   ("user", .object [("strictMode", .bool settings.strictMode)])]

/-- The bound of the integers that fit a machine word. -/
def wordBound : Int := 0x8000000000000000

def isNarrow (value : Int) : Bool := -wordBound ≤ value && value < wordBound

/-- Floats outside these bounds stand for no integer; unlike an integer, a float has to lie inside
the lower one. -/
def isNarrowFloat (value : Int) : Bool := -wordBound < value && value < wordBound

/-- The words for truth values, in lower case. -/
def truthWords : List (String × Bool) :=
  [("1", true), ("t", true), ("true", true), ("y", true), ("yes", true), ("on", true),
   ("0", false), ("f", false), ("false", false), ("n", false), ("no", false), ("off", false)]

/-- Only zero and one are truth values; `narrow` says whether other numbers come close. -/
def checkTruthNumber (narrow : Int → Bool) (value : Int) : Except IssueKind Bool :=
  if value = 0 then .ok false
  else if value = 1 then .ok true
  else if narrow value then .error .unreadTruthValue
  else .error .notTruthValue

/-- Accepts the words for truth values in any case. -/
def checkTruthWord (word : String) : Except IssueKind Bool :=
  match Table.get? truthWords (Text.lower word) with
  | some truth => .ok truth
  | none => .error .unreadTruthValue

/-- Accepts truth values, zero and one, and the words for them, also as raw data. -/
def checkTruth : Value → Except IssueKind Bool
  | .bool truth => .ok truth
  | .int value => checkTruthNumber isNarrow value
  | .float value =>
    match value.toInt? with
    | some number => checkTruthNumber isNarrowFloat number
    | none => .error .notTruthValue
  | .text word => checkTruthWord word
  | .brokenText _ => .error .undecodedText
  | .bytes data =>
    match Text.decode? data with
    | some word => checkTruthWord word
    | none => .error .unreadTruthValue
  | _ => .error .notTruthValue

/-- Accepts a text that is an integer, read leniently. -/
def checkIntegerText (text : String) : Except IssueKind Int :=
  match Number.wholeNumber text.toList with
  | .ok number => .ok number
  | .error .unread => .error .unreadInteger
  | .error (.tooLong _) => .error .oversizedInteger

/-- Accepts integers, truth values as zero and one, floats without fraction, and texts of integers,
also as raw data. -/
def checkInteger : Value → Except IssueKind Int
  | .bool truth => .ok (if truth then 1 else 0)
  | .int value => .ok value
  | .float value =>
    match value.toRatio?, value.toInt? with
    | none, _ => .error .notFinite
    | some _, none => .error .fractional
    | some _, some number =>
      if isNarrowFloat number then .ok number else .error .oversizedInteger
  | .text text => checkIntegerText text
  | .brokenText _ => .error .undecodedText
  | .bytes data =>
    match Text.decode? data with
    | some text => checkIntegerText text
    | none => .error .unreadInteger
  | _ => .error .notInteger

/-- Accepts what stands for an integer of at least one. -/
def checkCount (value : Value) : Except IssueKind Int :=
  match checkInteger value with
  | .ok number => if number < 1 then .error .tooSmall else .ok number
  | .error kind => .error kind

/-- Accepts a text, broken or not and also as raw data, or that there is none. -/
def checkOptionalText : Value → Except IssueKind (Option Codes)
  | .null => .ok none
  | .text text => .ok (some text)
  | .brokenText text => .ok (some text.codes)
  | .bytes data =>
    match Text.decode? data with
    | some text => .ok (some text)
    | none => .error .undecodedText
  | _ => .error .notText

def checkLevel : Value → Except IssueKind SummaryLevel
  | .text name =>
    match SummaryLevel.ofName? name with
    | some level => .ok level
    | none => .error .notListed
  | .brokenText _ => .error .undecodedText
  | _ => .error .notListed

/-- A setting of a section; one that is not there has its standard value. -/
def setting {α : Type} (entries : Table Value) (name : String) (standard : α)
    (check : Value → Except IssueKind α) : Checked α :=
  match entries.get? name with
  | none => .ok standard
  | some value =>
    match check value with
    | .ok setting => .ok setting
    | .error kind => .error [⟨[name], kind⟩]

/-- A section inside a section. -/
def subsection {α : Type} (entries : Table Value) (name : String) (standard : α)
    (check : Table Value → Checked α) : Checked α :=
  match entries.get? name with
  | none => .ok standard
  | some (.mapping _ inner) =>
    match check inner with
    | .ok settings => .ok settings
    | .error issues => .error (below name issues)
  | some _ => .error [⟨[name], .notSection⟩]

/-- An issue for every entry of a section that is not among the given settings. -/
def unknownSettings (entries : Table Value) (names : List String) : List Issue :=
  (entries.keys.filter fun name => !names.contains name).map fun name => ⟨[name], .unknownSetting⟩

/-- Adds the issues with the names of settings in a section. A name that is a broken text is the
only issue reported. -/
def withNames {α : Type} (entries : Table Value) (issues : List Issue) (checked : Checked α) :
    Checked α :=
  if entries.any Value.isMisnamed then .error [⟨[], .undecodedText⟩]
  else Checked.withIssues issues checked

def checkSuppression (entries : Table Value) : Checked Suppression :=
  let fields :=
    Checked.both (setting entries "enabled" Suppression.standard.enabled checkTruth)
      (Checked.both (setting entries "windowSeconds" Suppression.standard.windowSeconds checkCount)
        (Checked.both (setting entries "maxPerWindow" Suppression.standard.maxPerWindow checkCount)
          (Checked.both (setting entries "maxKeys" Suppression.standard.maxKeys checkCount)
            (setting entries "summaryLevel" Suppression.standard.summaryLevel checkLevel))))
  withNames entries
    (unknownSettings entries
      ["enabled", "windowSeconds", "maxPerWindow", "maxKeys", "summaryLevel"])
    (fields.map fun (enabled, windowSeconds, maxPerWindow, maxKeys, summaryLevel) =>
      ⟨enabled, windowSeconds, maxPerWindow, maxKeys, summaryLevel⟩)

def checkDebug (entries : Table Value) : Checked (Bool × Suppression) :=
  withNames entries
    (unknownSettings entries ["devModeEnabled", "suppressRecurringMessages"])
    (Checked.both (setting entries "devModeEnabled" standard.devMode checkTruth)
      (subsection entries "suppressRecurringMessages" standard.suppression checkSuppression))

def checkLogging (entries : Table Value) : Checked (Option Codes) :=
  withNames entries (unknownSettings entries ["file"])
    (setting entries "file" standard.logFile checkOptionalText)

def checkUser (entries : Table Value) : Checked Bool :=
  withNames entries (unknownSettings entries ["strictMode"])
    (setting entries "strictMode" standard.strictMode checkTruth)

/-- The name under which an issue with a key is reported: truth values are numbers there. -/
def keyPlace (key : Value) : String :=
  match key.integer? with
  | some number => toString number
  | none => key.inspect

def unusableKeys (document : Document) : List Issue :=
  document.otherKeys.map fun key => ⟨[keyPlace key], .unusableKey⟩

/-- The settings that a document stands for, or all issues with it. -/
def check (document : Document) : Checked Settings :=
  let entries := document.named
  let sections :=
    Checked.both
      (subsection entries "debug" (standard.devMode, standard.suppression) checkDebug)
      (Checked.both (subsection entries "logging" standard.logFile checkLogging)
        (subsection entries "user" standard.strictMode checkUser))
  withNames entries
    (unknownSettings entries ["debug", "logging", "user"] ++ unusableKeys document)
    (sections.map fun ((devMode, suppression), logFile, strictMode) =>
      ⟨devMode, suppression, logFile, strictMode⟩)

end Settings

end StorageLayout
