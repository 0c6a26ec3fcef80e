import DocQuery.Json.Writer

/-!
# Log lines

One entry is one line of JSON: the event, the severity, and the fields in the
order of their keys.  The line is put together from pieces of text.  A logger writes
the entries that are severe enough.
-/

namespace DocQuery

inductive Severity
  | trace
  | info
  | warn
  | error
deriving DecidableEq

namespace Severity

/-- All severities, the least severe first. -/
def all : List Severity :=
  [trace, info, warn, error]

def rank : Severity → Nat
  | trace => 0
  | info => 1
  | warn => 2
  | error => 3

def name : Severity → String
  | trace => "TRACE"
  | info => "INFO"
  | warn => "WARN"
  | error => "ERROR"

def ofName? (name : String) : Option Severity :=
  all.find? fun severity => severity.name == name

def compare (a b : Severity) : Ordering :=
  Ord.compare a.rank b.rank

end Severity

inductive Event
  /-- An operator and its negation were registered. -/
  | operatorDefined
  /-- A registration replaced an operator. -/
  | operatorOverridden
  | queryCompiled
  | operatorSkipped
  | filterComplete
  | configLoaded
deriving DecidableEq

namespace Event

def all : List Event :=
  [operatorDefined, operatorOverridden, queryCompiled, operatorSkipped, filterComplete,
    configLoaded]

def name : Event → String
  | operatorDefined => "OPERATOR_DEFINED"
  | operatorOverridden => "OPERATOR_OVERRIDDEN"
  | queryCompiled => "QUERY_COMPILED"
  | operatorSkipped => "OPERATOR_SKIPPED"
  | filterComplete => "FILTER_COMPLETE"
  | configLoaded => "CONFIG_LOADED"

def ofName? (name : String) : Option Event :=
  all.find? fun event => event.name == name

end Event

structure LogEntry where
  severity : Severity
  event : String
  fields : List (String × String)
deriving DecidableEq

namespace LogEntry

def ofEvent (event : Event) (severity : Severity) (fields : List (String × String)) :
    LogEntry where
  severity := severity
  event := event.name
  fields := fields

/-- The fields in the order of their keys; equal keys keep their order. -/
def sortedFields (entry : LogEntry) : List (String × String) :=
  entry.fields.mergeSort fun a b => (compare a.1 b.1).isLE

/-- The text of a field, with the comma in front of it. -/
def fieldText (field : String × String) : String :=
  "," ++ Json.quoted field.1 ++ ":" ++ Json.quoted field.2

/-- The line without its end, put together from its pieces. -/
def line (entry : LogEntry) : String :=
  "\x7b\"event\":" ++ Json.quoted entry.event ++ ",\"severity\":\"" ++ entry.severity.name ++
    "\"" ++ String.join (entry.sortedFields.map fieldText) ++ "\x7d"

def text (entry : LogEntry) : String :=
  entry.line ++ "\n"

end LogEntry

structure Logger where
  minimum : Severity := .warn
deriving DecidableEq

namespace Logger

def enabled (logger : Logger) (severity : Severity) : Bool :=
  logger.minimum.rank ≤ severity.rank

def lines (logger : Logger) (entries : List LogEntry) : List String :=
  (entries.filter fun entry => logger.enabled entry.severity).map LogEntry.line

end Logger

end DocQuery
