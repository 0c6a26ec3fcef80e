import DocQuery.CommandLine.Arguments
import DocQuery.CommandLine.Documents

/-!
# Sessions

A session is one run of the program: its arguments, its input and the files it
can read make up what it writes.  Responses are JSON, one a line; log lines and
the error that ends a run go to the error output.
-/

namespace DocQuery

namespace CommandLine

structure Environment where
  arguments : List String
  input : List UInt8
  files : String → Except ReadFault (List UInt8)

structure Transcript where
  status : Nat
  output : List String
  errors : List String
deriving DecidableEq

abbrev Work (α : Type) := Reported CommandError α

/-! ## Responses -/

def okResponse (data : Json) : Json :=
  .object [("status", .string "ok"), ("data", data)]

def errorResponse (error : CommandError) : Json :=
  .object [("status", .string "error"), ("code", .string error.code),
    ("message", .string error.message)]

/-! ## Commands -/

def onQuery {α : Type} (outcome : Outcome α) : Work α :=
  outcome.mapError .query

def parseQuery (text : String) : Read Query := do
  let value ← readJson text.toList
  (Query.ofJson value).mapError .query

/-- The sort specification of an argument: an object of directions, or else the
name of a field. -/
def parseSort (text : String) : Read SortSpec :=
  match Json.ofText? text with
  | some (.object members) => (SortSpec.ofJson (.object members)).mapError .query
  | _ => .ok (.asc text)

def filterOptions (query : String) (sortBy : Option String)
    (select : Option (List String)) : Read FilterOptions := do
  let query ← parseQuery query
  let sortBy ←
    match sortBy with
    | some text => (parseSort text).map some
    | none => .ok none
  return { query := some query, sortBy, select := select.map fun fields => { fields } }

/-- The responses of a filter: the documents of the input that pass. -/
def runFilter (compiler : Compiler) (input : List UInt8) (query : String)
    (sortBy : Option String) (select : Option (List String)) : Work (List Json) := do
  let options ← Reported.ofExcept (filterOptions query sortBy select)
  let documents ← Reported.ofExcept (readDocuments input)
  let results ← onQuery (compiler.filter documents options)
  return [okResponse (.array results)]

/-- The responses of a check: the number of fields of a query that compiles. -/
def runCheck (compiler : Compiler) (query : String) : Work (List Json) := do
  let query ← Reported.ofExcept (parseQuery query)
  let _ ← onQuery (compiler.compile query)
  return [okResponse (.object [("fields", .number (.ofNat query.length))])]

def answer (predicate : Predicate) : Read Revision → Json
  | .ok revision => okResponse (.bool (predicate.passes revision))
  | .error error => errorResponse error

def runTransitions (compiler : Compiler) (input : List UInt8) (query : String) :
    Work (List Json) := do
  let query ← Reported.ofExcept (parseQuery query)
  let predicate ← onQuery (compiler.compile query)
  return (readRevisions input).map (answer predicate)

def Command.run (compiler : Compiler) (input : List UInt8) : Command → Work (List Json)
  | filter query sortBy select => runFilter compiler input query sortBy select
  | check query => runCheck compiler query
  | transitions query => runTransitions compiler input query

/-! ## Runs -/

def loadConfig (files : String → Except ReadFault (List UInt8)) (path : String) :
    Work Config := do
  let bytes ← Reported.ofExcept ((files path).mapError .configUnread)
  match decodeText? bytes with
  | none => Reported.fail (.configUnread .notText)
  | some text =>
      match Config.ofText? text with
      | none => Reported.fail .configMalformed
      | some config =>
          Reported.report (LogEntry.ofEvent .configLoaded .info [("path", path)])
          return config

/-- The standard compiler under a configuration; the registration of its
operators is reported. -/
def standardCompiler (config : Config) : Work Compiler where
  entries := Standard.installation.2
  result := .ok { config }

def Invocation.run (invocation : Invocation) (environment : Environment) :
    Work (List Json) := do
  let config ←
    match invocation.config with
    | some path => loadConfig environment.files path
    | none => pure {}
  let compiler ← standardCompiler config
  invocation.command.run compiler environment.input

def Invocation.logger (invocation : Invocation) : Logger where
  minimum := if invocation.verbose then .trace else .warn

def transcribe (logger : Logger) (work : Work (List Json)) : Transcript :=
  let log := logger.lines work.entries
  match work.result with
  | .ok responses => { status := 0, output := responses.map Json.text, errors := log }
  | .error error => { status := 1, output := [], errors := log ++ [error.display] }

def versionLine : String := "querify 0.1.0"

def usage : List String :=
  ["Usage: querify [--config <path>] [--verbose] <command>",
    "  filter [--query <json>] [--sort-by <field or json>] [--select <fields>]",
    "  check --query <json>",
    "  match --query <json>"]

def session (environment : Environment) : Transcript :=
  match Request.ofArguments environment.arguments with
  | .run invocation => transcribe invocation.logger (invocation.run environment)
  | .showVersion => { status := 0, output := [versionLine], errors := [] }
  | .showHelp => { status := 0, output := usage, errors := [] }
  | .misuse => { status := 2, output := [], errors := usage }

end CommandLine

end DocQuery
