/-!
# Command-line arguments

The commands and their options.  Options of the program may stand before or
after the command; where both are given, the one after the command counts.  An
option takes one value, after an equals sign or as the next argument, and a
separate value does not start with a hyphen.
-/

namespace DocQuery

namespace CommandLine

inductive Command
  | filter (query : String) (sortBy : Option String) (select : Option (List String))
  | check (query : String)
  | transitions (query : String)
deriving DecidableEq

structure Invocation where
  config : Option String
  verbose : Bool
  command : Command
deriving DecidableEq

inductive Request
  | run (invocation : Invocation)
  | showVersion
  | showHelp
  | misuse
deriving DecidableEq

/-! ## Splitting -/

inductive Argument
  | separator
  | long (name : String) (value : Option String)
  | short (letters : List Char)
  | plain (text : String)

/-- The form of an argument.  A lone hyphen is plain. -/
def Argument.ofString (text : String) : Argument :=
  match text.toList with
  | '-' :: '-' :: [] => .separator
  | '-' :: '-' :: rest =>
      let name := String.ofList (rest.takeWhile (· ≠ '='))
      match rest.dropWhile (· ≠ '=') with
      | '=' :: value => .long name (some (String.ofList value))
      | _ => .long name none
  | '-' :: c :: rest => .short (c :: rest)
  | _ => .plain text

/-- The value of an option: the one attached to it, or the next argument. -/
def takeValue : Option String → List String → Option (String × List String)
  | some value, rest => some (value, rest)
  | none, [] => none
  | none, next :: rest =>
      match Argument.ofString next with
      | .plain value => some (value, rest)
      | _ => none

def splitAtCommas : List Char → List (List Char)
  | [] => [[]]
  | c :: rest =>
      if c = ',' then [] :: splitAtCommas rest
      else
        match splitAtCommas rest with
        | part :: parts => (c :: part) :: parts
        | [] => [[c]]

def fieldList (value : String) : List String :=
  (splitAtCommas value.toList).map String.ofList

/-! ## Options -/

inductive CommandName
  | filter
  | check
  | transitions
deriving DecidableEq

def CommandName.ofString? : String → Option CommandName
  | "filter" => some .filter
  | "check" => some .check
  | "match" => some .transitions
  | _ => none

structure Options where
  config : Option String := none
  verbose : Bool := false
  query : Option String := none
  sortBy : Option String := none
  select : Option (List String) := none

def setOnce (old : Option String) (value : String) : Option (Option String) :=
  if old.isSome then none else some (some value)

def accepts : Option CommandName → String → Bool
  | _, "config" => true
  | some _, "query" => true
  | some .filter, "sort-by" => true
  | some .filter, "select" => true
  | _, _ => false

/-- Set an option to a value.  A path is not empty, and only a selection may be
given more than once. -/
def Options.set (options : Options) (name value : String) : Option Options :=
  match name with
  | "config" =>
      if value = "" then none
      else (setOnce options.config value).map fun config => { options with config }
  | "query" => (setOnce options.query value).map fun query => { options with query }
  | "sort-by" => (setOnce options.sortBy value).map fun sortBy => { options with sortBy }
  | "select" =>
      some { options with select := some (options.select.getD [] ++ fieldList value) }
  | _ => none

def emptyQuery : String := "\x7b\x7d"

def Options.command? (options : Options) : CommandName → Option Command
  | .filter => some (.filter (options.query.getD emptyQuery) options.sortBy options.select)
  | .check => options.query.map Command.check
  | .transitions => options.query.map Command.transitions

def finish (outer : Options) (name : CommandName) (inner : Options) : Request :=
  match inner.command? name with
  | some command =>
      .run {
        config := inner.config.or outer.config
        verbose := outer.verbose || inner.verbose
        command }
  | none => .misuse

/-- What a cluster of letters asks for: its first letter decides, for every
letter that is known ends the reading. -/
def readShort (place : Option CommandName) : List Char → Request
  | 'h' :: _ => .showHelp
  | 'V' :: _ => if place.isNone then .showVersion else .misuse
  | _ => .misuse

/-- What the help command with its arguments asks for: help on everything, on a
command, or on itself. -/
def readHelp : List String → Request
  | [] => .showHelp
  | [topic] =>
      if topic = "help" || (CommandName.ofString? topic).isSome then .showHelp else .misuse
  | _ => .misuse

/-- Read arguments from left to right.  `place` is the command, once it has been
read, with the options before it.  Each step takes an argument. -/
def readFrom (place : Option (CommandName × Options)) (options : Options) :
    Nat → List String → Request
  | 0, _ => .misuse
  | _ + 1, [] =>
      match place with
      | some (name, outer) => finish outer name options
      | none => .misuse
  | fuel + 1, text :: rest =>
      match Argument.ofString text with
      | .separator =>
          match place, rest with
          | some (name, outer), [] => finish outer name options
          | _, _ => .misuse
      | .plain text =>
          if place.isSome then .misuse
          else if text = "help" then readHelp rest
          else
            match CommandName.ofString? text with
            | some name => readFrom (some (name, options)) {} fuel rest
            | none => .misuse
      | .short letters => readShort (place.map Prod.fst) letters
      | .long "help" none => .showHelp
      | .long "version" none => if place.isNone then .showVersion else .misuse
      | .long "verbose" none =>
          if options.verbose then .misuse
          else readFrom place { options with verbose := true } fuel rest
      | .long name value =>
          if accepts (place.map Prod.fst) name then
            match takeValue value rest with
            | none => .misuse
            | some (value, rest) =>
                match options.set name value with
                | some options => readFrom place options fuel rest
                | none => .misuse
          else .misuse

def Request.ofArguments (arguments : List String) : Request :=
  readFrom none {} (arguments.length + 1) arguments

end CommandLine

end DocQuery
