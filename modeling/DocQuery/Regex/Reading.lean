import DocQuery.Regex.Bracketed

/-!
# Reading patterns

The reader keeps a stack of the groups that are open.  Each step takes at least
one character, so the length of the pattern bounds the number of steps.
-/

namespace DocQuery

namespace Regex

namespace Reading

/-- A group that is open, with what was read of it and around it.  Lists are
newest first. -/
structure Level where
  /-- Whether the group captures what it matches. -/
  captures : Bool
  /-- The flags that the group switches. -/
  changes : FlagChanges
  /-- Whether blanks were ignored before the group. -/
  ignoredBefore : Bool
  branches : List Ast
  parts : List Ast

/-- The open groups, innermost first, and the state of the reader; the last
level is the pattern itself. -/
structure State where
  level : Level
  outer : List Level
  names : List (List Char)
  ignoreBlanks : Bool
  rest : List Char

def Level.body (level : Level) : Ast :=
  .ofBranches (Ast.ofParts level.parts.reverse :: level.branches).reverse

def State.push (state : State) (part : Ast) (rest : List Char) : State :=
  { state with level := { state.level with parts := part :: state.level.parts }, rest }

def State.branch (state : State) (rest : List Char) : State :=
  let level := state.level
  { state with
    level := { level with
      branches := Ast.ofParts level.parts.reverse :: level.branches
      parts := [] }
    rest }

/-! ## Groups -/

def blanksAfter (changes : FlagChanges) (before : Bool) : Bool :=
  match changes.find? fun change => change.1 == .ignoreBlanks with
  | some change => change.2
  | none => before

def State.openGroup (state : State) (captures : Bool) (changes : FlagChanges)
    (rest : List Char) : State :=
  { state with
    level := {
      captures, changes, ignoredBefore := state.ignoreBlanks, branches := [], parts := [] }
    outer := state.level :: state.outer
    ignoreBlanks := blanksAfter changes state.ignoreBlanks
    rest }

def State.closeGroup? (state : State) (rest : List Char) : Option State :=
  match state.outer with
  | [] => none
  | level :: outer =>
      let body := state.level.body
      let group : Ast :=
        if state.level.captures then .capture body else .group state.level.changes body
      some { state with
        level := { level with parts := group :: level.parts }
        outer
        ignoreBlanks := state.level.ignoredBefore
        rest }

def State.openNamed? (state : State) (rest : List Char) : Option State := do
  let (name, rest) ← readName true rest
  if name = [] ∨ state.names.contains name then none
  else some ({ state with names := name :: state.names }.openGroup true [] rest)

/-- What an opening parenthesis starts: a group, or a change of flags up to the
end of the group around it.  Conditions on what comes before or after are not
part of patterns. -/
def State.parenthesis? (state : State) (rest : List Char) : Option State :=
  match dropSpace state.ignoreBlanks rest with
  | '?' :: '=' :: _ => none
  | '?' :: '!' :: _ => none
  | '?' :: '<' :: '=' :: _ => none
  | '?' :: '<' :: '!' :: _ => none
  | '?' :: 'P' :: '<' :: rest => state.openNamed? rest
  | '?' :: '<' :: rest => state.openNamed? rest
  | '?' :: rest => do
      let ((changes, opens), rest) ← readFlags [] false false rest
      if opens then some (state.openGroup false changes rest)
      else if changes = [] then none
      else
        let state := { state with ignoreBlanks := blanksAfter changes state.ignoreBlanks }
        some (state.push (.flags changes) rest)
  | rest => some (state.openGroup true [] rest)

/-! ## Repetition -/

/-- Read the mark of a lazy repetition if there is one; without it the repetition is
greedy. -/
def readGreedy : List Char → Bool × List Char
  | '?' :: rest => (false, rest)
  | rest => (true, rest)

/-- Repeat the last part; there must be one, and flags are none.  The mark of a lazy
repetition may follow. -/
def State.repeat? (state : State) (least : Nat) (most : Option Nat) (rest : List Char) :
    Option State :=
  let (greedy, rest) := readGreedy rest
  match state.level.parts with
  | [] => none
  | .empty :: _ => none
  | .flags _ :: _ => none
  | part :: parts =>
      some { state with
        level := { state.level with parts := .repetition least most greedy part :: parts }
        rest }

/-! ## Patterns -/

def State.step (state : State) (c : Char) (rest : List Char) : Option State :=
  match c with
  | '(' => state.parenthesis? rest
  | ')' => state.closeGroup? rest
  | '|' => some (state.branch rest)
  | '[' =>
      (Bracketed.read state.ignoreBlanks rest).map fun ((negated, set), rest) =>
        state.push (.bracketed negated set) rest
  | '?' => state.repeat? 0 (some 1) rest
  | '*' => state.repeat? 0 none rest
  | '+' => state.repeat? 1 none rest
  | '{' => do
      let ((least, most), rest) ← readBounds state.ignoreBlanks rest
      state.repeat? least most (dropSpace state.ignoreBlanks rest)
  | '\\' =>
      (readEscape state.ignoreBlanks rest).map fun (leaf, rest) => state.push (.leaf leaf) rest
  | '.' => some (state.push (.leaf .dot) rest)
  | '^' => some (state.push (.leaf (.assertion .lineStart)) rest)
  | '$' => some (state.push (.leaf (.assertion .lineEnd)) rest)
  | c => some (state.push (.leaf (.literal { char := c })) rest)

def readFrom : Nat → State → Option Ast
  | 0, _ => none
  | fuel + 1, state =>
      match dropSpace state.ignoreBlanks state.rest with
      | [] => if state.outer.isEmpty then some state.level.body else none
      | c :: rest => (state.step c rest).bind (readFrom fuel)

end Reading

def Ast.ofChars? (pattern : List Char) : Option Ast :=
  let start : Reading.State := {
    level := {
      captures := false, changes := [], ignoredBefore := false, branches := [], parts := [] }
    outer := []
    names := []
    ignoreBlanks := false
    rest := pattern }
  (Reading.readFrom (pattern.length + 1) start).bind fun ast =>
    if ast.depth ≤ depthLimit then some ast else none

end Regex

end DocQuery
