import DocQuery.Regex.Cursor

/-!
# Bracketed classes

Reading of classes such as `[^a-z&&[:alpha:]]`.  The reader keeps a stack of the
brackets that are open and of the set operators that wait for their right side;
operators have one precedence and group to the left.
-/

namespace DocQuery

namespace Regex

namespace Bracketed

/-- An open bracket with the sets read before it, or a waiting operator. -/
inductive Frame
  | bracket (negated : Bool) (before : List ClassSet)
  | operator (operator : SetOperator) (left : ClassSet)

structure State where
  frames : List Frame
  sets : List ClassSet
  rest : List Char

/-! ## Items -/

def asciiClass? (name : String) : Option CharSet :=
  match name with
  | "alnum" => some [(0x30, 0x39), (0x41, 0x5A), (0x61, 0x7A)]
  | "alpha" => some [(0x41, 0x5A), (0x61, 0x7A)]
  | "ascii" => some [(0, 0x7F)]
  | "blank" => some [(0x09, 0x09), (0x20, 0x20)]
  | "cntrl" => some [(0, 0x1F), (0x7F, 0x7F)]
  | "digit" => some [(0x30, 0x39)]
  | "graph" => some [(0x21, 0x7E)]
  | "lower" => some [(0x61, 0x7A)]
  | "print" => some [(0x20, 0x7E)]
  | "punct" => some [(0x21, 0x2F), (0x3A, 0x40), (0x5B, 0x60), (0x7B, 0x7E)]
  | "space" => some [(0x09, 0x0D), (0x20, 0x20)]
  | "upper" => some [(0x41, 0x5A)]
  | "word" => some [(0x30, 0x39), (0x41, 0x5A), (0x5F, 0x5F), (0x61, 0x7A)]
  | "xdigit" => some [(0x30, 0x39), (0x41, 0x46), (0x61, 0x66)]
  | _ => none

/-- A named class after its opening bracket; any other text is left for a nested
bracket. -/
def readAscii? : List Char → Option (ClassSet × List Char)
  | ':' :: rest =>
      let (negated, rest) : Bool × List Char :=
        match rest with
        | '^' :: more => (true, more)
        | more => (false, more)
      let name := rest.takeWhile (· ≠ ':')
      match rest.dropWhile (· ≠ ':') with
      | ':' :: ']' :: rest =>
          (asciiClass? (String.ofList name)).map fun set => (.ascii set negated, rest)
      | _ => none
  | _ => none

def readPart (ignoreBlanks : Bool) : Reader Leaf
  | [] => none
  | '\\' :: rest => readEscape ignoreBlanks rest
  | c :: rest => some (.literal { char := c }, rest)

def setOfLeaf? : Leaf → Option ClassSet
  | .dot => none
  | .assertion _ => none
  | leaf => some (.leaf leaf)

/-- What comes after a hyphen, blanks apart.  A look ahead takes the mark of a
comment for one more blank, so that it sees into the comment. -/
def lookAhead (ignoreBlanks : Bool) (cs : List Char) : List Char :=
  if ignoreBlanks then
    match Text.dropBlanks cs with
    | '#' :: rest => Text.dropBlanks rest
    | rest => rest
  else cs

/-- A part or a range.  A hyphen is a character of its own when a look ahead finds
a closing bracket, and an operator may start with it when there is a second one. -/
def readItem (ignoreBlanks : Bool) : Reader ClassSet := fun cs => do
  let (first, rest) ← readPart ignoreBlanks cs
  match dropSpace ignoreBlanks rest with
  | [] => none
  | '-' :: more =>
      match lookAhead ignoreBlanks more with
      | ']' :: _ => (setOfLeaf? first).map (·, '-' :: more)
      | '-' :: _ => (setOfLeaf? first).map (·, '-' :: more)
      | _ =>
          match dropSpace ignoreBlanks more with
          | [] => none
          | start => do
              let (last, rest) ← readPart ignoreBlanks start
              match first, last with
              | .literal first, .literal last =>
                  if first.char ≤ last.char then some (.range first last, rest) else none
              | _, _ => none
  | rest => (setOfLeaf? first).map (·, rest)

/-! ## Brackets and operators -/

def readHyphens (ignoreBlanks : Bool) : Nat → List ClassSet → Reader (List ClassSet)
  | 0, _, _ => none
  | fuel + 1, sets, cs =>
      match cs with
      | '-' :: rest =>
          match dropSpace ignoreBlanks rest with
          | [] => none
          | more => readHyphens ignoreBlanks fuel (.leaf (.literal { char := '-' }) :: sets) more
      | _ => some (sets, cs)

/-- The front of a class after its opening bracket: a negation, hyphens, and a
closing bracket that stands for itself. -/
def readOpening (ignoreBlanks : Bool) : Reader (Bool × List ClassSet) := fun cs =>
  match dropSpace ignoreBlanks cs with
  | [] => none
  | c :: rest => do
      let (negated, start) ←
        if c = '^' then
          match dropSpace ignoreBlanks rest with
          | [] => none
          | more => some (true, more)
        else some (false, c :: rest)
      let (sets, start) ← readHyphens ignoreBlanks (start.length + 1) [] start
      match sets, start with
      | [], ']' :: rest =>
          match dropSpace ignoreBlanks rest with
          | [] => none
          | more => some ((negated, [.leaf (.literal { char := ']' })]), more)
      | sets, start => some ((negated, sets), start)

def applyOperator (right : ClassSet) : List Frame → ClassSet × List Frame
  | .operator operator left :: frames => (.combined operator left right, frames)
  | frames => (right, frames)

def pushOperator (operator : SetOperator) (state : State) (rest : List Char) : State :=
  let (left, frames) := applyOperator (.ofSets state.sets.reverse) state.frames
  { frames := .operator operator left :: frames, sets := [], rest }

def close (state : State) (rest : List Char) :
    Option ((Bool × ClassSet) × List Char ⊕ State) :=
  let (set, frames) := applyOperator (.ofSets state.sets.reverse) state.frames
  match frames with
  | [.bracket negated _] => some (.inl ((negated, set), rest))
  | .bracket negated before :: frames =>
      some (.inr { frames, sets := .nested negated set :: before, rest })
  | _ => none

def openBracket (ignoreBlanks : Bool) (state : State) (rest : List Char) : Option State :=
  (readOpening ignoreBlanks rest).map fun ((negated, sets), rest) =>
    { frames := .bracket negated state.sets :: state.frames, sets, rest }

def readFrom (ignoreBlanks : Bool) : Nat → State → Option ((Bool × ClassSet) × List Char)
  | 0, _ => none
  | fuel + 1, state =>
      match dropSpace ignoreBlanks state.rest with
      | [] => none
      | '[' :: rest =>
          match readAscii? rest with
          | some (set, rest) =>
              readFrom ignoreBlanks fuel { state with sets := set :: state.sets, rest }
          | none => (openBracket ignoreBlanks state rest).bind (readFrom ignoreBlanks fuel)
      | ']' :: rest =>
          match close state rest with
          | none => none
          | some (.inl found) => some found
          | some (.inr state) => readFrom ignoreBlanks fuel state
      | '&' :: '&' :: rest =>
          readFrom ignoreBlanks fuel (pushOperator .intersection state rest)
      | '-' :: '-' :: rest =>
          readFrom ignoreBlanks fuel (pushOperator .difference state rest)
      | '~' :: '~' :: rest =>
          readFrom ignoreBlanks fuel (pushOperator .symmetricDifference state rest)
      | rest =>
          (readItem ignoreBlanks rest).bind fun (set, rest) =>
            readFrom ignoreBlanks fuel { state with sets := set :: state.sets, rest }

def read (ignoreBlanks : Bool) : Reader (Bool × ClassSet) := fun cs =>
  (openBracket ignoreBlanks { frames := [], sets := [], rest := cs } cs).bind
    (readFrom ignoreBlanks (cs.length + 1))

end Bracketed

end Regex

end DocQuery
