import DocQuery.Regex.Ast
import DocQuery.Text.Blank
import DocQuery.Text.Digits
import DocQuery.Text.Repertoire

/-!
# Reading small parts of patterns

Numbers, escapes, flags and names.  Each reader takes the rest of a pattern and
gives what it read with what is left.  In a pattern that ignores blanks, blanks
and comments count for nothing between most characters.
-/

namespace DocQuery

-- Powers are those of the core library, whatever algebra is imported beside them.
attribute [local instance (high)] instPowNat

namespace Regex

abbrev Reader (α : Type) := List Char → Option (α × List Char)

/-! ## Blanks and comments -/

/-- Drop a comment up to the end of its line, and blanks and comments after it. -/
def dropIgnored : Bool → List Char → List Char
  | _, [] => []
  | true, c :: rest => dropIgnored (c ≠ '\n') rest
  | false, c :: rest =>
      if Text.isBlank c then dropIgnored false rest
      else if c = '#' then dropIgnored true rest
      else c :: rest

def dropSpace (ignoreBlanks : Bool) (cs : List Char) : List Char :=
  if ignoreBlanks then dropIgnored false cs else cs

/-! ## Characters by number -/

def charOfCode? (code : Nat) : Option Char :=
  if code < 0xD800 ∨ (0xDFFF < code ∧ code ≤ 0x10FFFF) then some (Char.ofNat code)
  else none

def readHexDigits (ignoreBlanks : Bool) : Nat → Nat → Reader Nat
  | 0, value, cs => some (value, cs)
  | _ + 1, _, [] => none
  | digits + 1, value, c :: rest =>
      (Text.hexValue? c).bind fun digit =>
        readHexDigits ignoreBlanks digits (16 * value + digit) (dropSpace ignoreBlanks rest)

def readHexBrace (ignoreBlanks : Bool) : Nat → Nat → Nat → Reader (Nat × Nat)
  | 0, _, _, _ => none
  | _ + 1, _, _, [] => none
  | fuel + 1, count, value, c :: rest =>
      let rest := dropSpace ignoreBlanks rest
      if c = '}' then some ((count, value), rest)
      else
        (Text.hexValue? c).bind fun digit =>
          readHexBrace ignoreBlanks fuel (count + 1) (16 * value + digit) rest

/-- A character by its number: a fixed count of digits, or any count in braces. -/
def readHex (ignoreBlanks : Bool) (digits : Nat) : Reader Literal := fun cs =>
  match dropSpace ignoreBlanks cs with
  | '{' :: rest => do
      let ((count, value), rest) ←
        readHexBrace ignoreBlanks (rest.length + 1) 0 0 (dropSpace ignoreBlanks rest)
      if count = 0 then none
      else
        let char ← charOfCode? value
        some ({ char }, rest)
  | rest => do
      let (value, rest) ← readHexDigits ignoreBlanks digits 0 rest
      let char ← charOfCode? value
      some ({ char, byte := digits = 2 }, rest)

/-! ## Properties -/

def splitAt? (mark : List Char) : List Char → Option (List Char × List Char)
  | [] => none
  | c :: rest =>
      if mark.isPrefixOf (c :: rest) then some ([], (c :: rest).drop mark.length)
      else (splitAt? mark rest).map fun parts => (c :: parts.1, parts.2)

/-- The property that a name in braces asks for, and whether the name asks for
any other value instead. -/
def PropertyQuery.ofName (name : List Char) : PropertyQuery × Bool :=
  match splitAt? ['!', '='] name with
  | some (property, value) => (.valued (String.ofList property) (String.ofList value), true)
  | none =>
      match (splitAt? [':'] name).or (splitAt? ['='] name) with
      | some (property, value) =>
          (.valued (String.ofList property) (String.ofList value), false)
      | none => (.named (String.ofList name), false)

def readBraced (ignoreBlanks : Bool) : Nat → Reader (List Char)
  | 0, _ => none
  | _ + 1, [] => none
  | fuel + 1, c :: rest =>
      let rest := dropSpace ignoreBlanks rest
      if c = '}' then some ([], rest)
      else (readBraced ignoreBlanks fuel rest).map fun (name, rest) => (c :: name, rest)

/-- The property after its escape letter, which may negate it; asking for any
other value negates it as well. -/
def readProperty (ignoreBlanks negated : Bool) : Reader Leaf := fun cs =>
  match dropSpace ignoreBlanks cs with
  | [] => none
  | '{' :: rest =>
      (readBraced ignoreBlanks (rest.length + 1) (dropSpace ignoreBlanks rest)).map
        fun (name, rest) =>
          let (query, otherValue) := PropertyQuery.ofName name
          (.property query (negated != otherValue), rest)
  | c :: rest =>
      if c = '\\' then none else some (.property (.named (String.singleton c)) negated, rest)

/-! ## Escapes -/

def isEdgeChar (c : Char) : Bool :=
  c.isAlpha || c = '-'

def readEdgeName (ignoreBlanks : Bool) : Nat → Reader (List Char)
  | 0, _ => none
  | _ + 1, [] => none
  | fuel + 1, c :: rest =>
      if c = '}' then some ([], rest)
      else if isEdgeChar c then
        (readEdgeName ignoreBlanks fuel (dropSpace ignoreBlanks rest)).map
          fun (name, rest) => (c :: name, rest)
      else none

def wordEdge? (name : String) : Option Assertion :=
  match name with
  | "start" => some .wordStart
  | "end" => some .wordEnd
  | "start-half" => some .wordStartHalf
  | "end-half" => some .wordEndHalf
  | _ => none

/-- What follows the escape of a word boundary: the name of an edge in braces, or
nothing that belongs to it. -/
def readWordEdge (ignoreBlanks : Bool) : Reader Assertion := fun cs =>
  match cs with
  | '{' :: rest =>
      match dropSpace ignoreBlanks rest with
      | [] => none
      | c :: more =>
          if isEdgeChar c then do
            let (name, rest) ← readEdgeName ignoreBlanks (more.length + 2) (c :: more)
            let edge ← wordEdge? (String.ofList name)
            some (edge, rest)
          else some (.wordBoundary, cs)
  | _ => some (.wordBoundary, cs)

/-- Whether an escape may name a character that needs none: any character of
ASCII that is no letter, no digit and no angle bracket. -/
def standsForItself (c : Char) : Bool :=
  c.toNat < 0x80 && !c.isAlphanum && c ≠ '<' && c ≠ '>'

def readEscape (ignoreBlanks : Bool) : Reader Leaf := fun cs =>
  match cs with
  | [] => none
  | c :: rest =>
      let literal (char : Char) : Option (Leaf × List Char) := some (.literal { char }, rest)
      let assertion (kind : Assertion) : Option (Leaf × List Char) :=
        some (.assertion kind, rest)
      let short (kind : ShortClass) (negated : Bool) : Option (Leaf × List Char) :=
        some (.short kind negated, rest)
      match c with
      | 'x' => (readHex ignoreBlanks 2 rest).map fun (found, rest) => (.literal found, rest)
      | 'u' => (readHex ignoreBlanks 4 rest).map fun (found, rest) => (.literal found, rest)
      | 'U' => (readHex ignoreBlanks 8 rest).map fun (found, rest) => (.literal found, rest)
      | 'p' => readProperty ignoreBlanks false rest
      | 'P' => readProperty ignoreBlanks true rest
      | 'd' => short .digit false
      | 'D' => short .digit true
      | 's' => short .space false
      | 'S' => short .space true
      | 'w' => short .word false
      | 'W' => short .word true
      | 'a' => literal '\x07'
      | 'f' => literal '\x0c'
      | 't' => literal '\t'
      | 'n' => literal '\n'
      | 'r' => literal '\r'
      | 'v' => literal '\x0b'
      | 'A' => assertion .textStart
      | 'z' => assertion .textEnd
      | 'b' => (readWordEdge ignoreBlanks rest).map
          fun (edge, rest) => (.assertion edge, rest)
      | 'B' => assertion .noWordBoundary
      | '<' => assertion .wordStart
      | '>' => assertion .wordEnd
      | _ => if standsForItself c then literal c else none

/-! ## Repetition counts -/

def readDigits (ignoreBlanks : Bool) : Nat → List Char → List Char × List Char
  | 0, cs => ([], cs)
  | _ + 1, [] => ([], [])
  | fuel + 1, c :: rest =>
      if c.isDigit then
        let (digits, rest) := readDigits ignoreBlanks fuel (dropSpace ignoreBlanks rest)
        (c :: digits, rest)
      else ([], c :: rest)

def readCount (ignoreBlanks : Bool) : Reader Nat := fun cs =>
  let start := Text.dropBlanks cs
  let (digits, rest) := readDigits ignoreBlanks start.length start
  let count := Text.decimalValue digits
  if digits = [] ∨ 2 ^ (32 : Nat) ≤ count then none
  else some (count, dropSpace ignoreBlanks (Text.dropBlanks rest))

def readBounds (ignoreBlanks : Bool) : Reader (Nat × Option Nat) := fun cs => do
  let (least, rest) ← readCount ignoreBlanks (dropSpace ignoreBlanks cs)
  match rest with
  | '}' :: rest => some ((least, some least), rest)
  | ',' :: rest =>
      match dropSpace ignoreBlanks rest with
      | '}' :: rest => some ((least, none), rest)
      | rest => do
          let (most, rest) ← readCount ignoreBlanks rest
          match rest with
          | '}' :: rest => if least ≤ most then some ((least, some most), rest) else none
          | _ => none
  | _ => none

/-! ## Groups -/

def flag? : Char → Option Flag
  | 'i' => some .ignoreCase
  | 'm' => some .multiLine
  | 's' => some .dotAll
  | 'U' => some .swapGreed
  | 'u' => some .unicode
  | 'R' => some .crlf
  | 'x' => some .ignoreBlanks
  | _ => none

/-- Flags up to a colon or a closing parenthesis, and whether it was a colon.  A
flag occurs once, a minus once, and a flag follows the minus. -/
def readFlags (changes : FlagChanges) (negated dangling : Bool) :
    Reader (FlagChanges × Bool)
  | [] => none
  | c :: rest =>
      if c = ':' ∨ c = ')' then
        if dangling then none else some ((changes.reverse, c = ':'), rest)
      else if c = '-' then
        if negated then none else readFlags changes true true rest
      else
        (flag? c).bind fun flag =>
          if changes.any fun change => change.1 == flag then none
          else readFlags ((flag, !negated) :: changes) negated false rest

def isNameChar (first : Bool) (c : Char) : Bool :=
  if first then c = '_' || Text.letters.has c.toNat
  else
    c = '_' || c = '.' || c = '[' || c = ']' || Text.lettersAndDigits.has c.toNat

def readName (first : Bool) : Reader (List Char)
  | [] => none
  | c :: rest =>
      if c = '>' then some ([], rest)
      else if isNameChar first c then
        (readName false rest).map fun (name, rest) => (c :: name, rest)
      else none

end Regex

end DocQuery
