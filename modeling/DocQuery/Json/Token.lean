import DocQuery.Json
import DocQuery.Text.Digits

/-!
# Tokens of JSON text

The lexical grammar, as a fold over the characters.  Strings and numbers keep
what was written: a string can name half of a surrogate pair and a number can
be too large, and whether that matters is for the reader of the value to say.
-/

namespace DocQuery

namespace Json

/-- A written character of a string: itself, or the code unit of an escape. -/
inductive Piece
  | char (c : Char)
  | unit (code : Nat)
deriving DecidableEq

inductive Token
  | openArray
  | closeArray
  | openObject
  | closeObject
  | comma
  | colon
  | null
  | bool (value : Bool)
  | number (literal : Number.Literal)
  | string (pieces : List Piece)
deriving DecidableEq

/-! ## Written strings -/

/-- The characters that pieces spell; a code unit of a surrogate pair must stand
in a pair. -/
def Piece.decode : List Piece → Option (List Char)
  | [] => some []
  | .char c :: rest => (decode rest).map (c :: ·)
  | .unit high :: .unit low :: rest =>
      if 0xD800 ≤ high ∧ high < 0xDC00 then
        if 0xDC00 ≤ low ∧ low < 0xE000 then
          (decode rest).map
            (Char.ofNat (0x10000 + (high - 0xD800) * 0x400 + (low - 0xDC00)) :: ·)
        else none
      else if 0xDC00 ≤ high ∧ high < 0xE000 then none
      else (decode (.unit low :: rest)).map (Char.ofNat high :: ·)
  | .unit code :: rest =>
      if 0xD800 ≤ code ∧ code < 0xE000 then none
      else (decode rest).map (Char.ofNat code :: ·)

def Piece.text? (pieces : List Piece) : Option String :=
  (decode pieces).map String.ofList

def unescape? : Char → Option Char
  | '"' => some '"'
  | '\\' => some '\\'
  | '/' => some '/'
  | 'b' => some '\x08'
  | 'f' => some '\x0c'
  | 'n' => some '\n'
  | 'r' => some '\r'
  | 't' => some '\t'
  | _ => none

/-! ## Scanning -/

namespace Lexer

/-- What is being read; pieces and characters are newest first. -/
inductive Mode
  | between
  | inString (pieces : List Piece)
  | escaped (pieces : List Piece)
  | codeUnit (pieces : List Piece) (left value : Nat)
  | inNumber (cs : List Char)
  | inWord (cs : List Char)

structure State where
  tokens : List Token
  mode : Mode

def isBlank (c : Char) : Bool :=
  c = ' ' || c = '\t' || c = '\n' || c = '\r'

def isNumberPart (c : Char) : Bool :=
  c.isDigit || c = '+' || c = '-' || c = '.' || c = 'e' || c = 'E'

def mark? : Char → Option Token
  | '[' => some .openArray
  | ']' => some .closeArray
  | '{' => some .openObject
  | '}' => some .closeObject
  | ',' => some .comma
  | ':' => some .colon
  | _ => none

def word? (cs : List Char) : Option Token :=
  if cs = ['n', 'u', 'l', 'l'] then some .null
  else if cs = ['t', 'r', 'u', 'e'] then some (.bool true)
  else if cs = ['f', 'a', 'l', 's', 'e'] then some (.bool false)
  else none

def start (tokens : List Token) (c : Char) : Option State :=
  if isBlank c then some { tokens, mode := .between }
  else if c = '"' then some { tokens, mode := .inString [] }
  else if c = '-' || c.isDigit then some { tokens, mode := .inNumber [c] }
  else if c.isLower then some { tokens, mode := .inWord [c] }
  else (mark? c).map fun token => { tokens := token :: tokens, mode := .between }

def settle : State → Option (List Token)
  | { tokens, mode := .between } => some tokens
  | { tokens, mode := .inNumber cs } =>
      (Number.Literal.ofChars? cs.reverse).map fun literal => .number literal :: tokens
  | { tokens, mode := .inWord cs } => (word? cs.reverse).map (· :: tokens)
  | _ => none

def step (state : State) (c : Char) : Option State :=
  match state.mode with
  | .inString pieces =>
      if c = '"' then
        some { tokens := .string pieces.reverse :: state.tokens, mode := .between }
      else if c = '\\' then some { state with mode := .escaped pieces }
      else if c.toNat < 0x20 then none
      else some { state with mode := .inString (.char c :: pieces) }
  | .escaped pieces =>
      if c = 'u' then some { state with mode := .codeUnit pieces 4 0 }
      else (unescape? c).map fun d => { state with mode := .inString (.char d :: pieces) }
  | .codeUnit pieces left value =>
      (Text.hexValue? c).map fun digit =>
        let value := 16 * value + digit
        if left ≤ 1 then { state with mode := .inString (.unit value :: pieces) }
        else { state with mode := .codeUnit pieces (left - 1) value }
  | .inNumber cs =>
      if isNumberPart c then some { state with mode := .inNumber (c :: cs) }
      else (settle state).bind (start · c)
  | .inWord cs =>
      if c.isLower then some { state with mode := .inWord (c :: cs) }
      else (settle state).bind (start · c)
  | .between => start state.tokens c

end Lexer

/-- The tokens of a text, or `none` when it is not made of tokens. -/
def tokens? (cs : List Char) : Option (List Token) := do
  let state ← cs.foldlM Lexer.step { tokens := [], mode := .between }
  let tokens ← Lexer.settle state
  some tokens.reverse

end Json

end DocQuery
