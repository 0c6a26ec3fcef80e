import DocQuery.Number.Shortest
import DocQuery.Text.Digits

/-!
# Numbers of documents

An integer literal in the range of 64-bit words stays an integer; every other
literal is a finite double.  `1` and `1.0` are different numbers with the same
value.
-/

namespace DocQuery

-- Powers are those of the core library, whatever algebra is imported beside them.
attribute [local instance (high)] instPowNat

inductive Number
  | int (value : Int) (lower : -2 ^ (63 : Nat) ≤ value) (upper : value < 2 ^ (64 : Nat))
  | float (value : Binary64)
deriving DecidableEq

namespace Number

def ofInt? (value : Int) : Option Number :=
  if h : -2 ^ (63 : Nat) ≤ value ∧ value < 2 ^ (64 : Nat) then some (.int value h.1 h.2)
  else none

/-- A count of things, kept to the range of 64-bit words. -/
def ofNat (n : Nat) : Number :=
  .int (n % 2 ^ (64 : Nat) : Nat) (by omega) (by omega)

def toBinary64 : Number → Binary64
  | .int value lower upper => Binary64.ofInt value (by omega)
  | .float value => value

def signed? : Number → Option Int
  | .int value _ _ => if value < 2 ^ (63 : Nat) then some value else none
  | .float _ => none

def unsigned? : Number → Option Int
  | .int value _ _ => if 0 ≤ value then some value else none
  | .float _ => none

/-! ## Equality and order -/

/-- Equality by value: exact between two signed or two unsigned words, and
between the nearest doubles otherwise. -/
def sameValue (a b : Number) : Bool :=
  match a.signed?, b.signed? with
  | some x, some y => x == y
  | _, _ =>
      match a.unsigned?, b.unsigned? with
      | some x, some y => x == y
      | _, _ => a.toBinary64.sameValue b.toBinary64

/-- Order by value: exact between two signed words, and between the nearest
doubles otherwise. -/
def compare (a b : Number) : Ordering :=
  match a.signed?, b.signed? with
  | some x, some y => Ord.compare x y
  | _, _ => a.toBinary64.compare b.toBinary64

/-- Equality of what is written: the same integer, or doubles of the same value. -/
def sameWritten : Number → Number → Bool
  | .int a _ _, .int b _ _ => a == b
  | .float a, .float b => a.sameValue b
  | _, _ => false

/-! ## Text -/

def text : Number → String
  | .int value _ _ => toString value
  | .float value => value.text

structure Literal where
  negative : Bool
  whole : List Char
  /-- The digits after the point, when there is a point. -/
  fraction : Option (List Char)
  /-- The sign and the digits of the exponent, when there is one. -/
  exponent : Option (Bool × List Char)
deriving DecidableEq

namespace Literal

def takeDigits (cs : List Char) : List Char × List Char :=
  (cs.takeWhile Char.isDigit, cs.dropWhile Char.isDigit)

def takeSign : List Char → Bool × List Char
  | '-' :: rest => (true, rest)
  | '+' :: rest => (false, rest)
  | rest => (false, rest)

def readFraction : List Char → Option (Option (List Char) × List Char)
  | '.' :: rest =>
      let (digits, rest) := takeDigits rest
      if digits = [] then none else some (some digits, rest)
  | rest => some (none, rest)

def readExponent : List Char → Option (Option (Bool × List Char) × List Char)
  | [] => some (none, [])
  | c :: rest =>
      if c = 'e' ∨ c = 'E' then
        let (negative, rest) := takeSign rest
        let (digits, rest) := takeDigits rest
        if digits = [] then none else some (some (negative, digits), rest)
      else some (none, c :: rest)

/-- Whether digits stand before a point: at least one, and a zero alone. -/
def isWhole (digits : List Char) : Bool :=
  digits ≠ [] && (digits = ['0'] || digits.head? ≠ some '0')

def read? (cs : List Char) : Option (Literal × List Char) := do
  let (negative, body) : Bool × List Char :=
    match cs with
    | '-' :: rest => (true, rest)
    | _ => (false, cs)
  let (whole, rest) := takeDigits body
  if isWhole whole then
    let (fraction, rest) ← readFraction rest
    let (exponent, rest) ← readExponent rest
    some ({ negative, whole, fraction, exponent }, rest)
  else none

def ofChars? (cs : List Char) : Option Literal :=
  match read? cs with
  | some (literal, []) => some literal
  | _ => none

/-- The double nearest to a literal, unless that is too large.  The value is rounded once.  A
reader that makes doubles of the digits and of the power of ten first, and then divides them,
rounds up to three times, and reads `0.9452706955539223` as the neighbour of this double. -/
def toBinary64? (literal : Literal) : Option Binary64 :=
  let fraction := literal.fraction.getD []
  let exponent : Int :=
    match literal.exponent with
    | some (true, digits) => - (Text.decimalValue digits : Int)
    | some (false, digits) => Text.decimalValue digits
    | none => 0
  Binary64.ofDecimal? literal.negative (Text.decimalValue (literal.whole ++ fraction))
    (exponent - fraction.length)

/-- The number of a literal: a plain integer in range is one, except that minus
zero is a double; a double must be finite. -/
def toNumber? (literal : Literal) : Option Number :=
  let plain : Option Number :=
    if literal.fraction.isNone ∧ literal.exponent.isNone then
      let magnitude := Text.decimalValue literal.whole
      if literal.negative then
        if magnitude = 0 then none else ofInt? (-magnitude)
      else ofInt? magnitude
    else none
  match plain with
  | some number => some number
  | none => literal.toBinary64?.map .float

end Literal

end Number

end DocQuery
