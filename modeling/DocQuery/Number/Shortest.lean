import DocQuery.Number.Binary64

/-!
# Shortest decimals

The shortest decimal of a nonzero finite double: the point of the coarsest
power-of-ten grid that has a point in the interval of reals that round to the
number.  Of two such points the nearer one counts, and of two equally near ones
the even one.  The text is positional for moderate magnitudes and scientific
for the others.
-/

namespace DocQuery

-- Powers are those of the core library, whatever algebra is imported beside them.
attribute [local instance (high)] instPowNat

structure Decimal where
  digits : Nat
  exponent : Int
deriving DecidableEq

namespace Binary64

/-! ## The rounding interval -/

/-- Where the reals that round to a rank begin, in halves of a unit. -/
def intervalStart (rank : Nat) : Nat :=
  unitsOfRank (rank - 1) + unitsOfRank rank

def intervalEnd (rank : Nat) : Nat :=
  unitsOfRank rank + unitsOfRank (rank + 1)

def gridSpacing (power : Int) : Nat × Nat :=
  if 0 ≤ power then (10 ^ power.toNat * 2 ^ (unitExponent + 1), 1)
  else (2 ^ (unitExponent + 1), 10 ^ (-power).toNat)

/-- Whether a point of a grid rounds to a rank; the ends of the interval do so
for even ranks. -/
def roundsTo (rank : Nat) (spacing : Nat × Nat) (point : Nat) : Bool :=
  let here := point * spacing.1
  let start := intervalStart rank * spacing.2
  let stop := intervalEnd rank * spacing.2
  if rank % 2 = 0 then decide (start ≤ here ∧ here ≤ stop)
  else decide (start < here ∧ here < stop)

def gridPoint? (rank : Nat) (power : Int) : Option Nat :=
  let spacing := gridSpacing power
  let value := 2 * unitsOfRank rank * spacing.2
  let below := value / spacing.1
  match roundsTo rank spacing below, roundsTo rank spacing (below + 1) with
  | false, false => none
  | true, false => some below
  | false, true => some (below + 1)
  | true, true => some (roundQuotient value spacing.1)

def shortestFrom (rank : Nat) : Nat → Int → Decimal
  | 0, power => { digits := 0, exponent := power }
  | steps + 1, power =>
      match gridPoint? rank power with
      | some point => { digits := point, exponent := power }
      | none => shortestFrom rank steps (power - 1)

/-- The shortest decimal of a positive rank.  The search starts above the first
digit, and no double needs more than seventeen. -/
def shortest (rank : Nat) : Decimal :=
  let exponent : Int := (Nat.log2 (unitsOfRank rank) : Int) - unitExponent
  shortestFrom rank 24 (Int.fdiv ((exponent + 1) * 30103) 100000 + 2)

end Binary64

/-! ## Text -/

namespace Decimal

def zeros (count : Nat) : String :=
  String.ofList (List.replicate count '0')

def pointAfter (digits : List Char) (whole : Nat) : String :=
  String.ofList (digits.take whole ++ '.' :: digits.drop whole)

def exponentText (exponent : Int) : String :=
  if exponent < 0 then "-" ++ toString exponent.natAbs
  else "+" ++ toString exponent.natAbs

/-- Positional when the first digit stands between the fifth place after the
point and the sixteenth place before it, otherwise scientific.  A positional
integer keeps one zero after its point. -/
def text (decimal : Decimal) : String :=
  let digits := Nat.toDigits 10 decimal.digits
  let first : Int := digits.length + decimal.exponent - 1
  if -5 ≤ first ∧ first ≤ 15 then
    if 0 ≤ decimal.exponent then
      String.ofList digits ++ zeros decimal.exponent.toNat ++ ".0"
    else if 0 ≤ first then pointAfter digits (first.toNat + 1)
    else "0." ++ zeros (-first - 1).toNat ++ String.ofList digits
  else
    let mantissa :=
      if digits.length = 1 then String.ofList digits else pointAfter digits 1
    mantissa ++ "e" ++ exponentText first

end Decimal

def Binary64.text (x : Binary64) : String :=
  let magnitude := if x.rank = 0 then "0.0" else (Binary64.shortest x.rank).text
  if x.negative then "-" ++ magnitude else magnitude

end DocQuery
