/-!
# Finite binary64 numbers

A finite double-precision number is a sign and a rank: the position of its
magnitude among all finite magnitudes, which is also the number that its bits
below the sign spell.  Each finite magnitude is a whole multiple of `2 ^ -1074`,
so ordering, equality and remainder are exact integer arithmetic on `units`.
-/

namespace DocQuery

-- Powers are those of the core library, whatever algebra is imported beside them.
attribute [local instance (high)] instPowNat

/-- One is `2 ^ unitExponent` units. -/
def Binary64.unitExponent : Nat := 1074

def Binary64.rankBound : Nat := 2047 * 2 ^ (52 : Nat)

/-- A finite double-precision number; zero has two signs. -/
structure Binary64 where
  /-- The sign bit. -/
  negative : Bool
  /-- How many finite magnitudes lie below this one. -/
  rank : Nat
  rank_lt : rank < Binary64.rankBound := by decide
deriving DecidableEq

namespace Binary64

/-! ## Exact value -/

/-- The magnitude of a rank, counted in multiples of `2 ^ -1074`. -/
def unitsOfRank (rank : Nat) : Nat :=
  if rank < 2 ^ (52 : Nat) then rank
  else (2 ^ (52 : Nat) + rank % 2 ^ (52 : Nat)) * 2 ^ (rank / 2 ^ (52 : Nat) - 1)

def units (x : Binary64) : Int :=
  if x.negative then - (unitsOfRank x.rank : Int) else (unitsOfRank x.rank : Int)

def zero (negative : Bool) : Binary64 where
  negative := negative
  rank := 0

def compare (x y : Binary64) : Ordering :=
  Ord.compare x.units y.units

def sameValue (x y : Binary64) : Bool :=
  x.units == y.units

/-- Whether the remainder of `x` by `divisor`, with the sign of `x`, is `y`.
No number is the remainder of a division by zero. -/
def isRemainder (x divisor y : Binary64) : Bool :=
  divisor.units != 0 && Int.tmod x.units divisor.units == y.units

/-! ## Rounding to nearest -/

def roundQuotient (num den : Nat) : Nat :=
  let floor := num / den
  let rest := 2 * (num % den)
  if rest < den then floor
  else if den < rest then floor + 1
  else if floor % 2 = 0 then floor
  else floor + 1

def rankOfUnits (num den : Nat) : Nat :=
  let shift := Nat.log2 (num / den) - 52
  shift * 2 ^ (52 : Nat) + roundQuotient num (den * 2 ^ shift)

/-- The rank nearest to `num / den`, a half to the even rank. -/
def nearestRank (num den : Nat) : Nat :=
  rankOfUnits (num * 2 ^ unitExponent) den

def ofQuotient? (negative : Bool) (num den : Nat) : Option Binary64 :=
  if h : nearestRank num den < rankBound then
    some { negative := negative, rank := nearestRank num den, rank_lt := h }
  else none

/-- The double nearest to `digits * 10 ^ exponent`, unless that is too large.
Magnitudes far outside the range are settled by the place of the first digit. -/
def ofDecimal? (negative : Bool) (digits : Nat) (exponent : Int) : Option Binary64 :=
  if digits = 0 then some (zero negative)
  else
    let place := exponent + (Nat.log2 digits : Int) * 30103 / 100000
    if place > 310 then none
    else if place < -345 then some (zero negative)
    else if 0 ≤ exponent then ofQuotient? negative (digits * 10 ^ exponent.toNat) 1
    else ofQuotient? negative digits (10 ^ (-exponent).toNat)

/-! ## Integers -/

theorem roundQuotient_le (num den : Nat) : roundQuotient num den ≤ num / den + 1 := by
  unfold roundQuotient
  dsimp only
  split
  · omega
  · split
    · omega
    · split <;> omega

theorem rankOfUnits_lt {num : Nat} (h : Nat.log2 num ≤ 1137) :
    rankOfUnits num 1 < rankBound := by
  have hfloor : num / 2 ^ (Nat.log2 num - 52) < 2 ^ (53 : Nat) := by
    apply Nat.div_lt_of_lt_mul
    rw [← Nat.pow_add]
    have hself : num < 2 ^ (Nat.log2 num + 1) := Nat.lt_log2_self
    exact Nat.lt_of_lt_of_le hself
      (Nat.pow_le_pow_right (by omega) (by omega))
  have hround := roundQuotient_le num (2 ^ (Nat.log2 num - 52))
  have hshift : (Nat.log2 num - 52) * 2 ^ (52 : Nat) ≤ 1085 * 2 ^ (52 : Nat) :=
    Nat.mul_le_mul_right _ (by omega)
  simp only [rankOfUnits, rankBound, Nat.div_one, Nat.one_mul]
  omega

theorem log2_mul_two_pow_le {n k : Nat} (h : n < 2 ^ (64 : Nat)) :
    Nat.log2 (n * 2 ^ k) ≤ 63 + k := by
  by_cases hzero : n * 2 ^ k = 0
  · rw [hzero, Nat.log2_zero]
    omega
  · have hlt : n * 2 ^ k < 2 ^ (64 + k) := by
      rw [Nat.pow_add]
      exact Nat.mul_lt_mul_of_pos_right h (Nat.two_pow_pos k)
    have := (Nat.log2_lt hzero).mpr hlt
    omega

theorem nearestRank_lt_rankBound {n : Nat} (h : n < 2 ^ (64 : Nat)) :
    nearestRank n 1 < rankBound :=
  rankOfUnits_lt (Nat.le_trans (log2_mul_two_pow_le h) (by decide))

def ofInt (n : Int) (h : n.natAbs < 2 ^ (64 : Nat)) : Binary64 where
  negative := decide (n < 0)
  rank := nearestRank n.natAbs 1
  rank_lt := nearestRank_lt_rankBound h

end Binary64

end DocQuery
