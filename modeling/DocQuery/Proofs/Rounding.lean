import DocQuery.Number.Binary64

/-!
# Rounding to nearest, a half to even

Within a binade ranks count the multiples of one power of two, and the magnitudes above it
are such multiples too.  So the nearest rank is that of the nearest multiple, which is the
rounded quotient.
-/

namespace DocQuery

-- Powers are those of the core library, whatever algebra is imported beside them.
attribute [local instance (high)] instPowNat

namespace Binary64

/-- Whether the value at `i` is nearest to `x` among all values, and the code of `i` is even
if another value is as near. -/
structure NearestEven {ι : Type} (value : ι → Int) (code : ι → Nat) (x : Int) (i : ι) :
    Prop where
  nearest : ∀ j, (x - value i).natAbs ≤ (x - value j).natAbs
  even : ∀ j, (x - value j).natAbs = (x - value i).natAbs → value j ≠ value i →
    code i % 2 = 0

/-! ## Quotients -/

theorem roundQuotient_cases {den : Nat} (hden : 0 < den) (num : Nat) :
    (roundQuotient num den = num / den ∧ 2 * (num % den) ≤ den ∧
        (2 * (num % den) = den → num / den % 2 = 0)) ∨
      (roundQuotient num den = num / den + 1 ∧ den ≤ 2 * (num % den) ∧
        (2 * (num % den) = den → (num / den + 1) % 2 = 0)) := by
  have hrest := Nat.mod_lt num hden
  unfold roundQuotient
  dsimp only
  split
  · exact .inl (by omega)
  · split
    · exact .inr (by omega)
    · split
      · exact .inl (by omega)
      · exact .inr (by omega)

theorem multiple_cases (den floor k : Nat) :
    k = floor ∨ k = floor + 1 ∨ k * den + den ≤ floor * den ∨
      floor * den + 2 * den ≤ k * den := by
  have hbelow : k + 1 ≤ floor → (k + 1) * den ≤ floor * den := Nat.mul_le_mul_right den
  have habove : floor + 2 ≤ k → (floor + 2) * den ≤ k * den := Nat.mul_le_mul_right den
  rw [Nat.add_mul, Nat.one_mul] at hbelow
  rw [Nat.add_mul] at habove
  omega

theorem nearestEven_roundQuotient {den : Nat} (hden : 0 < den) (num : Nat) :
    NearestEven (fun k => ((k * den : Nat) : Int)) id num (roundQuotient num den) := by
  have hsplit := Nat.div_add_mod' num den
  have hrest := Nat.mod_lt num hden
  have hnext : (num / den + 1) * den = num / den * den + den := by
    rw [Nat.add_mul, Nat.one_mul]
  obtain ⟨hround, hside, heven⟩ | ⟨hround, hside, heven⟩ := roundQuotient_cases hden num
  all_goals
    rw [hround]
    constructor
    · intro k
      rcases multiple_cases den (num / den) k with rfl | rfl | hk | hk <;> omega
    · intro k htie hne
      rcases multiple_cases den (num / den) k with rfl | rfl | hk | hk <;>
        first | exact absurd rfl hne | exact heven (by omega)

/-! ## Ranks -/

/-- Each rank is that of a multiple of a power of two, of at most 53 bits. -/
theorem exists_rank_eq (rank : Nat) :
    ∃ shift digits, rank = shift * 2 ^ (52 : Nat) + digits ∧ digits < 2 ^ (53 : Nat) ∧
      (2 ^ (52 : Nat) ≤ digits ∨ shift = 0) := by
  refine ⟨rank / 2 ^ (52 : Nat) - 1,
    rank - (rank / 2 ^ (52 : Nat) - 1) * 2 ^ (52 : Nat), ?_⟩
  omega

/-- A multiple of a power of two has the rank that its digits have in their binade. -/
theorem unitsOfRank_eq {shift digits : Nat} (hdigits : digits ≤ 2 ^ (53 : Nat))
    (hfull : 2 ^ (52 : Nat) ≤ digits ∨ shift = 0) :
    unitsOfRank (shift * 2 ^ (52 : Nat) + digits) = digits * 2 ^ shift := by
  unfold unitsOfRank
  by_cases hsmall : shift * 2 ^ (52 : Nat) + digits < 2 ^ (52 : Nat)
  · have hshift : shift = 0 := by omega
    rw [if_pos hsmall, hshift, Nat.zero_mul, Nat.zero_add, Nat.pow_zero, Nat.mul_one]
  · rw [if_neg hsmall]
    by_cases htop : digits = 2 ^ (53 : Nat)
    · -- The digits overflow: the first rank of the next binade.
      have hdiv : (shift * 2 ^ (52 : Nat) + digits) / 2 ^ (52 : Nat) - 1 = shift + 1 := by omega
      have hmod : (shift * 2 ^ (52 : Nat) + digits) % 2 ^ (52 : Nat) = 0 := by omega
      have hpow : 2 ^ (shift + 1) = 2 ^ shift * 2 := by rw [Nat.pow_succ]
      rw [hdiv, hmod, htop, hpow]
      omega
    · have hdiv : (shift * 2 ^ (52 : Nat) + digits) / 2 ^ (52 : Nat) - 1 = shift := by omega
      have hmod : 2 ^ (52 : Nat) + (shift * 2 ^ (52 : Nat) + digits) % 2 ^ (52 : Nat) =
          digits := by omega
      rw [hdiv, hmod]

theorem unitsOfRank_cases (shift rank : Nat) :
    (∃ k, unitsOfRank rank = k * 2 ^ shift) ∨
      (0 < shift ∧ unitsOfRank rank < 2 ^ (52 : Nat) * 2 ^ shift) := by
  obtain ⟨own, digits, hrank, hdigits, hfull⟩ := exists_rank_eq rank
  have hunits := unitsOfRank_eq (Nat.le_of_lt hdigits) hfull
  rw [hrank, hunits]
  by_cases hshift : shift ≤ own
  · refine .inl ⟨digits * 2 ^ (own - shift), ?_⟩
    rw [Nat.mul_assoc, ← Nat.pow_add, Nat.sub_add_cancel hshift]
  · refine .inr ⟨by omega, ?_⟩
    calc digits * 2 ^ own
        < 2 ^ (53 : Nat) * 2 ^ own := Nat.mul_lt_mul_of_pos_right hdigits (Nat.two_pow_pos own)
      _ = 2 ^ (52 : Nat) * 2 ^ (own + 1) := by
          have hpow : 2 ^ (own + 1) = 2 ^ own * 2 := by rw [Nat.pow_succ]
          omega
      _ ≤ 2 ^ (52 : Nat) * 2 ^ shift :=
          Nat.mul_le_mul_left _ (Nat.pow_le_pow_right (by omega) (by omega))

/-- The binade of a quotient: its whole part has 53 bits, fewer only in the lowest one. -/
theorem quotient_binade (num den : Nat) :
    num / den / 2 ^ (Nat.log2 (num / den) - 52) < 2 ^ (53 : Nat) ∧
      (2 ^ (52 : Nat) ≤ num / den / 2 ^ (Nat.log2 (num / den) - 52) ∨
        Nat.log2 (num / den) - 52 = 0) := by
  generalize num / den = floor
  have hupper : floor < 2 ^ (Nat.log2 floor + 1) := Nat.lt_log2_self
  constructor
  · apply Nat.div_lt_of_lt_mul
    rw [← Nat.pow_add]
    exact Nat.lt_of_lt_of_le hupper (Nat.pow_le_pow_right (by omega) (by omega))
  · by_cases hlow : Nat.log2 floor ≤ 52
    · exact .inr (by omega)
    · have hne : floor ≠ 0 := by
        rintro rfl
        rw [Nat.log2_zero] at hlow
        omega
      rw [Nat.le_div_iff_mul_le (Nat.two_pow_pos _), ← Nat.pow_add,
        show 52 + (Nat.log2 floor - 52) = Nat.log2 floor by omega]
      exact .inl (Nat.log2_self_le hne)

theorem nearestEven_rankOfUnits {den : Nat} (hden : 0 < den) (num : Nat) :
    NearestEven (fun rank => ((unitsOfRank rank * den : Nat) : Int)) id num
      (rankOfUnits num den) := by
  obtain ⟨hupper, hlower⟩ := quotient_binade num den
  unfold rankOfUnits
  generalize Nat.log2 (num / den) - 52 = shift at *
  rw [Nat.div_div_eq_div_mul] at hupper hlower
  have hstep : 0 < den * 2 ^ shift := Nat.mul_pos hden (Nat.two_pow_pos shift)
  have hround := nearestEven_roundQuotient hstep num
  have hunits : unitsOfRank (shift * 2 ^ (52 : Nat) + roundQuotient num (den * 2 ^ shift)) =
      roundQuotient num (den * 2 ^ shift) * 2 ^ shift := by
    obtain ⟨hfloor, _, _⟩ | ⟨hfloor, _, _⟩ := roundQuotient_cases hstep num
    all_goals exact unitsOfRank_eq (by omega) (by omega)
  have hmultiple (k : Nat) : k * 2 ^ shift * den = k * (den * 2 ^ shift) := by
    rw [Nat.mul_assoc, Nat.mul_comm den]
  -- What lies below the binade is farther than its first multiple.
  have hbelow {rank : Nat} (hshift : 0 < shift)
      (hrank : unitsOfRank rank < 2 ^ (52 : Nat) * 2 ^ shift) :
      unitsOfRank rank * den < 2 ^ (52 : Nat) * (den * 2 ^ shift) ∧
        2 ^ (52 : Nat) * (den * 2 ^ shift) ≤ num := by
    constructor
    · rw [← hmultiple]
      exact Nat.mul_lt_mul_of_pos_right hrank hden
    · exact (Nat.le_div_iff_mul_le hstep).mp (by omega)
  constructor
  · intro rank
    dsimp only
    rw [hunits, hmultiple]
    rcases unitsOfRank_cases shift rank with ⟨k, hk⟩ | ⟨hshift, hrank⟩
    · rw [hk, hmultiple]
      exact hround.nearest k
    · have hfirst := hround.nearest (2 ^ (52 : Nat))
      have := hbelow hshift hrank
      omega
  · intro rank htie hne
    dsimp only at htie hne
    rw [hunits, hmultiple] at htie hne
    have heven : roundQuotient num (den * 2 ^ shift) % 2 = 0 := by
      rcases unitsOfRank_cases shift rank with ⟨k, hk⟩ | ⟨hshift, hrank⟩
      · rw [hk, hmultiple] at htie hne
        exact hround.even k htie hne
      · have hfirst := hround.nearest (2 ^ (52 : Nat))
        have := hbelow hshift hrank
        omega
    simp only [id]
    omega

/-! ## Integers -/

theorem units_eq (x : Binary64) :
    x.units = unitsOfRank x.rank ∨ x.units = - (unitsOfRank x.rank : Int) := by
  unfold units
  split
  · exact .inr rfl
  · exact .inl rfl

/-- An integer is converted to a nearest double, from the middle between two to the one with
even digits. -/
theorem nearestEven_ofInt (n : Int) (h : n.natAbs < 2 ^ (64 : Nat)) :
    NearestEven units rank (n * (2 ^ unitExponent : Nat)) (ofInt n h) := by
  have hrank := nearestEven_rankOfUnits Nat.one_pos (n.natAbs * 2 ^ unitExponent)
  simp only [Nat.mul_one] at hrank
  have hzero : unitsOfRank 0 = 0 := rfl
  have horigin := hrank.nearest 0
  have hscaled : n * (2 ^ unitExponent : Nat) = if n < 0
      then - ((n.natAbs * 2 ^ unitExponent : Nat) : Int)
      else ((n.natAbs * 2 ^ unitExponent : Nat) : Int) := by
    split
    · rw [Int.natCast_mul, ← Int.neg_mul]
      congr 1
      omega
    · rw [Int.natCast_mul]
      congr 1
      omega
  have hunits : (ofInt n h).units = if n < 0
      then - (unitsOfRank (rankOfUnits (n.natAbs * 2 ^ unitExponent) 1) : Int)
      else (unitsOfRank (rankOfUnits (n.natAbs * 2 ^ unitExponent) 1) : Int) := by
    simp [units, ofInt, nearestRank]
  have hcode : (ofInt n h).rank = rankOfUnits (n.natAbs * 2 ^ unitExponent) 1 := rfl
  rw [hscaled]
  generalize n.natAbs * 2 ^ unitExponent = magnitude at *
  -- A double of the other sign is no nearer than zero.
  constructor
  · intro y
    have hy := hrank.nearest y.rank
    rw [hunits]
    rcases units_eq y with heq | heq <;> rw [heq] <;> split <;> omega
  · intro y htie hne
    rw [hunits] at htie hne
    have heven := hrank.even y.rank
    rw [id] at heven
    rw [hcode]
    rcases units_eq y with heq | heq <;> rw [heq] at htie hne <;> split at htie <;> omega

theorem units_ofInt_pos {n : Int} (h : n.natAbs < 2 ^ (64 : Nat)) (hpos : 0 < n) :
    0 < (ofInt n h).units := by
  -- Zero is farther than the least positive double.
  have hleast := (nearestEven_ofInt n h).nearest { negative := false, rank := 1 }
  have hunits : ({ negative := false, rank := 1 } : Binary64).units = 1 := rfl
  have hscaled : 0 < n * (2 ^ unitExponent : Nat) :=
    Int.mul_pos hpos (Int.natCast_pos.mpr (Nat.two_pow_pos unitExponent))
  rw [hunits] at hleast
  omega

theorem units_ofInt_nonpos {n : Int} (h : n.natAbs < 2 ^ (64 : Nat)) (hneg : n < 0) :
    (ofInt n h).units ≤ 0 := by
  simp only [units, ofInt, hneg, decide_true, if_true]
  omega

/-- Each integer of at most 53 bits, and the next one, is the value of a double. -/
theorem exists_units_eq {n : Nat} (h : n ≤ 2 ^ (53 : Nat)) :
    ∃ x : Binary64, x.units = ((n * 2 ^ unitExponent : Nat) : Int) := by
  by_cases hzero : n = 0
  · refine ⟨zero false, ?_⟩
    rw [hzero, Nat.zero_mul]
    rfl
  -- The digits fill their 53 bits once the integer is shifted by what it lacks of them.
  generalize hlack : 52 - Nat.log2 n = lack
  have hlower : 2 ^ (52 : Nat) ≤ n * 2 ^ lack :=
    calc 2 ^ (52 : Nat)
        ≤ 2 ^ (Nat.log2 n + lack) := Nat.pow_le_pow_right (by omega) (by omega)
      _ = 2 ^ Nat.log2 n * 2 ^ lack := Nat.pow_add 2 _ _
      _ ≤ n * 2 ^ lack := Nat.mul_le_mul_right _ (Nat.log2_self_le hzero)
  have hupper : n * 2 ^ lack ≤ 2 ^ (53 : Nat) := by
    by_cases hshort : lack = 0
    · rw [hshort, Nat.pow_zero, Nat.mul_one]
      exact h
    · calc n * 2 ^ lack
          ≤ 2 ^ (Nat.log2 n + 1) * 2 ^ lack :=
            Nat.mul_le_mul_right _ (Nat.le_of_lt Nat.lt_log2_self)
        _ = 2 ^ (Nat.log2 n + 1 + lack) := (Nat.pow_add 2 _ _).symm
        _ ≤ 2 ^ (53 : Nat) := Nat.pow_le_pow_right (by omega) (by omega)
  have hunits : unitsOfRank ((unitExponent - lack) * 2 ^ (52 : Nat) + n * 2 ^ lack) =
      n * 2 ^ lack * 2 ^ (unitExponent - lack) := unitsOfRank_eq hupper (.inl hlower)
  have hexponent : unitExponent = 1074 := rfl
  have hrank : (unitExponent - lack) * 2 ^ (52 : Nat) + n * 2 ^ lack < rankBound := by
    rw [rankBound]
    omega
  refine ⟨{ negative := false, rank := _, rank_lt := hrank }, ?_⟩
  rw [units, if_neg Bool.false_ne_true, hunits, Nat.mul_assoc, ← Nat.pow_add,
    show lack + (unitExponent - lack) = unitExponent by omega]

theorem units_ofInt_of_le {n : Int} (h : n.natAbs < 2 ^ (64 : Nat))
    (hle : n.natAbs ≤ 2 ^ (53 : Nat)) : (ofInt n h).units = n * (2 ^ unitExponent : Nat) := by
  obtain ⟨x, hx⟩ := exists_units_eq hle
  have hnearest := nearestEven_ofInt n h
  rw [Int.natCast_mul] at hx
  by_cases hneg : n < 0
  · have hopposite : ({ x with negative := !x.negative } : Binary64).units = - x.units := by
      cases hsign : x.negative <;> simp [units, hsign]
    have hdistance := hnearest.nearest { x with negative := !x.negative }
    have hvalue : ((n.natAbs : Nat) : Int) = - n := by omega
    rw [hopposite, hx, hvalue, Int.neg_mul] at hdistance
    omega
  · have hdistance := hnearest.nearest x
    have hvalue : ((n.natAbs : Nat) : Int) = n := by omega
    rw [hx, hvalue] at hdistance
    omega

end Binary64

end DocQuery
