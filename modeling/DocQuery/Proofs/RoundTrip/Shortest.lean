import DocQuery.Proofs.RoundTrip.Nearest

/-!
# The shortest decimal of a double

A grid no coarser than the step below a double has a point between the middles, and the
search for a grid with such a point ends with one that is.  So the decimal found is read
as the double it was found for.
-/

namespace DocQuery

-- Powers are those of the core library, whatever algebra is imported beside them.
attribute [local instance (high)] instPowNat

namespace Binary64

/-! ## Points of one grid -/

theorem gridSpacing_pos (power : Int) : 0 < (gridSpacing power).1 ∧ 0 < (gridSpacing power).2 := by
  unfold gridSpacing
  split
  · exact ⟨Nat.mul_pos (Nat.pow_pos (by decide)) (Nat.two_pow_pos _), Nat.one_pos⟩
  · exact ⟨Nat.two_pow_pos _, Nat.pow_pos (by decide)⟩

theorem encloses_of_roundsTo {rank point : Nat} {power : Int}
    (h : roundsTo rank (gridSpacing power) point = true) :
    (Decimal.mk point power).RoundsTo rank := by
  have htwice : (Decimal.mk point power).quotient.1 * 2 ^ (unitExponent + 1) =
      point * (gridSpacing power).1 := by
    unfold Decimal.quotient gridSpacing
    dsimp only
    split
    · exact Nat.mul_assoc ..
    · rfl
  have hden : (Decimal.mk point power).quotient.2 = (gridSpacing power).2 := by
    unfold Decimal.quotient gridSpacing
    dsimp only
    split <;> rfl
  unfold roundsTo at h
  unfold Decimal.RoundsTo Encloses
  dsimp only at h ⊢
  rw [htwice, hden]
  by_cases heven : rank % 2 = 0
  · rw [if_pos heven] at h ⊢
    exact of_decide_eq_true h
  · rw [if_neg heven] at h ⊢
    exact of_decide_eq_true h

theorem roundsTo_of_gridPoint? {rank point : Nat} {power : Int}
    (h : gridPoint? rank power = some point) :
    roundsTo rank (gridSpacing power) point = true := by
  unfold gridPoint? at h
  dsimp only at h
  split at h
  · cases h
  · cases h
    assumption
  · cases h
    assumption
  · rename_i hbelow habove
    cases h
    obtain ⟨hround, _, _⟩ | ⟨hround, _, _⟩ := roundQuotient_cases (gridSpacing_pos power).1
      (2 * unitsOfRank rank * (gridSpacing power).2)
    · rw [hround]
      exact hbelow
    · rw [hround]
      exact habove

theorem digits_pos_of_gridPoint? {rank point : Nat} {power : Int} (hrank : 0 < rank)
    (h : gridPoint? rank power = some point) : 0 < point := by
  have hencloses := encloses_of_roundsTo (roundsTo_of_gridPoint? h)
  refine Nat.pos_of_ne_zero fun hzero => ?_
  subst hzero
  have hden := Encloses.den_le hrank hencloses
  unfold Decimal.quotient at hden
  dsimp only at hden
  split at hden
  · omega
  · have hpos : 0 < 10 ^ (-power).toNat := Nat.pow_pos (by decide)
    omega

/-- Of a grid no coarser than the step below a rank, the last point up to the rank rounds to
it. -/
theorem roundsTo_below {rank step width den : Nat} (hwidth : 0 < width) (hden : 0 < den)
    (hstep : unitsOfRank (rank + 1) = unitsOfRank rank + step) (hfine : width ≤ step * den) :
    roundsTo (rank + 1) (width, den) (2 * unitsOfRank (rank + 1) * den / width) = true := by
  have hsplit := Nat.div_add_mod' (2 * unitsOfRank (rank + 1) * den) width
  have hrest := Nat.mod_lt (2 * unitsOfRank (rank + 1) * den) hwidth
  have hnext : unitsOfRank (rank + 1) < unitsOfRank (rank + 1 + 1) := unitsOfRank_lt (by omega)
  have hstart :
      intervalStart (rank + 1) * den + step * den = 2 * unitsOfRank (rank + 1) * den := by
    rw [intervalStart, Nat.add_sub_cancel, ← Nat.add_mul]
    congr 1
    omega
  have hend : 2 * unitsOfRank (rank + 1) * den < intervalEnd (rank + 1) * den := by
    refine Nat.mul_lt_mul_of_pos_right ?_ hden
    rw [intervalEnd]
    omega
  unfold roundsTo
  dsimp only
  split
  · rw [decide_eq_true_eq]
    omega
  · rw [decide_eq_true_eq]
    omega

theorem gridPoint?_ne_none {rank step : Nat} {power : Int}
    (hstep : unitsOfRank (rank + 1) = unitsOfRank rank + step)
    (hfine : (gridSpacing power).1 ≤ step * (gridSpacing power).2) :
    gridPoint? (rank + 1) power ≠ none := by
  obtain ⟨hwidth, hden⟩ := gridSpacing_pos power
  have hbelow := roundsTo_below hwidth hden hstep hfine
  unfold gridPoint?
  dsimp only
  rw [hbelow]
  split <;> simp_all

/-! ## The search -/

/-- The search stops at the first grid with a point; it finds one if one of its grids has. -/
theorem shortestFrom_spec {rank : Nat} (steps : Nat) {power : Int} {tried : Nat}
    (htried : tried < steps) (hfound : gridPoint? rank (power - tried) ≠ none) :
    gridPoint? rank (shortestFrom rank steps power).exponent =
        some (shortestFrom rank steps power).digits ∧
      power - tried ≤ (shortestFrom rank steps power).exponent := by
  induction steps generalizing power tried with
  | zero =>
      exact absurd htried (Nat.not_lt_zero tried)
  | succ steps ih =>
      rw [shortestFrom]
      cases hpoint : gridPoint? rank power with
      | some point =>
          dsimp only
          exact ⟨hpoint, by omega⟩
      | none =>
          cases tried with
          | zero =>
              rw [Int.natCast_zero, Int.sub_zero] at hfound
              exact absurd hpoint hfound
          | succ tried =>
              have hshift : power - (tried + 1 : Nat) = power - 1 - tried := by omega
              rw [hshift] at hfound ⊢
              exact ih (by omega) hfound

theorem log2_unitsOfRank_le {rank : Nat} (h : rank < rankBound) :
    Nat.log2 (unitsOfRank rank) ≤ 2099 := by
  have htwice : unitsOfRank rank < 2 ^ (1024 + (unitExponent + 1)) := by
    have hnext : unitsOfRank rank < unitsOfRank (rank + 1) := unitsOfRank_lt (Nat.lt_succ_self rank)
    have hsplit := Nat.pow_add 2 1024 (unitExponent + 1)
    have hend := intervalEnd_le h
    rw [magnitudeBound, ← hsplit, intervalEnd] at hend
    omega
  by_cases hzero : unitsOfRank rank = 0
  · rw [hzero]
    decide
  · exact Nat.le_of_lt_succ ((Nat.log2_lt hzero).mpr (Nat.lt_trans htwice (by decide +kernel)))

/-- Twenty-one places below the estimate of the first digit a grid is fine enough. -/
theorem gridSpacing_le {bits step : Nat} {power : Int} (hbits : bits ≤ 2099)
    (hpower : power = ((bits : Int) - unitExponent + 1) * 30103 / 100000 - 21)
    (hstep : 2 ^ bits ≤ 2 ^ (53 : Nat) * step) :
    (gridSpacing power).1 ≤ step * (gridSpacing power).2 := by
  have hunit : unitExponent = 1074 := rfl
  have hcancel {width : Nat} (h : 2 ^ (53 : Nat) * width ≤ 2 ^ (53 : Nat) * step) : width ≤ step :=
    Nat.le_of_mul_le_mul_left h (Nat.two_pow_pos 53)
  unfold gridSpacing
  by_cases hsign : 0 ≤ power
  · obtain ⟨p, rfl⟩ := Int.eq_ofNat_of_zero_le hsign
    rw [if_pos hsign, Int.toNat_natCast]
    dsimp only
    have hten : 10 ^ p ≤ 2 ^ (bits - 1142 + 1) := ten_pow_le_two_pow (by omega) (by omega)
    rw [Nat.mul_one]
    refine hcancel ?_
    calc 2 ^ (53 : Nat) * (10 ^ p * 2 ^ (unitExponent + 1))
        ≤ 2 ^ (53 : Nat) * (2 ^ (bits - 1142 + 1) * 2 ^ (unitExponent + 1)) :=
          Nat.mul_le_mul_left _ (Nat.mul_le_mul_right _ hten)
      _ = 2 ^ (53 + (bits - 1142 + 1 + (unitExponent + 1))) := by rw [← Nat.pow_add, ← Nat.pow_add]
      _ ≤ 2 ^ bits := Nat.pow_le_pow_right (by decide) (by omega)
      _ ≤ 2 ^ (53 : Nat) * step := hstep
  · obtain ⟨q, hq⟩ : ∃ q : Nat, power = -q := ⟨(-power).toNat, by omega⟩
    rw [if_neg hsign, hq, Int.neg_neg, Int.toNat_natCast]
    dsimp only
    have hten : 2 ^ (1128 - bits) ≤ 10 ^ q := two_pow_le_ten_pow (by omega)
    refine Nat.le_of_mul_le_mul_left ?_ (Nat.two_pow_pos 53)
    calc 2 ^ (53 : Nat) * 2 ^ (unitExponent + 1)
        = 2 ^ (53 + (unitExponent + 1)) := (Nat.pow_add ..).symm
      _ ≤ 2 ^ (bits + (1128 - bits)) := Nat.pow_le_pow_right (by decide) (by omega)
      _ = 2 ^ bits * 2 ^ (1128 - bits) := Nat.pow_add ..
      _ ≤ 2 ^ (53 : Nat) * step * 10 ^ q := Nat.mul_le_mul hstep hten
      _ = 2 ^ (53 : Nat) * (step * 10 ^ q) := Nat.mul_assoc ..

/-- The shortest decimal of a positive rank rounds to it. -/
theorem shortest_spec {rank : Nat} (hrank : 0 < rank) (hlt : rank < rankBound) :
    (shortest rank).RoundsTo rank ∧ 0 < (shortest rank).digits ∧
      -20000 ≤ (shortest rank).exponent := by
  obtain ⟨previous, rfl⟩ := Nat.exists_eq_add_of_lt hrank
  rw [Nat.zero_add] at *
  obtain ⟨step, hpos, hstep, hdigits⟩ := exists_unitsOfRank_succ previous
  have hself : 2 ^ Nat.log2 (unitsOfRank (previous + 1)) ≤ unitsOfRank (previous + 1) :=
    Nat.log2_self_le (by omega)
  have hbits := log2_unitsOfRank_le hlt
  unfold shortest
  dsimp only
  rw [Int.fdiv_eq_ediv_of_nonneg _ (by decide)]
  generalize hpower : ((Nat.log2 (unitsOfRank (previous + 1)) : Int) - unitExponent + 1) * 30103 /
    100000 + 2 = power
  have hunit : unitExponent = 1074 := rfl
  have hfine : (gridSpacing (power - (23 : Nat))).1 ≤ step * (gridSpacing (power - (23 : Nat))).2 :=
    gridSpacing_le hbits (by omega) (Nat.le_trans hself hdigits)
  obtain ⟨hpoint, hexponent⟩ :=
    shortestFrom_spec 24 (by decide : 23 < 24) (gridPoint?_ne_none hstep hfine)
  exact ⟨encloses_of_roundsTo (roundsTo_of_gridPoint? hpoint),
    digits_pos_of_gridPoint? hrank hpoint, by omega⟩

end Binary64

end DocQuery
