import DocQuery.Number.Shortest
import DocQuery.Proofs.Rounding

/-!
# Decimals near a double

A decimal between the middles of a double and its neighbours is read as that double.  Before
it is rounded its size is judged by an estimate of its logarithm, which is off by less than
one place as long as the exponent is moderate.
-/

namespace DocQuery

-- Powers are those of the core library, whatever algebra is imported beside them.
attribute [local instance (high)] instPowNat

namespace Binary64

/-! ## Neighbouring ranks -/

/-- The step to the next magnitude, which has at most 53 bits when counted in such steps. -/
theorem exists_unitsOfRank_succ (rank : Nat) :
    ∃ step, 0 < step ∧ unitsOfRank (rank + 1) = unitsOfRank rank + step ∧
      unitsOfRank (rank + 1) ≤ 2 ^ (53 : Nat) * step := by
  obtain ⟨shift, digits, hrank, hdigits, hfull⟩ := exists_rank_eq rank
  have hhere := unitsOfRank_eq (Nat.le_of_lt hdigits) hfull
  have hnext : unitsOfRank (shift * 2 ^ (52 : Nat) + (digits + 1)) = (digits + 1) * 2 ^ shift :=
    unitsOfRank_eq hdigits (by omega)
  rw [hrank, Nat.add_assoc, hhere, hnext]
  refine ⟨2 ^ shift, Nat.two_pow_pos shift, ?_, Nat.mul_le_mul_right _ hdigits⟩
  rw [Nat.add_mul, Nat.one_mul]

theorem unitsOfRank_mono {rank other : Nat} (h : rank ≤ other) :
    unitsOfRank rank ≤ unitsOfRank other := by
  induction h with
  | refl =>
      exact Nat.le_refl _
  | @step last _ ih =>
      obtain ⟨step, _, hstep, _⟩ := exists_unitsOfRank_succ last
      rw [Nat.succ_eq_add_one, hstep]
      exact Nat.le_trans ih (Nat.le_add_right _ step)

theorem unitsOfRank_lt {rank other : Nat} (h : rank < other) :
    unitsOfRank rank < unitsOfRank other := by
  obtain ⟨step, hpos, hstep, _⟩ := exists_unitsOfRank_succ rank
  have hnext : unitsOfRank (rank + 1) ≤ unitsOfRank other := unitsOfRank_mono h
  omega

/-! ## Rounding intervals -/

/-- Whether a quotient lies between the middles of a rank and its neighbours.  The middles
belong to the even rank. -/
def Encloses (rank num den : Nat) : Prop :=
  let twice := num * 2 ^ (unitExponent + 1)
  if rank % 2 = 0 then intervalStart rank * den ≤ twice ∧ twice ≤ intervalEnd rank * den
  else intervalStart rank * den < twice ∧ twice < intervalEnd rank * den

theorem Encloses.bounds {rank num den : Nat} (h : Encloses rank num den) :
    intervalStart rank * den ≤ num * 2 ^ (unitExponent + 1) ∧
      num * 2 ^ (unitExponent + 1) ≤ intervalEnd rank * den := by
  unfold Encloses at h
  dsimp only at h
  split at h
  · exact h
  · exact ⟨Nat.le_of_lt h.1, Nat.le_of_lt h.2⟩

theorem Encloses.scale {rank num den : Nat} (h : Encloses rank num den) {factor : Nat}
    (hfactor : 0 < factor) : Encloses rank (num * factor) (den * factor) := by
  unfold Encloses at h ⊢
  dsimp only at h ⊢
  rw [Nat.mul_right_comm, ← Nat.mul_assoc, ← Nat.mul_assoc]
  split at h
  · rw [if_pos ‹_›]
    exact ⟨Nat.mul_le_mul_right factor h.1, Nat.mul_le_mul_right factor h.2⟩
  · rw [if_neg ‹_›]
    exact ⟨Nat.mul_lt_mul_of_pos_right h.1 hfactor, Nat.mul_lt_mul_of_pos_right h.2 hfactor⟩

/-- The nearest rank is the one with the value between its middles. -/
theorem eq_of_nearestEven {rank den exact found : Nat} (hden : 0 < den)
    (hnearest : NearestEven (fun rank => ((unitsOfRank rank * den : Nat) : Int)) id exact found)
    (h : if rank % 2 = 0
      then intervalStart rank * den ≤ 2 * exact ∧ 2 * exact ≤ intervalEnd rank * den
      else intervalStart rank * den < 2 * exact ∧ 2 * exact < intervalEnd rank * den) :
    found = rank := by
  have hclose := hnearest.nearest rank
  have htie := hnearest.even rank
  have hlt {i j : Nat} (hij : i < j) : unitsOfRank i * den < unitsOfRank j * den :=
    Nat.mul_lt_mul_of_pos_right (unitsOfRank_lt hij) hden
  have hle {i j : Nat} (hij : i ≤ j) : unitsOfRank i * den ≤ unitsOfRank j * den :=
    Nat.mul_le_mul_right den (unitsOfRank_mono hij)
  rw [intervalStart, intervalEnd, Nat.add_mul, Nat.add_mul] at h
  simp only [id] at htie
  rcases Nat.lt_trichotomy found rank with hbelow | heq | habove
  · -- A lower rank is as near only at the middle, and is then odd.
    have hhere := hlt hbelow
    have hprevious : found = rank - 1 ∨ unitsOfRank found * den < unitsOfRank (rank - 1) * den := by
      by_cases hsame : found = rank - 1
      · exact .inl hsame
      · exact .inr (hlt (by omega))
    have hnear : unitsOfRank found * den ≤ unitsOfRank (rank - 1) * den := hle (by omega)
    split at h <;> omega
  · exact heq
  · have hhere := hlt habove
    have hnext : found = rank + 1 ∨ unitsOfRank (rank + 1) * den < unitsOfRank found * den := by
      by_cases hsame : found = rank + 1
      · exact .inl hsame
      · exact .inr (hlt (by omega))
    have hnear : unitsOfRank (rank + 1) * den ≤ unitsOfRank found * den := hle habove
    split at h <;> omega

theorem nearestRank_of_encloses {rank num den : Nat} (hden : 0 < den)
    (h : Encloses rank num den) : nearestRank num den = rank := by
  have htwice : num * 2 ^ (unitExponent + 1) = 2 * (num * 2 ^ unitExponent) := by
    rw [Nat.pow_succ, ← Nat.mul_assoc, Nat.mul_comm]
  unfold Encloses at h
  dsimp only at h
  rw [htwice] at h
  exact eq_of_nearestEven hden (nearestEven_rankOfUnits hden (num * 2 ^ unitExponent)) h

/-! ## Sizes of decimals -/

theorem pow_le_pow_of_slope {a b p q m n : Nat} (ha : 0 < a) (hq : q ≠ 0)
    (slope : a ^ p ≤ b ^ q) (h : q * m ≤ p * n) : a ^ m ≤ b ^ n := by
  rw [← Nat.pow_le_pow_iff_left hq]
  calc (a ^ m) ^ q
      = a ^ (q * m) := by rw [← Nat.pow_mul, Nat.mul_comm]
    _ ≤ a ^ (p * n) := Nat.pow_le_pow_right ha h
    _ = (a ^ p) ^ n := Nat.pow_mul ..
    _ ≤ (b ^ q) ^ n := Nat.pow_le_pow_left slope n
    _ = (b ^ n) ^ q := by rw [← Nat.pow_mul, ← Nat.pow_mul, Nat.mul_comm]

/-- The slope of the estimate is a little steep. -/
theorem two_pow_le_ten_pow {bits places : Nat} (h : 30103 * bits ≤ 100000 * places) :
    2 ^ bits ≤ 10 ^ places :=
  pow_le_pow_of_slope (a := 2) (b := 10) (p := 100000) (q := 30103) (by decide) (by decide)
    (by decide +kernel) h

/-- It is too steep by less than one bit, as long as the places are no more than 30103. -/
theorem ten_pow_le_two_pow {bits places : Nat} (hplaces : places ≤ 30103)
    (h : 100000 * places ≤ 30103 * bits) : 10 ^ places ≤ 2 ^ (bits + 1) :=
  pow_le_pow_of_slope (a := 10) (b := 2) (p := 30103) (q := 100001) (by decide) (by decide)
    (by decide +kernel) (by omega)

theorem ten_pow_le_of_log2 {digits : Nat} (places : Nat) (hdigits : 0 < digits)
    (hplaces : places ≤ 30103) (h : 100000 * places ≤ 30103 * Nat.log2 digits) :
    10 ^ places ≤ 2 * digits := by
  have hself : 2 ^ Nat.log2 digits ≤ digits := Nat.log2_self_le (Nat.ne_of_gt hdigits)
  have hpow := ten_pow_le_two_pow hplaces h
  rw [Nat.pow_succ] at hpow
  omega

theorem lt_of_log2 {digits : Nat} (places : Nat) (h : 30103 * Nat.log2 digits ≤ 100000 * places) :
    digits < 2 * 10 ^ places := by
  have hself : digits < 2 ^ (Nat.log2 digits + 1) := Nat.lt_log2_self
  have hpow := two_pow_le_ten_pow h
  rw [Nat.pow_succ] at hself
  omega

def magnitudeBound : Nat := 2 ^ (1024 : Nat)

theorem intervalEnd_le {rank : Nat} (h : rank < rankBound) :
    intervalEnd rank ≤ magnitudeBound * 2 ^ (unitExponent + 1) := by
  have htop := @unitsOfRank_eq 2046 (2 ^ (52 : Nat)) (by decide) (by decide)
  rw [show 2046 * 2 ^ (52 : Nat) + 2 ^ (52 : Nat) = rankBound by decide] at htop
  have hbound : magnitudeBound * 2 ^ (unitExponent + 1) =
      2 * (2 ^ (52 : Nat) * 2 ^ (2046 : Nat)) := by decide +kernel
  have hhere : unitsOfRank rank ≤ unitsOfRank rankBound := unitsOfRank_mono (Nat.le_of_lt h)
  have hnext : unitsOfRank (rank + 1) ≤ unitsOfRank rankBound := unitsOfRank_mono h
  rw [htop] at hhere hnext
  rw [intervalEnd, hbound]
  omega

theorem Encloses.le_bound {rank num den : Nat} (hlt : rank < rankBound)
    (h : Encloses rank num den) : num ≤ magnitudeBound * den := by
  have hend := h.bounds.2
  have hlast := intervalEnd_le hlt
  have hscale : 0 < 2 ^ (unitExponent + 1) := Nat.two_pow_pos _
  generalize 2 ^ (unitExponent + 1) = scale at *
  have hscaled : num * scale ≤ magnitudeBound * den * scale :=
    calc num * scale ≤ intervalEnd rank * den := hend
      _ ≤ magnitudeBound * scale * den := Nat.mul_le_mul_right den hlast
      _ = magnitudeBound * den * scale := Nat.mul_right_comm ..
  exact (Nat.mul_le_mul_right_iff hscale).mp hscaled

theorem Encloses.den_le {rank num den : Nat} (hrank : 0 < rank) (h : Encloses rank num den) :
    den ≤ num * 2 ^ (unitExponent + 1) := by
  have hpos : unitsOfRank 0 < unitsOfRank rank := unitsOfRank_lt hrank
  have hstart : 1 ≤ intervalStart rank := by
    rw [intervalStart]
    omega
  calc den = 1 * den := (Nat.one_mul den).symm
    _ ≤ intervalStart rank * den := Nat.mul_le_mul_right den hstart
    _ ≤ num * 2 ^ (unitExponent + 1) := h.bounds.1

end Binary64

def Decimal.quotient (decimal : Decimal) : Nat × Nat :=
  if 0 ≤ decimal.exponent then (decimal.digits * 10 ^ decimal.exponent.toNat, 1)
  else (decimal.digits, 10 ^ (-decimal.exponent).toNat)

/-- Whether a decimal lies between the middles of a rank and its neighbours. -/
def Decimal.RoundsTo (decimal : Decimal) (rank : Nat) : Prop :=
  Binary64.Encloses rank decimal.quotient.1 decimal.quotient.2

namespace Binary64

theorem place_le {digits limit : Nat} {exponent : Int} (hdigits : 0 < digits)
    (hmoderate : -20000 ≤ exponent)
    (hsize : (Decimal.mk digits exponent).quotient.1 ≤
      limit * (Decimal.mk digits exponent).quotient.2)
    (hlimit : 2 * limit < 10 ^ (311 : Nat)) :
    exponent + (Nat.log2 digits : Int) * 30103 / 100000 ≤ 310 := by
  refine Int.not_lt.mp fun hlarge => ?_
  unfold Decimal.quotient at hsize
  dsimp only at hsize
  by_cases hexponent : 0 ≤ exponent
  · rw [if_pos hexponent, Nat.mul_one] at hsize
    obtain ⟨e, rfl⟩ := Int.eq_ofNat_of_zero_le hexponent
    rw [Int.toNat_natCast] at hsize
    have hpow := ten_pow_le_of_log2 (311 - e) hdigits (by omega) (by omega)
    have hten : 10 ^ (311 : Nat) ≤ 2 * digits * 10 ^ e :=
      calc 10 ^ (311 : Nat) ≤ 10 ^ (311 - e + e) := Nat.pow_le_pow_right (by decide) (by omega)
        _ = 10 ^ (311 - e) * 10 ^ e := Nat.pow_add ..
        _ ≤ 2 * digits * 10 ^ e := Nat.mul_le_mul_right _ hpow
    rw [Nat.mul_assoc] at hten
    omega
  · rw [if_neg hexponent] at hsize
    obtain ⟨q, hq⟩ : ∃ q : Nat, exponent = -q := ⟨(-exponent).toNat, by omega⟩
    rw [hq, Int.neg_neg, Int.toNat_natCast] at hsize
    dsimp only at hsize
    have hpow := ten_pow_le_of_log2 (311 + q) hdigits (by omega) (by omega)
    have hten : 10 ^ (311 : Nat) * 10 ^ q ≤ 2 * limit * 10 ^ q := by
      rw [Nat.pow_add] at hpow
      rw [Nat.mul_assoc]
      omega
    have := Nat.le_of_mul_le_mul_right hten (Nat.pow_pos (by decide))
    omega

theorem le_place {digits limit : Nat} {exponent : Int}
    (hsize : (Decimal.mk digits exponent).quotient.2 ≤
      (Decimal.mk digits exponent).quotient.1 * limit)
    (hlimit : 2 * limit < 10 ^ (345 : Nat)) :
    -345 ≤ exponent + (Nat.log2 digits : Int) * 30103 / 100000 := by
  refine Int.not_lt.mp fun hsmall => ?_
  obtain ⟨q, hq⟩ : ∃ q : Nat, exponent = -(q + 345) := ⟨(-exponent - 345).toNat, by omega⟩
  unfold Decimal.quotient at hsize
  dsimp only at hsize
  rw [if_neg (by omega), hq, Int.neg_neg, show ((q : Int) + 345).toNat = q + 345 by omega,
    Nat.pow_add] at hsize
  have hpow := @lt_of_log2 digits q (by omega)
  have hten : 10 ^ q * 10 ^ (345 : Nat) ≤ 10 ^ q * (2 * limit) :=
    calc 10 ^ q * 10 ^ (345 : Nat) ≤ digits * limit := hsize
      _ ≤ 2 * 10 ^ q * limit := Nat.mul_le_mul_right limit (Nat.le_of_lt hpow)
      _ = 10 ^ q * (2 * limit) := by rw [Nat.mul_comm 2, Nat.mul_assoc]
  have := Nat.le_of_mul_le_mul_left hten (Nat.pow_pos (by decide))
  omega

/-- A decimal that rounds to a rank is read as the double of that rank. -/
theorem ofDecimal?_of_roundsTo (negative : Bool) {decimal : Decimal} {rank : Nat}
    (hrank : 0 < rank) (hlt : rank < rankBound) (hdigits : 0 < decimal.digits)
    (hmoderate : -20000 ≤ decimal.exponent) (h : decimal.RoundsTo rank) :
    ofDecimal? negative decimal.digits decimal.exponent = some ⟨negative, rank, hlt⟩ := by
  obtain ⟨digits, exponent⟩ := decimal
  have hle := place_le hdigits hmoderate (Encloses.le_bound hlt h) (by decide +kernel)
  have hge := le_place (Encloses.den_le hrank h) (by decide +kernel)
  have hquotient (num den : Nat) (hden : 0 < den) (hencloses : Encloses rank num den) :
      ofQuotient? negative num den = some ⟨negative, rank, hlt⟩ := by
    have hnearest := nearestRank_of_encloses hden hencloses
    rw [ofQuotient?, dif_pos (by rw [hnearest]; exact hlt)]
    simp only [hnearest]
  unfold Decimal.RoundsTo Decimal.quotient at h
  dsimp only at hdigits hmoderate hle hge h ⊢
  unfold ofDecimal?
  rw [if_neg (by omega)]
  dsimp only
  rw [if_neg (by omega), if_neg (by omega)]
  split at h
  · rw [if_pos ‹_›]
    exact hquotient _ _ Nat.one_pos h
  · rw [if_neg ‹_›]
    exact hquotient _ _ (Nat.pow_pos (by decide)) h

end Binary64

end DocQuery
