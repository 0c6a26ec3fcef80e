import DocQuery.Proofs.ValueEquality

/-!
# Order of numbers

Two numbers that signed words hold are ordered as integers and all others as their nearest
doubles.  Rounding keeps the order of integers but not their differences, so the order is
reversible, agrees with equality by value up to integers that share a double, and is
transitive up to a number in the middle that shares its double with two signed words.
-/

namespace DocQuery

-- Powers are those of the core library, whatever algebra is imported beside them.
attribute [local instance (high)] instPowNat

/-! ## Rounding -/

namespace Binary64

theorem NearestEven.le {ι : Type} {value : ι → Int} {code : ι → Nat} {x y : Int} {i j : ι}
    (hx : NearestEven value code x i) (hy : NearestEven value code y j) (hlt : x < y) :
    value i ≤ value j := by
  have hi := hx.nearest j
  have hj := hy.nearest i
  omega

theorem units_ofInt_mono {m n : Int} (hm : m.natAbs < 2 ^ (64 : Nat))
    (hn : n.natAbs < 2 ^ (64 : Nat)) (hle : m ≤ n) :
    (ofInt m hm).units ≤ (ofInt n hn).units := by
  by_cases heq : m = n
  · subst heq
    exact Int.le_refl _
  · have hscaled : m * (2 ^ unitExponent : Nat) < n * (2 ^ unitExponent : Nat) :=
      Int.mul_lt_mul_of_pos_right (by omega)
        (Int.natCast_pos.mpr (Nat.two_pow_pos unitExponent))
    exact (nearestEven_ofInt m hm).le (nearestEven_ofInt n hn) hscaled

end Binary64

namespace Number

variable {a b c : Number} {x y : Int}

/-! ## Signed words -/

theorem exists_of_signed? (h : a.signed? = some x) :
    ∃ lower upper, a = .int x lower upper := by
  cases a with
  | int value lower upper =>
      obtain ⟨_, heq⟩ := Option.ite_none_right_eq_some.mp h
      cases heq
      exact ⟨lower, upper, rfl⟩
  | float value => cases h

theorem compare_of_signed (ha : a.signed? = some x) (hb : b.signed? = some y) :
    compare a b = Ord.compare x y := by
  simp only [compare, ha, hb]

theorem compare_of_not_signed (h : a.signed? = none ∨ b.signed? = none) :
    compare a b = a.toBinary64.compare b.toBinary64 := by
  unfold compare
  rcases h with h | h
  · simp only [h]
  · rw [h]
    cases a.signed? <;> rfl

theorem units_le_of_signed (ha : a.signed? = some x) (hb : b.signed? = some y) (hle : x ≤ y) :
    a.toBinary64.units ≤ b.toBinary64.units := by
  obtain ⟨_, _, rfl⟩ := exists_of_signed? ha
  obtain ⟨_, _, rfl⟩ := exists_of_signed? hb
  exact Binary64.units_ofInt_mono (by omega) (by omega) hle

/-! ## Order -/

theorem compare_swap (a b : Number) : (compare a b).swap = compare b a := by
  by_cases h : a.signed? = none ∨ b.signed? = none
  · rw [compare_of_not_signed h, compare_of_not_signed h.symm]
    exact Int.compare_swap _ _
  · rw [not_or] at h
    obtain ⟨x, hx⟩ := Option.ne_none_iff_exists'.mp h.1
    obtain ⟨y, hy⟩ := Option.ne_none_iff_exists'.mp h.2
    rw [compare_of_signed hx hy, compare_of_signed hy hx]
    exact Int.compare_swap _ _

theorem units_le_of_compare (h : compare a b ≠ .gt) :
    a.toBinary64.units ≤ b.toBinary64.units := by
  by_cases hnone : a.signed? = none ∨ b.signed? = none
  · rw [compare_of_not_signed hnone] at h
    exact Int.compare_ne_gt.mp h
  · rw [not_or] at hnone
    obtain ⟨x, hx⟩ := Option.ne_none_iff_exists'.mp hnone.1
    obtain ⟨y, hy⟩ := Option.ne_none_iff_exists'.mp hnone.2
    rw [compare_of_signed hx hy] at h
    exact units_le_of_signed hx hy (Int.compare_ne_gt.mp h)

/-! ## Order and equality -/

/-- Whether two different integers, of which a signed word does not hold both, have the same
nearest double. -/
def merged (a b : Number) : Bool :=
  !integersAgree a b && sameNearest a b && (a.signed?.isNone || b.signed?.isNone)

theorem sameValue_of_merged (h : merged a b = true) : sameValue a b = false := by
  simp only [merged, Bool.and_eq_true, Bool.not_eq_true'] at h
  rw [sameValue_eq, h.1.1, Bool.and_false]

theorem compare_eq_eq_iff :
    compare a b = .eq ↔ sameValue a b = true ∨ merged a b = true := by
  by_cases h : a.signed? = none ∨ b.signed? = none
  · have hsplit : sameNearest a b = true ↔ sameValue a b = true ∨ merged a b = true := by
      have hside : (a.signed?.isNone || b.signed?.isNone) = true := by
        simpa [Option.isNone_iff_eq_none] using h
      rw [sameValue_eq, merged, hside]
      cases sameNearest a b <;> cases integersAgree a b <;> simp
    rw [compare_of_not_signed h, ← hsplit, sameNearest, Binary64.sameValue, beq_iff_eq]
    exact Int.compare_eq_eq
  · rw [not_or] at h
    obtain ⟨x, hx⟩ := Option.ne_none_iff_exists'.mp h.1
    obtain ⟨y, hy⟩ := Option.ne_none_iff_exists'.mp h.2
    have hmerged : merged a b = false := by simp [merged, hx, hy]
    rw [compare_of_signed hx hy, hmerged]
    obtain ⟨_, _, rfl⟩ := exists_of_signed? hx
    obtain ⟨_, _, rfl⟩ := exists_of_signed? hy
    rw [sameValue_int]
    simp

/-! ## Transitivity -/

/-- Whether a number that no signed word holds has the same nearest double as two different
integers that signed words hold. -/
def blurs (middle a b : Number) : Bool :=
  match middle.signed?, a.signed?, b.signed? with
  | none, some x, some y => x != y && sameNearest a middle && sameNearest middle b
  | _, _, _ => false

theorem blurs_iff {middle : Number} :
    blurs middle a b = true ↔ middle.signed? = none ∧
      ∃ x y, a.signed? = some x ∧ b.signed? = some y ∧ x ≠ y ∧
        sameNearest a middle = true ∧ sameNearest middle b = true := by
  unfold blurs
  cases middle.signed? <;> cases a.signed? <;> cases b.signed? <;> simp [and_assoc]

/-- Order is transitive unless the number in the middle blurs the other two. -/
theorem compare_trans (hab : compare a b ≠ .gt) (hbc : compare b c ≠ .gt)
    (hclear : blurs b a c = false) : compare a c ≠ .gt := by
  have hleft := units_le_of_compare hab
  have hright := units_le_of_compare hbc
  by_cases hnone : a.signed? = none ∨ c.signed? = none
  · rw [compare_of_not_signed hnone]
    exact Int.compare_ne_gt.mpr (Int.le_trans hleft hright)
  · rw [not_or] at hnone
    obtain ⟨x, hx⟩ := Option.ne_none_iff_exists'.mp hnone.1
    obtain ⟨z, hz⟩ := Option.ne_none_iff_exists'.mp hnone.2
    rw [compare_of_signed hx hz, Int.compare_ne_gt]
    cases hy : b.signed? with
    | some y =>
        rw [compare_of_signed hx hy, Int.compare_ne_gt] at hab
        rw [compare_of_signed hy hz, Int.compare_ne_gt] at hbc
        exact Int.le_trans hab hbc
    | none =>
        -- Out of order, the outer two have the same double, and so has the one in the middle.
        by_contra hlt
        have hback := units_le_of_signed hz hx (by omega)
        have hblurs : blurs b a c = true := by
          rw [blurs_iff]
          refine ⟨hy, x, z, hx, hz, by omega, ?_, ?_⟩ <;>
            simp only [sameNearest, Binary64.sameValue, beq_iff_eq] <;> omega
        rw [hclear] at hblurs
        cases hblurs

/-- A number that blurs two others ties with both, which do not tie with each other. -/
theorem compare_of_blurs {middle : Number} (h : blurs middle a b = true) :
    compare a middle = .eq ∧ compare middle b = .eq ∧ compare a b ≠ .eq := by
  obtain ⟨hmiddle, x, y, hx, hy, hne, hleft, hright⟩ := blurs_iff.mp h
  simp only [sameNearest, Binary64.sameValue, beq_iff_eq] at hleft hright
  rw [compare_of_not_signed (.inr hmiddle), compare_of_not_signed (.inl hmiddle),
    compare_of_signed hx hy]
  exact ⟨Int.compare_eq_eq.mpr hleft, Int.compare_eq_eq.mpr hright,
    fun heq => hne (Int.compare_eq_eq.mp heq)⟩

end Number

end DocQuery
