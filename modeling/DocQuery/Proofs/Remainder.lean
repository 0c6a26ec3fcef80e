import DocQuery.Proofs.Rounding
import DocQuery.Proofs.SingleField

/-!
# Remainders of integers

Remainders are taken between doubles.  Integers of at most 53 bits, and the next one, are
doubles themselves, so between them the remainder is that of the integers, rounded towards
zero: it has the sign of the dividend, and the sign of the divisor does not matter.
-/

namespace DocQuery

-- Powers are those of the core library, whatever algebra is imported beside them.
attribute [local instance (high)] instPowNat

/-! ## Numbers that are integers -/

namespace Number

/-- Whether the value of a number is an integer.  Zero is the value of both zeros. -/
def Denotes (value : Int) : Number → Prop
  | .int other _ _ => other = value
  | .float double => double.units = value * (2 ^ Binary64.unitExponent : Nat)

instance (value : Int) : (number : Number) → Decidable (number.Denotes value)
  | .int other _ _ => inferInstanceAs (Decidable (other = value))
  | .float double =>
      inferInstanceAs (Decidable (double.units = value * (2 ^ Binary64.unitExponent : Nat)))

theorem Denotes.units {number : Number} {value : Int} (denotes : number.Denotes value)
    (hle : value.natAbs ≤ 2 ^ (53 : Nat)) :
    number.toBinary64.units = value * (2 ^ Binary64.unitExponent : Nat) := by
  cases number with
  | int other lower upper =>
      cases denotes
      exact Binary64.units_ofInt_of_le (by omega) hle
  | float double =>
      exact denotes

end Number

namespace Binary64

theorem isRemainder_of_units_eq_zero {divisor : Binary64} (h : divisor.units = 0)
    (x y : Binary64) : x.isRemainder divisor y = false := by
  rw [isRemainder, h, bne_self_eq_false, Bool.false_and]

/-- Between doubles that are integers the remainder is that of the integers. -/
theorem isRemainder_integers {x divisor y : Binary64} {m n r : Int}
    (hx : x.units = m * (2 ^ unitExponent : Nat))
    (hdivisor : divisor.units = n * (2 ^ unitExponent : Nat))
    (hy : y.units = r * (2 ^ unitExponent : Nat)) :
    x.isRemainder divisor y = decide (n ≠ 0 ∧ m.tmod n = r) := by
  have hunit : (0 : Int) < (2 ^ unitExponent : Nat) :=
    Int.natCast_pos.mpr (Nat.two_pow_pos unitExponent)
  rw [isRemainder, hx, hdivisor, hy]
  generalize ((2 ^ unitExponent : Nat) : Int) = unit at hunit
  have hdivides : (n * unit = 0) = (n = 0) :=
    propext (Int.mul_eq_zero.trans (or_iff_left (Int.ne_of_gt hunit)))
  have hremainder : (m * unit).tmod (n * unit) = m.tmod n * unit := by
    rw [Int.mul_comm m, Int.mul_comm n, Int.mul_tmod_mul_of_pos _ _ hunit, Int.mul_comm]
  have hequal : (m.tmod n * unit = r * unit) = (m.tmod n = r) :=
    propext (Int.mul_eq_mul_right_iff (Int.ne_of_gt hunit))
  rw [Bool.eq_iff_iff, Bool.and_eq_true, bne_iff_ne, beq_iff_eq, decide_eq_true_eq, hremainder,
    Ne, hdivides, hequal]

end Binary64

/-! ## Queries -/

def division (key operator : String) (divisor remainder : Number) : Query where
  fields := [(key, .map [(operator,
    .list [.scalar (.number divisor), .scalar (.number remainder)])])]

namespace Compiler

def answer? (compiler : Compiler) (query : Query) (revision : Revision) : Option Bool :=
  match (compiler.compile query).result with
  | .ok predicate => some (predicate.passes revision)
  | .error _ => none

variable (config : Config) {key : String}

theorem answer?_division (plain : isOperatorKey key = false) (negated : Bool)
    (divisor remainder : Number) (revision : Revision) :
    ({ config } : Compiler).answer?
        (division key (Signed.text ⟨FieldWord.modulo, negated⟩) divisor remainder) revision =
      some (negated != Standard.leaves divisor.toBinary64 remainder.toBinary64
        (revision.current.field? key)) := by
  have hcompile : (({ config } : Compiler).compile
      (division key (Signed.text ⟨FieldWord.modulo, negated⟩) divisor remainder)).result =
        .ok (Signed.test ⟨.modulo, negated⟩ key
          (.list [.scalar (.number divisor), .scalar (.number remainder)])) :=
    result_compile_signed config plain ⟨.modulo, negated⟩ rfl
  rw [answer?, hcompile]
  exact congrArg (fun holds => some (negated != holds))
    (FieldWord.leaves_eq divisor remainder (revision.field key)).symm

variable {x divisor remainder : Number} {m n r : Int} {revision : Revision}

/-- A field that is an integer passes for the remainder that it leaves, and for no other. -/
theorem answer?_division_integers (plain : isOperatorKey key = false)
    (hx : x.Denotes m) (hdivisor : divisor.Denotes n) (hremainder : remainder.Denotes r)
    (hm : m.natAbs ≤ 2 ^ (53 : Nat)) (hn : n.natAbs ≤ 2 ^ (53 : Nat))
    (hr : r.natAbs ≤ 2 ^ (53 : Nat))
    (hfield : revision.current.field? key = some (.number x)) :
    ({ config } : Compiler).answer? (division key "$mod" divisor remainder) revision =
      some (decide (n ≠ 0 ∧ m.tmod n = r)) := by
  have hanswer := answer?_division config plain false divisor remainder revision
  have hleaves : Standard.leaves divisor.toBinary64 remainder.toBinary64 (some (.number x)) =
      x.toBinary64.isRemainder divisor.toBinary64 remainder.toBinary64 := rfl
  rw [hfield, hleaves, Bool.false_bne,
    Binary64.isRemainder_integers (hx.units hm) (hdivisor.units hn) (hremainder.units hr)]
    at hanswer
  exact hanswer

theorem answer?_division_zero (plain : isOperatorKey key = false) (hdivisor : divisor.Denotes 0)
    (negated : Bool) (remainder : Number) (revision : Revision) :
    ({ config } : Compiler).answer?
        (division key (Signed.text ⟨FieldWord.modulo, negated⟩) divisor remainder) revision =
      some negated := by
  have hzero : divisor.toBinary64.units = 0 := by
    rw [hdivisor.units (by decide), Int.zero_mul]
  have hleaves : Standard.leaves divisor.toBinary64 remainder.toBinary64
      (revision.current.field? key) = false := by
    cases revision.current.field? key with
    | none => rfl
    | some value =>
        rw [Standard.leaves]
        cases value.binary64? with
        | none => rfl
        | some double => exact Binary64.isRemainder_of_units_eq_zero hzero _ _
  rw [answer?_division config plain, hleaves, Bool.bne_false]

/-- A field that is an integer passes the query for a remainder exactly when it is what is left
of the field beside the multiple of the divisor next to it towards zero.  That is one
remainder, which has the sign of the field if it is not zero, is smaller than the divisor and
stays the same when the divisor changes its sign.  Division by zero leaves no remainder. -/
theorem division_leaves_truncated (plain : isOperatorKey key = false) :
    let compiler : Compiler := { config }
    (∀ (x divisor : Number) (m n : Int) (revision : Revision),
      x.Denotes m → divisor.Denotes n → m.natAbs ≤ 2 ^ (53 : Nat) → n.natAbs ≤ 2 ^ (53 : Nat) →
      revision.current.field? key = some (.number x) →
      (∀ (remainder : Number) (r : Int), remainder.Denotes r → r.natAbs ≤ 2 ^ (53 : Nat) →
        compiler.answer? (division key "$mod" divisor remainder) revision =
          some (decide (n ≠ 0 ∧ m - n * m.tdiv n = r))) ∧
      (n ≠ 0 → ∃ only : Int, (only = 0 ∨ only.sign = m.sign) ∧ only.natAbs < n.natAbs ∧
        ∀ opposite : Number, opposite.Denotes (-n) →
          ∀ (remainder : Number) (r : Int), remainder.Denotes r → r.natAbs ≤ 2 ^ (53 : Nat) →
            compiler.answer? (division key "$mod" divisor remainder) revision =
                some (decide (r = only)) ∧
              compiler.answer? (division key "$mod" opposite remainder) revision =
                some (decide (r = only)))) ∧
      ∀ divisor remainder : Number, divisor.Denotes 0 → ∀ revision,
        compiler.answer? (division key "$mod" divisor remainder) revision = some false ∧
          compiler.answer? (division key "$notmod" divisor remainder) revision = some true := by
  intro compiler
  refine ⟨?_, fun divisor remainder hdivisor revision =>
    ⟨answer?_division_zero config plain hdivisor false remainder revision,
      answer?_division_zero config plain hdivisor true remainder revision⟩⟩
  intro x divisor m n revision hx hdivisor hm hn hfield
  constructor
  · intro remainder r hremainder hr
    rw [← Int.tmod_def]
    exact answer?_division_integers config plain hx hdivisor hremainder hm hn hr hfield
  · intro hne
    have hsign : m.tmod n = 0 ∨ (m.tmod n).sign = m.sign := by
      rw [← Int.sign_eq_zero_iff_zero, Int.sign_tmod]
      split
      · exact .inl rfl
      · exact .inr rfl
    have hsmall : (m.tmod n).natAbs < n.natAbs := by
      rw [Int.natAbs_tmod]
      exact Nat.mod_lt _ (Int.natAbs_pos.mpr hne)
    refine ⟨m.tmod n, hsign, hsmall, ?_⟩
    intro opposite hopposite remainder r hremainder hr
    have hplus := answer?_division_integers config plain hx hdivisor hremainder hm hn hr hfield
    have hminus := answer?_division_integers config plain hx hopposite hremainder hm
      (by rwa [Int.natAbs_neg]) hr hfield
    rw [Int.tmod_neg] at hminus
    have hone : (n ≠ 0 ∧ m.tmod n = r) = (r = m.tmod n) := by simp [hne, eq_comm]
    have hother : (-n ≠ 0 ∧ m.tmod n = r) = (r = m.tmod n) := by simp [hne, eq_comm]
    refine ⟨hplus.trans ?_, hminus.trans ?_⟩
    · simp only [hone]
    · simp only [hother]

def wholeDouble (value : Int) (h : value.natAbs < 2 ^ (64 : Nat)) : Number :=
  .float (.ofInt value h)

theorem division_leaves_truncated_negative :
    let seven : Number := .int (-7) (by decide) (by decide)
    let three : Number := .int 3 (by decide) (by decide)
    let minusThree := wholeDouble (-3) (by decide)
    let minusOne := wholeDouble (-1) (by decide)
    let two : Number := .int 2 (by decide) (by decide)
    let minusZero : Number := .float (.zero true)
    let revision : Revision := { current := .object [("a", .number seven)] }
    isOperatorKey "a" = false ∧ seven.Denotes (-7) ∧ three.Denotes 3 ∧ minusThree.Denotes (-3) ∧
      minusOne.Denotes (-1) ∧ two.Denotes 2 ∧ minusZero.Denotes 0 ∧
      ({} : Compiler).answer? (division "a" "$mod" three minusOne) revision = some true ∧
      ({} : Compiler).answer? (division "a" "$mod" minusThree minusOne) revision = some true ∧
      ({} : Compiler).answer? (division "a" "$mod" three two) revision = some false ∧
      ({} : Compiler).answer? (division "a" "$mod" minusZero two) revision = some false ∧
      ({} : Compiler).answer? (division "a" "$notmod" minusZero two) revision = some true := by
  intro seven three minusThree minusOne two minusZero revision
  have hminusThree : minusThree.Denotes (-3) := by decide +kernel
  have hminusOne : minusOne.Denotes (-1) := by decide +kernel
  have hminusZero : minusZero.Denotes 0 := by decide +kernel
  obtain ⟨hintegers, hzero⟩ := @division_leaves_truncated {} "a" rfl
  obtain ⟨hremainder, hsigns⟩ := hintegers seven three (-7) 3 revision rfl rfl (by decide)
    (by decide) rfl
  obtain ⟨only, _, _, honly⟩ := hsigns (by decide)
  have hpasses := hremainder minusOne (-1) hminusOne (by decide)
  obtain ⟨hplus, hminus⟩ := honly minusThree hminusThree minusOne (-1) hminusOne (by decide)
  obtain ⟨hnever, halways⟩ := hzero minusZero two hminusZero revision
  exact ⟨rfl, rfl, rfl, hminusThree, hminusOne, rfl, hminusZero, hpasses,
    hminus.trans (hplus.symm.trans hpasses), hremainder two 2 rfl (by decide), hnever, halways⟩

end Compiler

end DocQuery
