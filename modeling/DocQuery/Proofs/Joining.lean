import DocQuery.Predicate

/-!
# Joined tests

However many tests are joined, they are asked in order up to the first that decides.
Of tests without effects the connective then decides by their outcomes.
-/

namespace DocQuery

/-! ## Order -/

namespace Test

variable {m : Type → Type} [Monad m] [LawfulMonad m]

theorem inOrder_singleton (connective : Connective) (only : Test m) :
    inOrder connective [only] = only := by
  funext revision
  calc
    inOrder connective [only] revision = only revision >>= pure := by
      unfold inOrder inOrder
      congr 1
      funext outcome
      cases connective <;> cases outcome <;> rfl
    _ = only revision := bind_pure _

theorem pair_eq_inOrder (connective : Connective) (first second : Test m) :
    pair connective first second = inOrder connective [first, second] := by
  have hsecond := inOrder_singleton connective second
  funext revision
  rw [inOrder, hsecond, pair]

/-- The ways of joining one and two tests ask them as a longer list is asked. -/
theorem combine_eq_inOrder (connective : Connective) (tests : List (Test m)) :
    combine connective tests = inOrder connective tests := by
  unfold combine
  split
  · exact (inOrder_singleton connective _).symm
  · exact pair_eq_inOrder connective _ _
  · rfl

end Test

/-! ## Outcomes -/

namespace Connective

/-- What outcomes come to that are joined: whether all are true, or any is. -/
def applyAll : Connective → List Bool → Bool
  | and, outcomes => outcomes.all id
  | or, outcomes => outcomes.any id

@[simp] theorem applyAll_nil (connective : Connective) :
    connective.applyAll [] = connective.unit := by
  cases connective <;> rfl

/-- The first outcome decides unless it is the unit. -/
theorem applyAll_cons (connective : Connective) (outcome : Bool) (rest : List Bool) :
    connective.applyAll (outcome :: rest) =
      if outcome = connective.unit then connective.applyAll rest else !connective.unit := by
  cases connective <;> cases outcome <;> rfl

theorem applyAll_append (connective : Connective) (front back : List Bool) :
    connective.applyAll (front ++ back) =
      connective.apply (connective.applyAll front) (connective.applyAll back) := by
  cases connective with
  | and => exact List.all_append
  | or => exact List.any_append

end Connective

namespace Predicate

theorem ext {p q : Predicate} (h : ∀ revision, p.passes revision = q.passes revision) :
    p = q :=
  funext h

@[simp] theorem passes_always (revision : Revision) :
    Predicate.passes Test.always revision = true :=
  rfl

@[simp] theorem passes_negate (predicate : Predicate) (revision : Revision) :
    Predicate.passes (Test.negate predicate) revision = !predicate.passes revision :=
  rfl

@[simp] theorem passes_ofDocument (test : Json → Bool) (revision : Revision) :
    (ofDocument test).passes revision = test revision.current :=
  rfl

@[simp] theorem passes_ofRevision (test : Revision → Bool) (revision : Revision) :
    (ofRevision test).passes revision = test revision :=
  rfl

theorem passes_inOrder (connective : Connective) (tests : List Predicate)
    (revision : Revision) :
    Predicate.passes (Test.inOrder connective tests) revision =
      (tests.map fun test => test.passes revision).foldr connective.apply
        connective.unit := by
  induction tests with
  | nil =>
      rfl
  | cons test rest ih =>
      have hstep : Predicate.passes (Test.inOrder connective (test :: rest)) revision =
          if test.passes revision = connective.unit then
            Predicate.passes (Test.inOrder connective rest) revision
          else !connective.unit := by
        rw [passes, Test.inOrder, Id.run_bind]
        exact apply_ite Id.run _ _ _
      rw [hstep, ih, List.map_cons, List.foldr_cons]
      cases connective <;> cases test.passes revision <;> rfl

theorem passes_combine_and (tests : List Predicate) (revision : Revision) :
    Predicate.passes (Test.combine .and tests) revision =
      tests.all fun test => test.passes revision := by
  rw [Test.combine_eq_inOrder, passes_inOrder]
  induction tests with
  | nil =>
      rfl
  | cons test rest ih =>
      rw [List.map_cons, List.foldr_cons, ih, List.all_cons]
      rfl

theorem passes_combine_or (tests : List Predicate) (revision : Revision) :
    Predicate.passes (Test.combine .or tests) revision =
      tests.any fun test => test.passes revision := by
  rw [Test.combine_eq_inOrder, passes_inOrder]
  induction tests with
  | nil =>
      rfl
  | cons test rest ih =>
      rw [List.map_cons, List.foldr_cons, ih, List.any_cons]
      rfl

theorem passes_combine (connective : Connective) (tests : List Predicate)
    (revision : Revision) :
    Predicate.passes (Test.combine connective tests) revision =
      connective.applyAll (tests.map fun test => test.passes revision) := by
  cases connective with
  | and => rw [passes_combine_and, Connective.applyAll, List.all_map]; rfl
  | or => rw [passes_combine_or, Connective.applyAll, List.any_map]; rfl

end Predicate

end DocQuery
