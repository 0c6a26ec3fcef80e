import DocQuery.Proofs.Joining

/-!
# Formulas over tests

Tests are negated and joined to any depth, with any number of parts in a join.  However the
parts are joined, the tests at the leaves are asked as evaluation with short circuits asks
them: from left to right, and of a join no part once an earlier one has decided.
-/

namespace DocQuery

/-- Negations and joins over leaves. -/
inductive Formula (α : Type)
  | leaf (name : α)
  | negation (part : Formula α)
  | joined (connective : Connective) (parts : List (Formula α))

namespace Formula

variable {α : Type}

/-! ## Evaluation -/

section

variable (leaves : α → Bool)

mutual

def value : Formula α → Bool
  | leaf name => leaves name
  | negation part => !value part
  | joined connective parts => connective.applyAll (values parts)

def values : List (Formula α) → List Bool
  | [] => []
  | part :: rest => value part :: values rest

end

mutual

/-- The leaves that evaluation with short circuits asks, in order. -/
def asked : Formula α → List α
  | leaf name => [name]
  | negation part => asked part
  | joined connective parts => askedInOrder connective parts

/-- Of a join, those that the parts up to the first deciding one ask. -/
def askedInOrder (connective : Connective) : List (Formula α) → List α
  | [] => []
  | part :: rest =>
      if value leaves part = connective.unit then asked part ++ askedInOrder connective rest
      else asked part

end

end

/-! ## Tests -/

section

variable {m : Type → Type} [Monad m]

mutual

def test (leaves : α → Test m) : Formula α → Test m
  | leaf name => leaves name
  | negation part => Test.negate (test leaves part)
  | joined connective parts => Test.combine connective (tests leaves parts)

def tests (leaves : α → Test m) : List (Formula α) → List (Test m)
  | [] => []
  | part :: rest => test leaves part :: tests leaves rest

end

def answers (leaves : α → Predicate) (revision : Revision) (name : α) : Bool :=
  (leaves name).passes revision

/-- Tests that note their name and the revision whenever they are asked. -/
def noting (note : α → Revision → m Unit) (leaves : α → Predicate) (name : α) : Test m :=
  fun revision => do
    note name revision
    return answers leaves revision name

variable [LawfulMonad m] (note : α → Revision → m Unit) (leaves : α → Predicate)
  (revision : Revision)

mutual

theorem test_noting : ∀ formula : Formula α,
    test (noting note leaves) formula revision = do
      (asked (answers leaves revision) formula).forM (note · revision)
      return value (answers leaves revision) formula
  | leaf name => by
      simp [test, noting, asked, value]
  | negation part => by
      simp [test, Test.negate, test_noting part, asked, value]
  | joined connective parts => by
      rw [test, Test.combine_eq_inOrder, inOrder_noting connective parts, asked, value]

theorem inOrder_noting (connective : Connective) : ∀ parts : List (Formula α),
    Test.inOrder connective (tests (noting note leaves) parts) revision = do
      (askedInOrder (answers leaves revision) connective parts).forM (note · revision)
      return connective.applyAll (values (answers leaves revision) parts)
  | [] => by
      simp [tests, Test.inOrder, askedInOrder, values]
  | part :: rest => by
      simp only [tests, Test.inOrder, test_noting part, askedInOrder, values,
        Connective.applyAll_cons, bind_assoc, pure_bind]
      by_cases hvalue : value (answers leaves revision) part = connective.unit
      · -- The part has not decided, so the rest is asked after it.
        simp [hvalue, inOrder_noting connective rest]
      · simp [hvalue]

end

end

/-! ## Records -/

def recorded (leaves : α → Predicate) : α → Test (StateM (List (α × Revision))) :=
  noting (fun name revision => modify (· ++ [(name, revision)])) leaves

theorem run_forM_record (names : List α) (revision : Revision)
    (earlier : List (α × Revision)) :
    ((names.forM fun name => modify (· ++ [(name, revision)])) :
        StateM (List (α × Revision)) Unit).run earlier =
      ((), earlier ++ names.map (·, revision)) := by
  induction names generalizing earlier with
  | nil =>
      rw [List.map_nil, List.append_nil]
      rfl
  | cons name rest ih =>
      calc
        _ = ((rest.forM fun name => modify (· ++ [(name, revision)])) :
              StateM (List (α × Revision)) Unit).run (earlier ++ [(name, revision)]) := rfl
        _ = ((), earlier ++ (name :: rest).map (·, revision)) := by
              rw [ih, List.append_assoc, List.map_cons, List.singleton_append]

/-- The test of a formula gives the value of the formula, and asks the leaves that evaluation
with short circuits asks, in order and each about the revision that it is asked about itself. -/
theorem test_evaluates (leaves : α → Predicate) (formula : Formula α) (revision : Revision)
    (earlier : List (α × Revision)) :
    (formula.test (recorded leaves) revision).run earlier =
        (formula.value (answers leaves revision),
          earlier ++ (formula.asked (answers leaves revision)).map (·, revision)) ∧
      Predicate.passes (formula.test leaves) revision =
        formula.value (answers leaves revision) := by
  constructor
  · have hasked := run_forM_record (formula.asked (answers leaves revision)) revision earlier
    rw [recorded, test_noting, StateT.run_bind, hasked]
    rfl
  · -- A plain test is one that notes nothing.
    have hnothing := test_noting (m := Id) (fun _ _ => pure ()) leaves revision formula
    exact congrArg Id.run hnothing

/-- The fifth leaf is not asked after a negation that has decided, nor the fourth one inside it. -/
example :
    asked (· == 2)
      (joined .or [joined .or [], joined .and [leaf 1],
        negation (joined .and [leaf 2, leaf 3, leaf 4]), leaf 5]) = [1, 2, 3] :=
  rfl

end Formula

end DocQuery
