import DocQuery.Proofs.Grammar.Subquery
import DocQuery.Proofs.Joining

/-!
# Tests made part by part

The tests of an operand are made one after another, each by one call, and the first call that
fails is the last one.  A maker of tests may keep a state from call to call, and a failure does
not undo what it did to it; so the order and the number of the calls can be observed.
-/

namespace DocQuery

/-- Makes a result of a part.  It may fail, and it keeps a state, also when it fails. -/
abbrev Maker (σ ε α β : Type) := α → ExceptT ε (StateM σ) β

namespace Maker

variable {σ ε α β : Type}

def outcome (work : ExceptT ε (StateM σ) β) (state : σ) : Except ε β × σ :=
  (work.run.run state).run

/-- A maker that lists the parts that it is called with. -/
def listed (make : Maker σ ε α β) : Maker (σ × List α) ε α β :=
  fun part => ExceptT.mk fun (state, calls) =>
    let (result, next) := outcome (make part) state
    (result, next, calls ++ [part])

/-- Calls with some parts in order: which results they make, and how they change the state. -/
inductive Makes (make : Maker σ ε α β) : List α → σ → List β → σ → Prop
  | nil (state : σ) : Makes make [] state [] state
  | cons {part : α} {rest : List α} {first next last : σ} {made : β} {others : List β}
      (call : outcome (make part) first = (.ok made, next))
      (more : Makes make rest next others last) :
      Makes make (part :: rest) first (made :: others) last

/-! ## Outcomes -/

theorem outcome_bind {γ : Type} (work : ExceptT ε (StateM σ) β)
    (next : β → ExceptT ε (StateM σ) γ) (state : σ) :
    outcome (work >>= next) state =
      match outcome work state with
      | (.ok made, after) => outcome (next made) after
      | (.error error, after) => (.error error, after) := by
  cases h : outcome work state with
  | mk result after =>
      have hrun : (work >>= next).run.run state = (ExceptT.bindCont next result).run after :=
        congrArg (fun pair : Except ε β × σ => (ExceptT.bindCont next pair.1).run pair.2) h
      cases result <;> exact hrun

theorem outcome_bind_of_ok {γ : Type} {work : ExceptT ε (StateM σ) β} {made : β}
    {state after : σ} (h : outcome work state = (.ok made, after))
    (next : β → ExceptT ε (StateM σ) γ) :
    outcome (work >>= next) state = outcome (next made) after := by
  rw [outcome_bind, h]

theorem outcome_bind_of_error {γ : Type} {work : ExceptT ε (StateM σ) β} {error : ε}
    {state after : σ} (h : outcome work state = (.error error, after))
    (next : β → ExceptT ε (StateM σ) γ) :
    outcome (work >>= next) state = (.error error, after) := by
  rw [outcome_bind, h]

theorem outcome_listed {make : Maker σ ε α β} {part : α} {state after : σ}
    {result : Except ε β} (h : outcome (make part) state = (result, after)) (calls : List α) :
    outcome (listed make part) (state, calls) = (result, after, calls ++ [part]) := by
  have hlisted : outcome (listed make part) (state, calls) =
      ((outcome (make part) state).1, (outcome (make part) state).2, calls ++ [part]) := rfl
  rw [hlisted, h]

/-! ## Calls in order -/

/-- What calls with parts in order come to: up to the first failure each part is taken by one
call, and none is after it. -/
inductive Runs (make : Maker σ ε α β) (parts : List α) (first : σ) :
    Except ε (List β) → σ → List α → Prop
  | made {made : List β} {last : σ} (all : Makes make parts first made last) :
      Runs make parts first (.ok made) last parts
  | failed {front back : List α} {part : α} {made : List β} {next last : σ} {error : ε}
      (split : parts = front ++ part :: back) (before : Makes make front first made next)
      (fails : outcome (make part) next = (.error error, last)) :
      Runs make parts first (.error error) last (front ++ [part])

theorem Runs.cons {make : Maker σ ε α β} {part : α} {rest called : List α} {made : β}
    {first next last : σ} {result : Except ε (List β)}
    (call : outcome (make part) first = (.ok made, next))
    (more : Runs make rest next result last called) :
    Runs make (part :: rest) first (result.map (made :: ·)) last (part :: called) := by
  cases more with
  | made all => exact .made (.cons call all)
  | failed split before fails =>
      exact .failed (congrArg (part :: ·) split) (.cons call before) fails

theorem exists_runs (make : Maker σ ε α β) (parts : List α) (state : σ) (calls : List α) :
    ∃ result last called, Runs make parts state result last called ∧
      outcome (parts.mapM (listed make)) (state, calls) = (result, last, calls ++ called) := by
  induction parts generalizing state calls with
  | nil =>
      refine ⟨.ok [], state, [], .made (.nil state), ?_⟩
      rw [List.append_nil]
      rfl
  | cons part rest ih =>
      rw [List.mapM_cons]
      cases hcall : outcome (make part) state with
      | mk result next =>
          have hlisted := outcome_listed hcall calls
          cases result with
          | error error =>
              have hsplit : part :: rest = [] ++ part :: rest := rfl
              exact ⟨.error error, next, [part], .failed hsplit (.nil state) hcall,
                outcome_bind_of_error hlisted _⟩
          | ok made =>
              obtain ⟨result, last, called, hruns, hrest⟩ := ih next (calls ++ [part])
              refine ⟨_, last, part :: called, hruns.cons hcall, ?_⟩
              rw [outcome_bind_of_ok hlisted, outcome_bind, hrest, List.append_assoc]
              cases result <;> rfl

theorem outcome_map {γ : Type} (f : β → γ) (work : ExceptT ε (StateM σ) β) (state : σ) :
    outcome (f <$> work) state =
      ((outcome work state).1.map f, (outcome work state).2) := by
  rw [map_eq_pure_bind, outcome_bind]
  cases outcome work state with
  | mk result after => cases result <;> rfl

end Maker

/-! ## Operands -/

namespace Test

variable {α : Type} {m n : Type → Type} [Monad m] [Monad n] [LawfulMonad n]

/-- A single part is taken as a list of its own. -/
theorem combineEach_eq (connective : Connective) (make : α → n (Test m)) (parts : OneOrMany α) :
    combineEach connective make parts = combine connective <$> parts.toList.mapM make := by
  cases parts with
  | one part => simp [combineEach, OneOrMany.toList, combine]
  | many parts => rfl

def ofBoth (connective : Connective) (first second : Predicate) : Predicate :=
  Predicate.ofRevision fun revision =>
    connective.apply (Predicate.passes first revision) (Predicate.passes second revision)

theorem combine_append (connective : Connective) (front back : List Predicate) :
    combine connective (front ++ back) =
      ofBoth connective (combine connective front) (combine connective back) := by
  refine Predicate.ext fun revision => ?_
  rw [ofBoth, Predicate.passes_ofRevision, Predicate.passes_combine, Predicate.passes_combine,
    Predicate.passes_combine, List.map_append, Connective.applyAll_append]

theorem combineEach_append (connective : Connective) (make : α → n Predicate)
    (front back : List α) :
    combineEach connective make (.many (front ++ back)) = do
      let first ← combineEach connective make (.many front)
      let second ← combineEach connective make (.many back)
      return ofBoth connective first second := by
  simp [combineEach, List.mapM_append, combine_append]

end Test

/-- The tests of an operand are made by one call for each of its elements, in order and up to
the first call that fails.  Its error is the outcome, and without one the test is that of all
elements joined.  So a list of two parts is made like the one part and then the other. -/
theorem combineEach_calls_in_order {σ ε : Type} (connective : Connective)
    (make : Maker σ ε Term Predicate) :
    (∀ (operand : Term) (state : σ) (calls : List Term),
      (∃ tests last joined, make.Makes operand.elements state tests last ∧
          Maker.outcome (Test.combineEach connective make.listed operand.parts)
              (state, calls) = (.ok joined, last, calls ++ operand.elements) ∧
          ∀ revision, Predicate.passes joined revision =
            connective.applyAll (tests.map fun test => Predicate.passes test revision)) ∨
        ∃ front part back tests next error last,
          operand.elements = front ++ part :: back ∧ make.Makes front state tests next ∧
            Maker.outcome (make part) next = (.error error, last) ∧
            Maker.outcome (Test.combineEach connective make.listed operand.parts)
              (state, calls) = (.error error, last, calls ++ (front ++ [part]))) ∧
      (∀ operand : Term, (∀ items, operand ≠ .list items) →
        Test.combineEach connective make operand.parts =
          Test.combineEach connective make (Term.list [operand]).parts) ∧
      (∀ front back, Test.combineEach connective make (Term.list (front ++ back)).parts = do
        let first ← Test.combineEach connective make (Term.list front).parts
        let second ← Test.combineEach connective make (Term.list back).parts
        return Test.ofBoth connective first second) ∧
      Test.combineEach connective make (Term.list []).parts =
        pure (Predicate.ofRevision fun _ => connective.unit) := by
  refine ⟨fun operand state calls => ?_, fun operand hsingle => ?_,
    Test.combineEach_append connective make, rfl⟩
  · obtain ⟨result, last, called, hruns, houtcome⟩ :=
      Maker.exists_runs make operand.elements state calls
    have hjoined : Maker.outcome (Test.combineEach connective make.listed operand.parts)
        (state, calls) = (result.map (Test.combine connective), last, calls ++ called) := by
      rw [Test.combineEach_eq, Term.toList_parts, Maker.outcome_map, houtcome]
    cases hruns with
    | @made tests _ all =>
        exact .inl ⟨tests, last, _, all, hjoined, Predicate.passes_combine connective tests⟩
    | failed split before fails =>
        exact .inr ⟨_, _, _, _, _, _, last, split, before, fails, hjoined⟩
  · have helements : operand.elements = [operand] := by
      cases operand with
      | list items => exact absurd rfl (hsingle items)
      | scalar | regex | map => rfl
    rw [Test.combineEach_eq, Test.combineEach_eq, Term.toList_parts, Term.toList_parts,
      helements]
    rfl

/-- Makes a test of a boolean that every revision passes or none, and counts its calls. -/
def flagTest : Maker Nat QueryError Term Predicate := fun part => do
  modify (· + 1)
  match part.bool? with
  | some flag => return Predicate.ofRevision fun _ => flag
  | none => throw (.operand "$flag" "a boolean")

theorem combineEach_calls_in_order_flags :
    let flag (value : Bool) : Term := .scalar (.bool value)
    (∀ items, flag true ≠ .list items) ∧
      Test.combineEach .or flagTest (flag true).parts =
        Test.combineEach .or flagTest (Term.list [flag true]).parts ∧
      Maker.outcome (Test.combineEach .or flagTest.listed
          (Term.list [flag true, .list [flag false], flag false]).parts) (0, []) =
        (.error (.operand "$flag" "a boolean"), 2, [flag true, .list [flag false]]) := by
  intro flag
  have hsingle : ∀ items, flag true ≠ .list items := nofun
  exact ⟨hsingle, (combineEach_calls_in_order .or flagTest).2.1 (flag true) hsingle, rfl⟩

end DocQuery
