import DocQuery.Predicate
import DocQuery.Reported

/-!
# Verdicts

A verdict fails where there is a fault and otherwise gives a value.  Verdicts in a
row fail with their first fault, and without any fault they give all their values.
-/

namespace DocQuery

variable {ε α β : Type}

/-- A failure if there is a fault, and otherwise a value. -/
def verdict (fault : Option ε) (value : α) : Except ε α :=
  match fault with
  | some error => .error error
  | none => .ok value

@[simp] theorem verdict_none (value : α) : verdict (none : Option ε) value = .ok value :=
  rfl

@[simp] theorem verdict_some (error : ε) (value : α) :
    verdict (some error) value = .error error :=
  rfl

theorem verdict_eq_ok_iff {fault : Option ε} {value other : α} :
    verdict fault value = .ok other ↔ fault = none ∧ value = other := by
  cases fault <;> simp

theorem map_verdict (f : α → β) (fault : Option ε) (value : α) :
    (verdict fault value).map f = verdict fault (f value) := by
  cases fault <;> rfl

/-- Work after a verdict: the first fault counts. -/
theorem bind_verdict (first second : Option ε) (value : α) (next : β) :
    ((verdict first value).bind fun _ => verdict second next) =
      verdict (first.or second) next := by
  cases first <;> rfl

/-! ## Verdicts in a row -/

theorem result_mapM_verdict {parts : List α} {make : α → Reported ε β}
    {fault : α → Option ε} {value : α → β}
    (h : ∀ part ∈ parts, (make part).result = verdict (fault part) (value part)) :
    (parts.mapM make).result = verdict (parts.findSome? fault) (parts.map value) := by
  induction parts with
  | nil =>
      rfl
  | cons part rest ih =>
      have hpart := h part List.mem_cons_self
      have hrest := ih fun other hmem => h other (List.mem_cons_of_mem _ hmem)
      rw [List.mapM_cons, Reported.result_bind, hpart, List.findSome?_cons]
      cases fault part with
      | some error =>
          rfl
      | none =>
          simp only [verdict_none, Except.bind, Reported.result_bind, hrest,
            Reported.result_pure]
          cases rest.findSome? fault <;> rfl

/-- Tests of the parts of an operand, joined: the first faulty part counts, and a
single part counts as a list of its own. -/
theorem result_combineEach_verdict {connective : Connective}
    {make : α → Reported ε Predicate} {fault : α → Option ε} {value : α → Predicate} :
    ∀ {operand : OneOrMany α},
      (∀ part ∈ operand.toList, (make part).result = verdict (fault part) (value part)) →
        (Test.combineEach connective make operand).result =
          verdict (operand.toList.findSome? fault)
            (Test.combine connective (operand.toList.map value))
  | .one part, h => by
      rw [Test.combineEach, h part List.mem_cons_self]
      cases hfault : fault part <;> simp [OneOrMany.toList, hfault, Test.combine]
  | .many parts, h => by
      have hparts : (parts.mapM make).result =
          verdict (parts.findSome? fault) (parts.map value) := result_mapM_verdict h
      rw [Test.combineEach, Reported.result_map, hparts, map_verdict]
      rfl

end DocQuery
