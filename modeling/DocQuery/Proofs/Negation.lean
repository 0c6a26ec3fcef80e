import DocQuery.Compiler
import DocQuery.Proofs.Joining
import DocQuery.Proofs.Registration

/-!
# Negated operators

However a catalog was made, a query with the negation of an operator is the opposite
of the query with the operator itself, as long as nothing registered since has taken
the name of either.
-/

namespace DocQuery

/-! ## Queries of one operator -/

namespace Clause

theorem assemble_test (test : Predicate) : assemble [tests [test]] = test := by
  apply Predicate.ext
  intro revision
  have hjoined : assemble [tests [test]] = Test.combine .and [Test.always, test] := rfl
  rw [hjoined, Predicate.passes_combine_and]
  simp

end Clause

namespace Compiler

variable (compiler : Compiler)

theorem result_compileFields_singleton (key : String) (term : Term) :
    (compiler.compileFields [(key, term)]).result =
      (compiler.clause key term (compiler.operand term)).result.map fun clause =>
        Clause.assemble [clause] := by
  simp only [compileFields, clauses, Reported.result_map, Reported.result_bind,
    Reported.result_pure]
  cases (compiler.clause key term (compiler.operand term)).result <;> rfl

theorem result_compileFields_field {field name : String} {operator : FieldOperator}
    (hfield : compiler.catalog.clauses.operator? field = none)
    (hname : compiler.catalog.fields.operator? name = some operator) (operand : Term) :
    (compiler.compileFields [(field, .map [(name, operand)])]).result =
      (operator field operand).result := by
  rw [result_compileFields_singleton]
  simp only [clause, patternOperator?, hfield, fieldClause, fieldTests, hname,
    Reported.result_map, Reported.result_bind, Reported.result_pure]
  cases (operator field operand).result with
  | error error =>
      rfl
  | ok test =>
      exact congrArg Except.ok (Clause.assemble_test test)

/-- A field whose key is a known clause operator is tested by that operator alone,
unless a pattern stands there. -/
theorem result_compileFields_clause {key : String} {operator : ClauseOperator}
    (hkey : compiler.catalog.clauses.operator? key = some operator) {term : Term}
    (hterm : compiler.patternOperator? term = none) :
    (compiler.compileFields [(key, term)]).result =
      (operator (compiler.operand term)).result := by
  rw [result_compileFields_singleton]
  simp only [clause, hterm, hkey, Reported.result_map]
  cases (operator (compiler.operand term)).result with
  | error error =>
      rfl
  | ok test =>
      exact congrArg Except.ok (Clause.assemble_test test)

end Compiler

/-! ## Opposites -/

/-- Two outcomes are opposite if they fail alike, and if of their tests always just one
passes. -/
def Opposite (a b : Outcome Predicate) : Prop :=
  (∀ error, a.result = .error error ↔ b.result = .error error) ∧
    ∀ p q, a.result = .ok p → b.result = .ok q →
      ∀ revision, p.passes revision = !q.passes revision

theorem opposite_of_negate {a b : Outcome Predicate}
    (h : a.result = b.result.map Test.negate) : Opposite a b := by
  unfold Opposite
  rw [h]
  cases b.result with
  | error error =>
      exact ⟨fun other => Iff.rfl, fun p q hp => (nomatch hp)⟩
  | ok test =>
      refine ⟨fun other => ⟨(nomatch ·), (nomatch ·)⟩, ?_⟩
      intro p q hp hq revision
      cases hp
      cases hq
      exact Predicate.passes_negate test revision

section

variable {compiler : Compiler} {name : OperatorName}

theorem opposite_fields {operator : FieldOperator} {field : String}
    (hfield : compiler.catalog.clauses.operator? field = none)
    (hname : compiler.catalog.fields.operator? name.text = some operator)
    (hnegated : compiler.catalog.fields.operator? name.negated.text = some operator.negate)
    (operand : Term) :
    Opposite (compiler.compileFields [(field, .map [(name.negated.text, operand)])])
      (compiler.compileFields [(field, .map [(name.text, operand)])]) := by
  have hpositive := compiler.result_compileFields_field hfield hname operand
  have hnegative := compiler.result_compileFields_field hfield hnegated operand
  apply opposite_of_negate
  rw [hpositive, hnegative, FieldOperator.negate, Reported.result_map]

theorem opposite_clauses {operator : ClauseOperator}
    (hname : compiler.catalog.clauses.operator? name.text = some operator)
    (hnegated : compiler.catalog.clauses.operator? name.negated.text = some operator.negate)
    {operand : Term} (hoperand : ∀ pattern, operand ≠ .regex pattern) :
    Opposite (compiler.compileFields [(name.negated.text, operand)])
      (compiler.compileFields [(name.text, operand)]) := by
  -- A pattern would be tested as a pattern of a field with the name of the operator.
  have hterm : compiler.patternOperator? operand = none := by
    cases operand with
    | regex pattern => exact absurd rfl (hoperand pattern)
    | _ => rfl
  have hpositive := compiler.result_compileFields_clause hname hterm
  have hnegative := compiler.result_compileFields_clause hnegated hterm
  apply opposite_of_negate
  rw [hpositive, hnegative, ClauseOperator.negate, Reported.result_map]

end

/-- The negation of an operator is its opposite in every catalog that definitions lead
to, as long as the name and that of the negation are not written again. -/
theorem opposite_of_settled (history : History) (compiler : Compiler)
    (made : compiler.catalog = history.catalog) (name : OperatorName) :
    (∀ operator, Settled history.fieldRegistrations name operator →
      ∀ field, compiler.catalog.clauses.operator? field = none → ∀ operand,
        Opposite (compiler.compileFields [(field, .map [(name.negated.text, operand)])])
          (compiler.compileFields [(field, .map [(name.text, operand)])])) ∧
    (∀ operator, Settled history.clauseRegistrations name operator →
      ∀ operand, (∀ pattern, operand ≠ .regex pattern) →
        Opposite (compiler.compileFields [(name.negated.text, operand)])
          (compiler.compileFields [(name.text, operand)])) := by
  constructor
  · intro operator settled field hfield operand
    obtain ⟨hname, hnegated⟩ := history.field_of_settled settled
    rw [← made] at hname hnegated
    exact opposite_fields hfield hname hnegated operand
  · intro operator settled operand hoperand
    obtain ⟨hname, hnegated⟩ := history.clause_of_settled settled
    rw [← made] at hname hnegated
    exact opposite_clauses hname hnegated hoperand

/-- The standard operators with `$gt` and `$or` defined anew, and other definitions around
them: of the negation before, of a text that is no name, and of what stands behind it. -/
def redefined : History where
  start := .standard
  definitions :=
    [.fields [("$notgt", Standard.nil), ("$gt", Standard.present)],
      .fields [("$lt", Standard.nil), ("gt", Standard.nil), ("$notgt", Standard.nil)],
      .clause "$or" Standard.hasFields]

def redefinedCompiler : Compiler where
  catalog := redefined.catalog
  config := { strict := true }

theorem opposite_of_redefined :
    Opposite
        (redefinedCompiler.compileFields [("a", .map [("$notgt", .scalar (.bool true))])])
        (redefinedCompiler.compileFields [("a", .map [("$gt", .scalar (.bool true))])]) ∧
      Opposite
        (redefinedCompiler.compileFields [("$notor", .list [.scalar (.string "b"), .map []])])
        (redefinedCompiler.compileFields [("$or", .list [.scalar (.string "b"), .map []])]) := by
  have hgt : Settled redefined.fieldRegistrations { body := "gt" } Standard.present :=
    ⟨Standard.fieldOperators ++ [({ body := "notgt" }, Standard.nil)],
      [({ body := "lt" }, Standard.nil)], rfl, by decide⟩
  have hor : Settled redefined.clauseRegistrations { body := "or" } Standard.hasFields :=
    ⟨Standard.clauseOperators, [], rfl, nofun⟩
  have hfields := (opposite_of_settled redefined redefinedCompiler rfl { body := "gt" }).1
    Standard.present hgt "a" rfl (.scalar (.bool true))
  have hclauses := (opposite_of_settled redefined redefinedCompiler rfl { body := "or" }).2
    Standard.hasFields hor (.list [.scalar (.string "b"), .map []]) nofun
  have htexts : ({ body := "gt" } : OperatorName).text = "$gt" ∧
      ({ body := "gt" } : OperatorName).negated.text = "$notgt" ∧
      ({ body := "or" } : OperatorName).text = "$or" ∧
      ({ body := "or" } : OperatorName).negated.text = "$notor" := by
    decide
  obtain ⟨hg, hng, ho, hno⟩ := htexts
  rw [hg, hng] at hfields
  rw [ho, hno] at hclauses
  exact ⟨hfields, hclauses⟩
end DocQuery
