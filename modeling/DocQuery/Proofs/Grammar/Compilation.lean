import DocQuery.Compiler
import DocQuery.Proofs.Grammar.Finding

/-!
# Compiled queries

A compiler with the standard catalog fails with the first error that is found in a
query, and what it makes otherwise is true of a revision exactly if the query is.  The
proof follows the fields of a query and the sub-queries in their operands.
-/

namespace DocQuery

/-! ## Clauses -/

def entryTest? (key : String) (entry : String × Term) : Option Predicate :=
  (Signed.ofText? entry.1).map fun signed => signed.test key entry.2

/-- What a field contributes to a compiled query. -/
def clauseOf (key : String) (term : Term) : Clause :=
  match form key term with
  | .pattern pattern =>
      .tests [Predicate.ofRevision fun revision =>
        pattern.occursIn (revision.field key).now]
  | .clause signed =>
      .tests [Predicate.ofRevision fun revision =>
        signed.outcome (signed.word.holds term (meansSome term revision) revision)]
  | .operators entries => .tests (entries.filterMap (entryTest? key))
  | .ignored => .tests []
  | .equality => .equality key term.toJson

def clausesOf (fields : List (String × Term)) : List Clause :=
  fields.map fun (key, term) => clauseOf key term

theorem equality?_clauseOf (key : String) (term : Term) :
    (clauseOf key term).equality? =
      if (form key term).isEquality then some (key, term.toJson) else none := by
  unfold clauseOf
  cases form key term <;> rfl

theorem keys_equalities (key : String) (fields : List (String × Term)) :
    (Entries.keys ((clausesOf fields).filterMap Clause.equality?)).contains key =
      hasEquality key fields := by
  induction fields with
  | nil =>
      rfl
  | cons field rest ih =>
      obtain ⟨other, term⟩ := field
      have hhead := equality?_clauseOf other term
      rw [hasEquality_cons, ← ih, clausesOf, List.map_cons,
        List.filterMap_cons, hhead, ← clausesOf]
      cases (form other term).isEquality with
      | false => simp
      | true => simp [Entries.keys, BEq.comm]

theorem all_entryTest? (key : String) (entries : List (String × Term))
    (revision : Revision) :
    ((entries.filterMap (entryTest? key)).all fun test => test.passes revision) =
      entries.all fun entry => entryHolds entry (revision.field key) := by
  induction entries with
  | nil =>
      rfl
  | cons entry rest ih =>
      rw [List.all_cons, ← ih, List.filterMap_cons, entryTest?, entryHolds]
      cases (Signed.ofText? entry.1 : Option (Signed FieldWord)) with
      | none => simp
      | some signed => rfl

/-- The tests of a field say what the field says, unless it is an equality. -/
theorem all_testList (key : String) (term : Term) (superseded : Bool)
    (revision : Revision) :
    ((clauseOf key term).testList.all fun test => test.passes revision) =
      ((form key term).isEquality ||
        fieldHolds key term superseded (meansSome term revision) revision) := by
  unfold clauseOf fieldHolds
  cases form key term with
  | pattern | clause =>
      exact Bool.and_true _
  | operators entries =>
      exact all_entryTest? key entries revision
  | ignored | equality =>
      rfl

def hasValue (revision : Revision) (expected : String × Json) : Bool :=
  Json.sameField (revision.field expected.1).now (some expected.2)

theorem passes_equalities (expected : Entries Json) (revision : Revision) :
    (Clause.equalities expected).passes revision = expected.all (hasValue revision) := by
  cases expected <;> rfl

/-- Clauses are passed if the values that count are there and all tests are passed. -/
theorem Clause.passes_assemble (clauses : List Clause) (revision : Revision) :
    (Clause.assemble clauses).passes revision =
      ((Entries.ofPairs (clauses.filterMap Clause.equality?)).all (hasValue revision) &&
        (clauses.flatMap Clause.testList).all fun test => test.passes revision) := by
  rw [Clause.assemble, Predicate.passes_combine_and, List.all_cons, passes_equalities]

/-- The equalities and the tests of fields say together what the fields say one by one. -/
theorem all_clausesOf (fields : List (String × Term)) (revision : Revision) :
    ((Entries.ofPairs ((clausesOf fields).filterMap Clause.equality?)).all
        (hasValue revision) &&
      ((clausesOf fields).flatMap Clause.testList).all fun test => test.passes revision) =
      means fields revision := by
  induction fields with
  | nil =>
      rw [means]
      rfl
  | cons field rest ih =>
      obtain ⟨key, term⟩ := field
      have hequality := equality?_clauseOf key term
      have htests := all_testList key term (hasEquality key rest) revision
      rw [means, ← ih, clausesOf, List.map_cons, List.filterMap_cons, hequality,
        List.flatMap_cons, List.all_append, htests, ← clausesOf]
      cases hplain : (form key term).isEquality with
      | true =>
          have hholds : fieldHolds key term (hasEquality key rest) (meansSome term revision)
              revision = (hasEquality key rest || hasValue revision (key, term.toJson)) := by
            rw [fieldHolds, Form.isEquality_iff.mp hplain]
            rfl
          rw [hholds, if_pos rfl, Entries.all_ofPairs_cons, keys_equalities, Bool.true_or,
            Bool.true_and, Bool.and_assoc]
      | false =>
          -- The tests of the field are asked after all equalities, those of later fields too.
          rw [if_neg Bool.false_ne_true, Bool.false_or, Bool.and_left_comm]

theorem assemble_clausesOf (fields : List (String × Term)) :
    Clause.assemble (clausesOf fields) = Predicate.ofRevision (means fields) := by
  refine Predicate.ext fun revision => ?_
  rw [Clause.passes_assemble, all_clausesOf, Predicate.passes_ofRevision]

/-! ## Operands -/

namespace Compiler

variable {compiler : Compiler}

/-- A compiler is faithful on a query if it fails with the first error that is found in
the query, and otherwise makes the test of what the query means. -/
def Faithful (compiler : Compiler) (fields : List (String × Term)) : Prop :=
  (compiler.compileFields fields).result =
    verdict (firstError? compiler.config.strict (findings fields))
      (Predicate.ofRevision (means fields))

theorem string?_operand (term : Term) :
    (compiler.operand term).string? = term.string? := by
  cases term with
  | scalar | regex | map | list =>
      rw [operand]
      rfl

theorem operands_eq_map (items : List Term) :
    compiler.operands items = items.map compiler.operand := by
  induction items with
  | nil =>
      rw [operands, List.map_nil]
  | cons item rest ih =>
      rw [operands, List.map_cons, ih]

theorem combineEach_operand (connective : Connective) (make : Operand → Outcome Predicate)
    (term : Term) :
    Test.combineEach connective make (compiler.operand term).parts =
      Test.combineEach connective (fun part => make (compiler.operand part)) term.parts := by
  cases term with
  | scalar | regex | map =>
      simp only [operand, Operand.parts, Term.parts, Test.combineEach]
  | list items =>
      simp only [operand, Operand.parts, Term.parts, Test.combineEach, operands_eq_map,
        List.mapM_map, Function.comp_def]

/-! ### Clause operators -/

/-- An operator that takes its operand item by item fails with the first error that is
found in an item. -/
theorem result_combineEach_operand {connective : Connective}
    {make : Operand → Outcome Predicate} (strict : Bool) (found : Term → List Finding)
    (value : Term → Predicate) {term : Term}
    (h : ∀ part ∈ term.elements, (make (compiler.operand part)).result =
      verdict (firstError? strict (found part)) (value part)) :
    (Test.combineEach connective make (compiler.operand term).parts).result =
      verdict (firstError? strict (term.elements.flatMap found))
        (Test.combine connective (term.elements.map value)) := by
  rw [← term.toList_parts] at h ⊢
  rw [combineEach_operand, result_combineEach_verdict h, firstError?_flatMap]

theorem result_hasFields (strict subquery : Bool) (subqueries : List Finding) (term : Term) :
    (Standard.hasFields (compiler.operand term)).result =
      verdict (firstError? strict (ClauseWord.hasFields.findings term subqueries))
        (Predicate.ofRevision (ClauseWord.hasFields.holds term subquery)) := by
  rw [Standard.hasFields, result_combineEach_operand strict
    (fun part =>
      if part.string?.isSome then [] else [.malformed ClauseWord.hasFields.fault])
    (fun part => Predicate.ofRevision fun revision =>
      part.string?.any fun key => (revision.field key).now.isSome)]
  · refine congrArg _ (Predicate.ext fun revision => ?_)
    rw [Predicate.passes_combine_and, List.all_map]
    rfl
  · intro part _
    rw [string?_operand]
    cases part.string? <;> rfl

theorem result_anyQuery {term : Term}
    (faithful : ∀ fields, Term.map fields ∈ term.elements → compiler.Faithful fields) :
    (Standard.anyQuery (compiler.operand term)).result =
      verdict (firstError? compiler.config.strict (term.elements.flatMap itemFindings))
        (Predicate.ofRevision (meansSome term)) := by
  rw [Standard.anyQuery, result_combineEach_operand compiler.config.strict itemFindings
    fun part => Predicate.ofRevision (meansItem part)]
  · refine congrArg _ (Predicate.ext fun revision => ?_)
    rw [Predicate.passes_combine_or, List.any_map, Predicate.passes_ofRevision, meansSome_eq]
    rfl
  · intro part hpart
    cases part with
    | map fields =>
        have hfields := faithful fields hpart
        rw [operand]
        exact hfields
    | scalar | regex | list =>
        rw [operand]
        rfl

/-- A clause operator fails with the first error that is found in its operand, and
otherwise tests what its word says. -/
theorem result_clauseOperator {term : Term}
    (faithful : ∀ fields, Term.map fields ∈ term.elements → compiler.Faithful fields)
    (signed : Signed ClauseWord) :
    (signed.clauseOperator (compiler.operand term)).result =
      verdict (firstError? compiler.config.strict
          (signed.word.findings term (term.elements.flatMap itemFindings)))
        (Predicate.ofRevision fun revision =>
          signed.outcome (signed.word.holds term (meansSome term revision) revision)) := by
  have hword : (signed.word.operator (compiler.operand term)).result =
      verdict (firstError? compiler.config.strict
          (signed.word.findings term (term.elements.flatMap itemFindings)))
        (Predicate.ofRevision fun revision =>
          signed.word.holds term (meansSome term revision) revision) := by
    cases signed.word with
    | hasFields => exact result_hasFields _ false _ term
    | anyQuery => exact result_anyQuery faithful
  have hsigned := signed.result_negated hword
  obtain ⟨word, negated⟩ := signed
  cases negated <;> exact hsigned

/-! ### Maps of field operators -/

theorem result_skipUnknown (name : String) :
    (compiler.skipUnknown name).result =
      verdict (firstError? compiler.config.strict [.unknown name]) () := by
  unfold skipUnknown
  cases h : compiler.config.strict <;> rfl

theorem result_fieldTests (made : compiler.catalog = .standard) (key : String)
    (entries : List (String × Term)) :
    (compiler.fieldTests key entries).result =
      verdict (firstError? compiler.config.strict (entries.flatMap entryFindings))
        (entries.filterMap (entryTest? key)) := by
  induction entries with
  | nil =>
      rfl
  | cons entry rest ih =>
      obtain ⟨name, operand⟩ := entry
      rw [List.flatMap_cons, firstError?_append, List.filterMap_cons, fieldTests, made,
        Catalog.standard_field, entryFindings, entryTest?]
      cases (Signed.ofText? name : Option (Signed FieldWord)) with
      | none =>
          simp only [Option.map_none, Reported.result_bind, result_skipUnknown, ih,
            bind_verdict]
      | some signed =>
          simp only [Option.map_some, Reported.result_bind, signed.result_fieldOperator, ih,
            Reported.result_pure, firstError?_toList]
          cases signed.word.fault? operand with
          | some error => rfl
          | none => cases firstError? _ (rest.flatMap entryFindings) <;> rfl

/-! ### Fields -/

theorem result_clause (made : compiler.catalog = .standard) (key : String) {term : Term}
    (faithful : ∀ fields, Term.map fields ∈ term.elements → compiler.Faithful fields) :
    (compiler.clause key term (compiler.operand term)).result =
      verdict (firstError? compiler.config.strict
          (fieldFindings key term (term.elements.flatMap itemFindings)))
        (clauseOf key term) := by
  by_cases hterm : ∃ pattern, term = .regex pattern
  · obtain ⟨pattern, rfl⟩ := hterm
    have hpattern : compiler.patternOperator? (.regex pattern) = some Standard.regex := by
      rw [patternOperator?, made]
      rfl
    rw [clause, hpattern, Reported.result_map, FieldWord.result_regex, map_verdict]
    rfl
  · have hnone : compiler.patternOperator? term = none := by
      cases term with
      | regex pattern => exact absurd ⟨pattern, rfl⟩ hterm
      | scalar | map | list => rfl
    rw [clause, hnone, made, Catalog.standard_clause]
    cases hkey : (Signed.ofText? key : Option (Signed ClauseWord)) with
    | some signed =>
        have hform := form_eq_clause_iff.mpr
          ⟨fun pattern h => hterm ⟨pattern, h⟩, hkey⟩
        rw [Option.map_some, Reported.result_map, result_clauseOperator faithful, map_verdict,
          fieldFindings, clauseOf, hform]
    | none =>
        rw [Option.map_none, fieldFindings, clauseOf]
        cases term with
        | regex pattern =>
            exact absurd ⟨pattern, rfl⟩ hterm
        | map entries =>
            rw [fieldClause, Reported.result_map, result_fieldTests made, map_verdict,
              form_eq_operators_iff.mpr ⟨hkey, rfl⟩]
        | scalar | list =>
            simp only [fieldClause, form, hkey]
            by_cases hmark : isOperatorKey key = true
            · simp only [if_pos hmark, Reported.result_bind, result_skipUnknown,
                Reported.result_pure]
              cases firstError? compiler.config.strict [.unknown key] <;> rfl
            · simp only [if_neg hmark]
              rfl

/-! ### Queries -/

theorem faithful_of_clauses {fields : List (String × Term)}
    (h : (compiler.clauses fields).result =
      verdict (firstError? compiler.config.strict (findings fields)) (clausesOf fields)) :
    compiler.Faithful fields := by
  rw [Faithful, compileFields, Reported.result_map, h, map_verdict, assemble_clausesOf]

theorem result_clauses (made : compiler.catalog = .standard)
    (fields : List (String × Term)) :
    (compiler.clauses fields).result =
      verdict (firstError? compiler.config.strict (findings fields)) (clausesOf fields) := by
  induction fields using fields_induction with
  | nil =>
      rw [clauses]
      rfl
  | cons key term rest hsub ih =>
      -- An operator that takes sub-queries compiles no others than those in its operand.
      have faithful : ∀ fields, Term.map fields ∈ term.elements →
          compiler.Faithful fields :=
        fun fields hmem => faithful_of_clauses (hsub fields hmem)
      have hclause := result_clause made key faithful
      rw [clauses, Reported.result_bind, hclause, findings_cons, firstError?_append]
      simp only [Reported.result_bind, ih, Reported.result_pure]
      cases firstError? _ (fieldFindings key term _) with
      | some error => rfl
      | none => cases firstError? _ (findings rest) <;> rfl

/-- A compiler with the standard operators is faithful on every query. -/
theorem faithful_of_standard (made : compiler.catalog = .standard)
    (fields : List (String × Term)) : compiler.Faithful fields :=
  faithful_of_clauses (result_clauses made fields)

theorem result_compile (compiler : Compiler) (query : Query) :
    (compiler.compile query).result = (compiler.compileFields query.fields).result := by
  have hreport : (compiler.reportCompiled query).result = .ok () := by
    unfold reportCompiled
    split <;> rfl
  simp only [compile, Reported.result_bind, hreport, Reported.result_pure]
  cases (compiler.compileFields query.fields).result <;> rfl

/-- Under the standard operators a query has the first error that is found in it, or else the
test of what it means. -/
theorem result_compile_standard (config : Config) (query : Query) :
    (({ config } : Compiler).compile query).result =
      verdict (firstError? config.strict (findings query.fields))
        (Predicate.ofRevision (means query.fields)) := by
  rw [result_compile]
  exact faithful_of_standard rfl query.fields

end Compiler

/-- A query compiles exactly if no error is found in it, and then to the test that passes
the documents, with or without a previous version, that the query is true of. -/
theorem compile_eq_ok_iff_means (config : Config) (query : Query) (predicate : Predicate) :
    (({ config } : Compiler).compile query).result = .ok predicate ↔
      firstError? config.strict (findings query.fields) = none ∧
        ∀ document previous,
          predicate.passes { current := document, previous } =
            means query.fields { current := document, previous } := by
  rw [Compiler.result_compile_standard, verdict_eq_ok_iff]
  refine and_congr_right fun _ => ⟨?_, ?_⟩
  · rintro rfl document previous
    rfl
  · intro hpasses
    refine Predicate.ext fun revision => ?_
    exact (hpasses revision.current revision.previous).symm

/-- Of the two equalities of a key only the last one counts, also behind a sub-query. -/
example :
    means [("a", .scalar .null),
        ("$or", .list [.map [("a", .map [("$gt", .scalar (.string "x"))])]]),
        ("a", .scalar (.string "y"))]
      { current := .object [("a", .string "y")] } = true := by
  decide

end DocQuery
