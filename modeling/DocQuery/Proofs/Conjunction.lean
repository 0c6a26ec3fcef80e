import DocQuery.Proofs.Grammar.Compilation
import DocQuery.Proofs.Registration.Content

/-!
# Queries in a row

Two lists of fields in a row are compiled as the conjunction of both, whatever operators
are defined.  Only equalities reach across: of several of one key the last one counts, so
those of the first list drop out whose keys come again in the second.
-/

namespace DocQuery

/-! ## Equalities -/

/-- Whether a field is an equality: a plain key with a value or a list. -/
def isEquality (key : String) : Term → Bool
  | .scalar _ | .list _ => !isOperatorKey key
  | .map _ | .regex _ => false

def equates (fields : List (String × Term)) (key : String) : Bool :=
  fields.any fun field => isEquality field.1 field.2 && field.1 == key

/-- Fields without the equalities whose keys come again in fields behind them. -/
def withoutEqualitiesOf (second first : List (String × Term)) : List (String × Term) :=
  first.filter fun field => !(isEquality field.1 field.2 && equates second field.1)

/-! ## Clauses -/

namespace Clause

def isSuperseded (keys : List String) : Clause → Bool
  | tests _ => false
  | equality field _ => keys.contains field

theorem filterMap_equality?_filter (keys : List String) (clauses : List Clause) :
    (clauses.filter fun clause => !clause.isSuperseded keys).filterMap equality? =
      (clauses.filterMap equality?).filter fun pair => !keys.contains pair.1 := by
  induction clauses with
  | nil =>
      rfl
  | cons clause rest ih =>
      cases clause with
      | tests list => exact ih
      | equality field expected =>
          rw [List.filter_cons, isSuperseded, List.filterMap_cons, equality?, List.filter_cons]
          cases keys.contains field with
          | true => exact ih
          | false => exact congrArg (_ :: ·) ih

theorem flatMap_testList_filter (keys : List String) (clauses : List Clause) :
    (clauses.filter fun clause => !clause.isSuperseded keys).flatMap testList =
      clauses.flatMap testList := by
  induction clauses with
  | nil =>
      rfl
  | cons clause rest ih =>
      cases clause with
      | tests list => exact congrArg (list ++ ·) ih
      | equality field expected =>
          rw [List.filter_cons, isSuperseded]
          cases keys.contains field <;> exact ih

/-- Clauses in a row make the conjunction of both, but for the equalities in front whose
keys come again. -/
theorem passes_assemble_append (front back : List Clause) (revision : Revision) :
    (assemble (front ++ back)).passes revision =
      ((assemble (front.filter fun clause =>
          !clause.isSuperseded (Entries.keys (back.filterMap equality?)))).passes revision &&
        (assemble back).passes revision) := by
  rw [passes_assemble, passes_assemble, passes_assemble, List.filterMap_append,
    List.flatMap_append, List.all_append, Entries.all_ofPairs_append,
    filterMap_equality?_filter, flatMap_testList_filter]
  ac_rfl

theorem equality?_of_tests {α : Type} {outcome : Outcome α} {make : α → List Predicate}
    {clause : Clause} (made : ((fun value => tests (make value)) <$> outcome).result = .ok clause) :
    clause.equality? = none := by
  rw [Reported.result_map] at made
  cases houtcome : outcome.result with
  | error error =>
      rw [houtcome] at made
      cases made
  | ok value =>
      rw [houtcome] at made
      cases made
      rfl

theorem isSuperseded_of_equality? {clause : Clause} (h : clause.equality? = none)
    (keys : List String) : clause.isSuperseded keys = false := by
  cases clause with
  | tests list => rfl
  | equality field expected => cases h

end Clause

/-! ## Fields -/

/-- Every operator of a catalog that was made by definitions has a name with the mark. -/
theorem History.operator?_of_plainKey (history : History) {key : String}
    (hkey : isOperatorKey key = false) : history.catalog.clauses.operator? key = none := by
  have hrecords := OperatorTable.records_registerAll ClauseOperator.negate
    history.clauseRegistrations
  rw [history.catalog_eq, OperatorTable.operator?, hrecords.absent, Option.map_none]
  rintro registration _ (rfl | rfl) <;>
    · rw [OperatorName.isOperatorKey_text] at hkey
      cases hkey

namespace Compiler

variable {compiler : Compiler}

theorem result_clauses_cons (key : String) (term : Term) (rest : List (String × Term)) :
    (compiler.clauses ((key, term) :: rest)).result =
      (compiler.clause key term (compiler.operand term)).result.bind fun clause =>
        (compiler.clauses rest).result.map (clause :: ·) := by
  simp only [Compiler.clauses, Reported.result_bind, Reported.result_pure]
  rfl

theorem result_clauses_append (first second : List (String × Term)) :
    (compiler.clauses (first ++ second)).result =
      (compiler.clauses first).result.bind fun front =>
        (compiler.clauses second).result.map (front ++ ·) := by
  induction first with
  | nil =>
      rw [List.nil_append, Compiler.clauses]
      cases (compiler.clauses second).result <;> rfl
  | cons field rest ih =>
      rw [List.cons_append, result_clauses_cons, result_clauses_cons, ih]
      cases (compiler.clause field.1 field.2 (compiler.operand field.2)).result with
      | error error => rfl
      | ok clause =>
          cases (compiler.clauses rest).result with
          | error error => rfl
          | ok front => cases (compiler.clauses second).result <;> rfl

theorem compileFields_append_eq_error_iff (first second : List (String × Term))
    (error : QueryError) :
    (compiler.compileFields (first ++ second)).result = .error error ↔
      (compiler.compileFields first).result = .error error ∨
        (∃ predicate, (compiler.compileFields first).result = .ok predicate) ∧
          (compiler.compileFields second).result = .error error := by
  simp only [compileFields, Reported.result_map, result_clauses_append]
  cases (compiler.clauses first).result with
  | error other => simp [Except.bind, Except.map]
  | ok front => cases (compiler.clauses second).result <;> simp [Except.bind, Except.map]

/-- A field that is no equality contributes tests, if anything. -/
theorem equality?_of_clause {key : String} {term : Term} {operand : Operand} {clause : Clause}
    (hfield : isEquality key term = false)
    (made : (compiler.clause key term operand).result = .ok clause) : clause.equality? = none := by
  unfold Compiler.clause at made
  split at made
  · exact Clause.equality?_of_tests made
  · split at made
    · exact Clause.equality?_of_tests made
    · cases term with
      | map entries => exact Clause.equality?_of_tests made
      | regex pattern => exact Clause.equality?_of_tests made
      | scalar | list =>
          rw [isEquality, Bool.not_eq_false'] at hfield
          simp only [fieldClause, if_pos hfield] at made
          exact Clause.equality?_of_tests made

section

variable (marked : ∀ key, isOperatorKey key = false →
  compiler.catalog.clauses.operator? key = none)

include marked

theorem clause_of_isEquality {key : String} {term : Term} (hfield : isEquality key term = true)
    (operand : Operand) : compiler.clause key term operand = pure (.equality key term.toJson) := by
  cases term with
  | map | regex => cases hfield
  | scalar | list =>
      rw [isEquality, Bool.not_eq_true'] at hfield
      simp [clause, patternOperator?, marked key hfield, fieldClause, hfield]

theorem isSuperseded_of_clause {key : String} {term : Term} {operand : Operand} {clause : Clause}
    (made : (compiler.clause key term operand).result = .ok clause) (keys : List String) :
    clause.isSuperseded keys = (isEquality key term && keys.contains key) := by
  cases hfield : isEquality key term with
  | true =>
      rw [clause_of_isEquality marked hfield] at made
      cases made
      rfl
  | false => exact Clause.isSuperseded_of_equality? (equality?_of_clause hfield made) keys

theorem keys_of_clauses {fields : List (String × Term)} {clauses : List Clause}
    (made : (compiler.clauses fields).result = .ok clauses) (key : String) :
    (Entries.keys (clauses.filterMap Clause.equality?)).contains key = equates fields key := by
  induction fields generalizing clauses with
  | nil =>
      rw [Compiler.clauses] at made
      cases made
      rfl
  | cons field rest ih =>
      obtain ⟨other, term⟩ := field
      rw [result_clauses_cons] at made
      cases hclause : (compiler.clause other term (compiler.operand term)).result with
      | error error =>
          rw [hclause] at made
          cases made
      | ok clause =>
          cases hrest : (compiler.clauses rest).result with
          | error error =>
              rw [hclause, hrest] at made
              cases made
          | ok others =>
              rw [hclause, hrest] at made
              cases made
              rw [equates, List.any_cons, ← equates, ← ih hrest, List.filterMap_cons]
              cases hfield : isEquality other term with
              | true =>
                  rw [clause_of_isEquality marked hfield] at hclause
                  cases hclause
                  simp [Clause.equality?, Entries.keys, BEq.comm]
              | false =>
                  rw [equality?_of_clause hfield hclause, Bool.false_and, Bool.false_or]

/-- Fields that drop out take their clauses with them and nothing else. -/
theorem result_clauses_filter (first : List (String × Term)) {second : List (String × Term)}
    {keys : List String} (hkeys : ∀ key, keys.contains key = equates second key) :
    (compiler.clauses (withoutEqualitiesOf second first)).result =
      (compiler.clauses first).result.map fun clauses =>
        clauses.filter fun clause => !clause.isSuperseded keys := by
  induction first with
  | nil =>
      rw [withoutEqualitiesOf, List.filter_nil, Compiler.clauses]
      rfl
  | cons field rest ih =>
      obtain ⟨key, term⟩ := field
      rw [withoutEqualitiesOf, List.filter_cons, ← withoutEqualitiesOf, ← hkeys,
        result_clauses_cons]
      cases hclause : (compiler.clause key term (compiler.operand term)).result with
      | error error =>
          have hfield : isEquality key term = false := by
            cases hfield : isEquality key term with
            | false => rfl
            | true =>
                rw [clause_of_isEquality marked hfield] at hclause
                cases hclause
          rw [hfield, Bool.false_and, if_pos Bool.not_false, result_clauses_cons, hclause]
          rfl
      | ok clause =>
          rw [← isSuperseded_of_clause marked hclause keys]
          cases hkept : clause.isSuperseded keys with
          | true =>
              rw [if_neg (by simp), ih]
              cases (compiler.clauses rest).result with
              | error error => rfl
              | ok others => simp [Except.bind, Except.map, hkept]
          | false =>
              rw [if_pos Bool.not_false, result_clauses_cons, hclause, ih]
              cases (compiler.clauses rest).result with
              | error error => rfl
              | ok others => simp [Except.bind, Except.map, hkept]

theorem exists_of_compileFields_append {first second : List (String × Term)} {joined : Predicate}
    (made : (compiler.compileFields (first ++ second)).result = .ok joined) :
    ∃ front back,
      (compiler.compileFields (withoutEqualitiesOf second first)).result = .ok front ∧
        (compiler.compileFields second).result = .ok back ∧
        ∀ revision, joined.passes revision = (front.passes revision && back.passes revision) := by
  simp only [compileFields, Reported.result_map, result_clauses_append] at made ⊢
  cases hfirst : (compiler.clauses first).result with
  | error error =>
      rw [hfirst] at made
      cases made
  | ok front =>
      cases hsecond : (compiler.clauses second).result with
      | error error =>
          rw [hfirst, hsecond] at made
          cases made
      | ok back =>
          rw [hfirst, hsecond] at made
          cases made
          rw [result_clauses_filter marked first (keys_of_clauses marked hsecond), hfirst]
          exact ⟨_, _, rfl, rfl, Clause.passes_assemble_append front back⟩

end

end Compiler

/-! ## Histories -/

def History.compiler (history : History) (config : Config) : Compiler where
  catalog := history.catalog
  config := config

theorem withoutEqualitiesOf_eq_self {second first : List (String × Term)}
    (fresh : ∀ field ∈ first, isEquality field.1 field.2 = true →
      equates second field.1 = false) : withoutEqualitiesOf second first = first := by
  refine List.filter_eq_self.mpr fun field hmem => ?_
  cases hfield : isEquality field.1 field.2 with
  | true => rw [fresh field hmem hfield, Bool.and_false, Bool.not_false]
  | false => rw [Bool.false_and, Bool.not_false]

/-- Fields in a row fail with the first error of either list, and otherwise make the
conjunction of the second list with the first one, without the equalities that the second
has anew.  So fields behind others only narrow what passes, unless they replace an
equality. -/
theorem compileFields_append (history : History) (config : Config)
    (first second : List (String × Term)) :
    (∀ error, ((history.compiler config).compileFields (first ++ second)).result = .error error ↔
        ((history.compiler config).compileFields first).result = .error error ∨
          (∃ predicate, ((history.compiler config).compileFields first).result = .ok predicate) ∧
            ((history.compiler config).compileFields second).result = .error error) ∧
      (∀ joined, ((history.compiler config).compileFields (first ++ second)).result = .ok joined →
        ∃ front back,
          ((history.compiler config).compileFields (withoutEqualitiesOf second first)).result =
              .ok front ∧
            ((history.compiler config).compileFields second).result = .ok back ∧
            ∀ document previous,
              joined.passes { current := document, previous } =
                (front.passes { current := document, previous } &&
                  back.passes { current := document, previous })) ∧
      ((∀ field ∈ first, isEquality field.1 field.2 = true → equates second field.1 = false) →
        ∀ joined front,
          ((history.compiler config).compileFields (first ++ second)).result = .ok joined →
          ((history.compiler config).compileFields first).result = .ok front →
          ∀ document previous, joined.passes { current := document, previous } = true →
            front.passes { current := document, previous } = true) := by
  have marked : ∀ key, isOperatorKey key = false →
      (history.compiler config).catalog.clauses.operator? key = none :=
    fun _ => history.operator?_of_plainKey
  refine ⟨Compiler.compileFields_append_eq_error_iff first second,
    fun joined made => ?_, fun fresh joined front made hfirst document previous hpasses => ?_⟩
  · obtain ⟨front, back, hfront, hback, hand⟩ :=
      Compiler.exists_of_compileFields_append marked made
    exact ⟨front, back, hfront, hback, fun _ _ => hand _⟩
  · obtain ⟨kept, back, hkept, _, hand⟩ := Compiler.exists_of_compileFields_append marked made
    rw [withoutEqualitiesOf_eq_self fresh, hfirst] at hkept
    cases hkept
    rw [hand, Bool.and_eq_true] at hpasses
    exact hpasses.1

/-- The standard operators with `$gt` defined anew. -/
def greaterRedefined : History where
  start := .standard
  definitions := [.field "$gt" Standard.present]

def repeatedFirst : List (String × Term) :=
  [("a", .scalar .null), ("b", .map [("$gt", .scalar (.bool true))]), ("c", .scalar .null)]

def repeatedSecond : List (String × Term) :=
  [("$or", .list [.map [("a", .scalar .null)], .map []]), ("a", .list [])]

theorem compileFields_append_repeatedKey :
    (∃ joined front back,
      ((greaterRedefined.compiler {}).compileFields (repeatedFirst ++ repeatedSecond)).result =
          .ok joined ∧
        ((greaterRedefined.compiler {}).compileFields
          [("b", .map [("$gt", .scalar (.bool true))]), ("c", .scalar .null)]).result = .ok front ∧
        ((greaterRedefined.compiler {}).compileFields repeatedSecond).result = .ok back ∧
        ∀ document previous,
          joined.passes { current := document, previous } =
            (front.passes { current := document, previous } &&
              back.passes { current := document, previous })) ∧
      ∃ joined front,
        ((greaterRedefined.compiler {}).compileFields
          (repeatedFirst ++ [("d", .scalar .null)])).result = .ok joined ∧
        ((greaterRedefined.compiler {}).compileFields repeatedFirst).result = .ok front ∧
        ∀ document previous, joined.passes { current := document, previous } = true →
          front.passes { current := document, previous } = true := by
  obtain ⟨_, hjoined, _⟩ := compileFields_append greaterRedefined {} repeatedFirst repeatedSecond
  obtain ⟨_, _, hnarrows⟩ :=
    compileFields_append greaterRedefined {} repeatedFirst [("d", .scalar .null)]
  constructor
  · obtain ⟨front, back, hfront, hback, hand⟩ := hjoined _ rfl
    exact ⟨_, front, back, rfl, hfront, hback, hand⟩
  · have hfresh : ∀ field ∈ repeatedFirst, isEquality field.1 field.2 = true →
        equates [("d", .scalar .null)] field.1 = false := by
      simp [repeatedFirst, equates, isEquality]
    exact ⟨_, _, rfl, rfl, hnarrows hfresh _ _ rfl rfl⟩

end DocQuery
