import DocQuery.Config
import DocQuery.Operator.Standard

/-!
# Compilation of queries

A query becomes one test.  A pattern under a key stands for the pattern
operator; a key that names a clause operator takes the whole term; a map under
any other key holds field operators; and any other term is an equality.  All
tests must pass, the equalities first and together.
-/

namespace DocQuery

structure Compiler where
  catalog : Catalog := .standard
  config : Config := {}

/-- What a field of a query contributes: tests, or the expected value of a field
of documents. -/
inductive Clause
  | tests (tests : List Predicate)
  | equality (field : String) (expected : Json)

namespace Clause

def testList : Clause → List Predicate
  | tests list => list
  | equality _ _ => []

def equality? : Clause → Option (String × Json)
  | tests _ => none
  | equality field expected => some (field, expected)

def equalities (expected : Entries Json) : Predicate :=
  match expected with
  | [] => Test.always
  | _ =>
      Predicate.ofDocument fun document =>
        expected.all fun (field, value) =>
          Json.sameField (document.field? field) (some value)

/-- The test that clauses make together.  Of several equalities of one field the
last one counts. -/
def assemble (clauses : List Clause) : Predicate :=
  Test.combine .and
    (equalities (Entries.ofPairs (clauses.filterMap equality?)) :: clauses.flatMap testList)

end Clause

namespace Compiler

/-- An operator that is not known: an error in strict mode, otherwise reported
and left out. -/
def skipUnknown (compiler : Compiler) (name : String) : Outcome Unit :=
  if compiler.config.strict then Reported.fail (.unknownOperator name)
  else Reported.report (LogEntry.ofEvent .operatorSkipped .trace [("operator", name)])

def fieldTests (compiler : Compiler) (field : String) :
    List (String × Term) → Outcome (List Predicate)
  | [] => pure []
  | (name, operand) :: rest =>
      match compiler.catalog.fields.operator? name with
      | some operator => do
          let test ← operator field operand
          let tests ← compiler.fieldTests field rest
          return test :: tests
      | none => do
          compiler.skipUnknown name
          compiler.fieldTests field rest

def fieldClause (compiler : Compiler) (key : String) (term : Term) : Outcome Clause :=
  match term with
  | .map operators => .tests <$> compiler.fieldTests key operators
  | .regex _ => do
      compiler.skipUnknown patternOperator
      return .tests []
  | _ =>
      if isOperatorKey key then do
        compiler.skipUnknown key
        return .tests []
      else return .equality key term.toJson

/-- The operator that takes a term in the place of a value, if the term is a
pattern and the catalog has the pattern operator. -/
def patternOperator? (compiler : Compiler) : Term → Option FieldOperator
  | .regex _ => compiler.catalog.fields.operator? patternOperator
  | _ => none

def clause (compiler : Compiler) (key : String) (term : Term) (operand : Operand) :
    Outcome Clause :=
  match compiler.patternOperator? term with
  | some operator => (fun test => .tests [test]) <$> operator key term
  | none =>
      match compiler.catalog.clauses.operator? key with
      | some operator => (fun test => .tests [test]) <$> operator operand
      | none => compiler.fieldClause key term

mutual

def clauses (compiler : Compiler) : List (String × Term) → Outcome (List Clause)
  | [] => pure []
  | (key, term) :: rest => do
      let clause ← compiler.clause key term (operand compiler term)
      let others ← clauses compiler rest
      return clause :: others

/-- A term as an operand: maps are compiled as sub-queries. -/
def operand (compiler : Compiler) : Term → Operand
  | .scalar value => .scalar value
  | .regex pattern => .regex pattern
  | .map fields => .query fields (Clause.assemble <$> clauses compiler fields)
  | .list items => .list (operands compiler items)

def operands (compiler : Compiler) : List Term → List Operand
  | [] => []
  | item :: rest => operand compiler item :: operands compiler rest

end

def compileFields (compiler : Compiler) (fields : List (String × Term)) :
    Outcome Predicate :=
  Clause.assemble <$> compiler.clauses fields

def reportCompiled (compiler : Compiler) (query : Query) : Outcome Unit :=
  if compiler.config.logCompiles then
    Reported.report
      (LogEntry.ofEvent .queryCompiled .trace [("fields", toString query.length)])
  else pure ()

def compile (compiler : Compiler) (query : Query) : Outcome Predicate := do
  let predicate ← compiler.compileFields query.fields
  compiler.reportCompiled query
  return predicate

/-- The test of a query that may be absent; an absent one passes everything. -/
def compileOptional (compiler : Compiler) : Option Query → Outcome Predicate
  | some query => compiler.compile query
  | none => pure Test.always

def compileJson (compiler : Compiler) (value : Json) : Outcome Predicate :=
  match value with
  | .null => pure Test.always
  | _ => do
      let query ← Reported.ofExcept (Query.ofJson value)
      compiler.compile query

end Compiler

end DocQuery
