import DocQuery.Operator.Catalog
import DocQuery.Query.NormalForm
import DocQuery.Text.Lowercase

/-!
# Standard operators

The operators that every catalog starts with.  Clause operators: some sub-query
passes, or every named field is present.  Field operators test presence,
equality, order, text, remainders, and how a field changed since the previous
version of the document.
-/

namespace DocQuery

namespace Standard

/-! ## Operands -/

def refuse {α : Type} (operator expected : String) : Outcome α :=
  Reported.fail (.operand operator expected)

def require {α : Type} (operator expected : String) : Option α → Outcome α
  | some value => pure value
  | none => refuse operator expected

def requireBool (operator : String) (operand : Term) : Outcome Bool :=
  require operator "a boolean" operand.bool?

/-- The operand must have a value, which all but patterns have. -/
def requireValue (operator : String) (operand : Term) : Outcome Json :=
  require operator "a value" operand.value?

/-! ## Clause operators -/

def hasFields : ClauseOperator := fun operand =>
  Test.combineEach .and
    (fun part => do
      let key ← require "$has" "a field name or list of field names" part.string?
      return Predicate.ofDocument fun document => (document.field? key).isSome)
    operand.parts

def anyQuery : ClauseOperator := fun operand =>
  Test.combineEach .or
    (fun part =>
      match part with
      | .query _ compiled => compiled
      | _ => refuse "$or" "a list of sub-queries")
    operand.parts

/-! ## Presence and equality -/

def present : FieldOperator := fun field operand => do
  let expected ← requireBool "$exists" operand
  return Predicate.ofDocument fun document => (document.field? field).isSome == expected

def isNil : Option Json → Bool
  | none => true
  | some .null => true
  | some _ => false

def nil : FieldOperator := fun field operand => do
  let expected ← requireBool "$nil" operand
  return Predicate.ofDocument fun document => isNil (document.field? field) == expected

def equalTo (field : String) (expected : Json) : Predicate :=
  Predicate.ofDocument fun document => Json.sameField (document.field? field) (some expected)

def anyOf : FieldOperator := fun field operand =>
  Test.combineEach .or (fun part => equalTo field <$> requireValue "$any" part) operand.parts

/-! ## Text -/

/-- Whether a field is a string with a text in it, both in lower case. -/
def hasText (needle : List Char) : Option Json → Bool
  | some (.string text) => Text.contains needle (Text.lowercase text.toList)
  | _ => false

def like : FieldOperator := fun field operand =>
  Test.combineEach .and
    (fun part => do
      let text ← require "$like" "a string or list of strings" part.string?
      let needle := Text.lowercase text.toList
      return Predicate.ofDocument fun document => hasText needle (document.field? field))
    operand.parts

/-- The pattern of an operand: a pattern, or a string with its literal. -/
def patternOf : Term → Outcome Pattern
  | .regex pattern => pure pattern
  | .scalar (.string literal) => Reported.ofExcept (Pattern.ofLiteral literal)
  | _ => refuse patternOperator "a regex or a \"/source/flags\" string"

def hasMatch (pattern : Pattern) : Option Json → Bool
  | some value => pattern.matchesValue value
  | none => false

def regex : FieldOperator := fun field operand => do
  let pattern ← patternOf operand
  return Predicate.ofDocument fun document => hasMatch pattern (document.field? field)

/-- The field differs from a value, or has no match. -/
def differs : FieldOperator := fun field operand =>
  match operand with
  | .regex _ => Test.negate <$> regex field operand
  | _ => (fun expected => Test.negate (equalTo field expected)) <$> requireValue "$not" operand

/-! ## Order and remainders -/

/-- Whether a field stands to a bound in an accepted order. -/
def inOrder (accepts : Ordering → Bool) (bound : Json) : Option Json → Bool
  | some value => (value.compare? bound).any accepts
  | none => false

def ordered (operator : String) (accepts : Ordering → Bool) : FieldOperator :=
  fun field operand => do
    let bound ← require operator "a number, string or boolean" operand.scalar?
    return Predicate.ofDocument fun document => inOrder accepts bound (document.field? field)

def leaves (divisor remainder : Binary64) : Option Json → Bool
  | some value => value.binary64?.any fun x => x.isRemainder divisor remainder
  | none => false

def divisorPair? : Term → Option (Binary64 × Binary64)
  | .list [divisor, remainder] => do
      let divisor ← divisor.binary64?
      let remainder ← remainder.binary64?
      some (divisor, remainder)
  | _ => none

def modulo : FieldOperator := fun field operand => do
  let (divisor, remainder) ←
    require "$mod" "a [divisor, remainder] list of numbers" (divisorPair? operand)
  return Predicate.ofDocument fun document => leaves divisor remainder (document.field? field)

/-! ## Transitions -/

/-- Whether a field differs from that of the previous version, if there is one. -/
def hasChanged (field : String) (revision : Revision) : Bool :=
  match revision.previous with
  | none => true
  | some previous => !Json.sameField (revision.current.field? field) (previous.field? field)

def changed : FieldOperator := fun field operand => do
  let expected ← requireBool "$changed" operand
  return Predicate.ofRevision fun revision => hasChanged field revision == expected

def holds (field : String) (expected document : Json) : Bool :=
  Json.sameField (document.field? field) (some expected)

/-- Whether a field had a value and has it no more. -/
def hasLeft (field : String) (expected : Json) (revision : Revision) : Bool :=
  match revision.previous with
  | none => false
  | some previous => holds field expected previous && !holds field expected revision.current

def leftFrom : FieldOperator := fun field operand =>
  Test.combineEach .or
    (fun part =>
      (fun expected => Predicate.ofRevision (hasLeft field expected))
        <$> requireValue "$from" part)
    operand.parts

/-- Whether a field has a value and did not have it before. -/
def hasReached (field : String) (expected : Json) (revision : Revision) : Bool :=
  holds field expected revision.current
    && match revision.previous with
      | none => true
      | some previous => !holds field expected previous

def changedTo : FieldOperator := fun field operand =>
  Test.combineEach .or
    (fun part =>
      (fun expected => Predicate.ofRevision (hasReached field expected))
        <$> requireValue "$to" part)
    operand.parts

/-! ## The catalog -/

def clauseOperators : List (OperatorName × ClauseOperator) :=
  [({ body := "has" }, hasFields), ({ body := "or" }, anyQuery)]

def fieldOperators : List (OperatorName × FieldOperator) :=
  [({ body := "not" }, differs),
    ({ body := "exists" }, present),
    ({ body := "nil" }, nil),
    ({ body := "any" }, anyOf),
    ({ body := "like" }, like),
    ({ body := "regex" }, regex),
    ({ body := "gt" }, ordered "$gt" fun o => o == .gt),
    ({ body := "gte" }, ordered "$gte" fun o => o != .lt),
    ({ body := "lt" }, ordered "$lt" fun o => o == .lt),
    ({ body := "lte" }, ordered "$lte" fun o => o != .gt),
    ({ body := "mod" }, modulo),
    ({ body := "changed" }, changed),
    ({ body := "from" }, leftFrom),
    ({ body := "to" }, changedTo)]

def addClauses (start : Catalog × List LogEntry)
    (operators : List (OperatorName × ClauseOperator)) : Catalog × List LogEntry :=
  operators.foldl
    (fun (catalog, entries) (name, operator) =>
      (catalog.registerClause name operator, entries ++ [catalog.clauses.announcement name]))
    start

def addFields (start : Catalog × List LogEntry)
    (operators : List (OperatorName × FieldOperator)) : Catalog × List LogEntry :=
  operators.foldl
    (fun (catalog, entries) (name, operator) =>
      (catalog.registerField name operator, entries ++ [catalog.fields.announcement name]))
    start

/-- The standard catalog, with what its making reports. -/
def installation : Catalog × List LogEntry :=
  addFields (addClauses ({}, []) clauseOperators) fieldOperators

end Standard

def Catalog.standard : Catalog :=
  Standard.installation.1

end DocQuery
