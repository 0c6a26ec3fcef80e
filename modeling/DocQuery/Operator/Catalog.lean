import DocQuery.Operator.Name
import DocQuery.Reported

/-!
# Operator catalogs

A catalog holds two tables of operators.  A field operator makes a test from a
field name and an operand; a clause operator stands in the place of a field and
makes a test from its operand alone.  Registering an operator also registers its
negation, so every operator can be negated.
-/

namespace DocQuery

abbrev Outcome (α : Type) := Reported QueryError α

abbrev FieldOperator := String → Term → Outcome Predicate

/-- The operand of a clause operator.  A map is given with what it means as a
sub-query. -/
inductive Operand
  | scalar (value : Json)
  | regex (pattern : Pattern)
  | query (fields : List (String × Term)) (compiled : Outcome Predicate)
  | list (items : List Operand)

/-- A list, or any other operand as a single part. -/
def Operand.parts : Operand → OneOrMany Operand
  | .list items => .many items
  | operand => .one operand

def Operand.string? : Operand → Option String
  | .scalar value => value.string?
  | _ => none

abbrev ClauseOperator := Operand → Outcome Predicate

def FieldOperator.negate (operator : FieldOperator) : FieldOperator :=
  fun field operand => Test.negate <$> operator field operand

def ClauseOperator.negate (operator : ClauseOperator) : ClauseOperator :=
  fun operand => Test.negate <$> operator operand

/-! ## Tables -/

inductive Origin
  | defined
  | derived
deriving DecidableEq

structure TableEntry (κ : Type) where
  operator : κ
  origin : Origin

structure OperatorTable (κ : Type) where
  entries : Entries (TableEntry κ) := []

namespace OperatorTable

variable {κ : Type}

def find? (table : OperatorTable κ) (name : String) : Option (TableEntry κ) :=
  Entries.find? name table.entries

def operator? (table : OperatorTable κ) (name : String) : Option κ :=
  (table.find? name).map TableEntry.operator

def origin? (table : OperatorTable κ) (name : String) : Option Origin :=
  (table.find? name).map TableEntry.origin

def names (table : OperatorTable κ) : List String :=
  (Entries.keys table.entries).mergeSort fun a b => (compare a b).isLE

/-- The report of a registration: whether the name was defined before. -/
def announcement (table : OperatorTable κ) (name : OperatorName) : LogEntry :=
  match table.origin? name.text with
  | some .defined =>
      LogEntry.ofEvent .operatorOverridden .info [("operator", name.text)]
  | _ => LogEntry.ofEvent .operatorDefined .trace [("operator", name.text)]

/-- Register an operator under its name, and its negation under the negated
name before that. -/
def register (table : OperatorTable κ) (negate : κ → κ) (name : OperatorName)
    (operator : κ) : OperatorTable κ where
  entries :=
    Entries.insert name.text { operator, origin := .defined }
      (Entries.insert name.negated.text { operator := negate operator, origin := .derived }
        table.entries)

end OperatorTable

/-! ## Catalogs -/

structure Catalog where
  fields : OperatorTable FieldOperator := {}
  clauses : OperatorTable ClauseOperator := {}

namespace Catalog

def registerField (catalog : Catalog) (name : OperatorName) (operator : FieldOperator) :
    Catalog where
  fields := catalog.fields.register FieldOperator.negate name operator
  clauses := catalog.clauses

def registerClause (catalog : Catalog) (name : OperatorName) (operator : ClauseOperator) :
    Catalog where
  fields := catalog.fields
  clauses := catalog.clauses.register ClauseOperator.negate name operator

/-- Define a field operator; a text that is no name changes nothing. -/
def define (catalog : Catalog) (name : String) (operator : FieldOperator) :
    Catalog × Outcome Unit :=
  match OperatorName.parse name with
  | .ok name =>
      (catalog.registerField name operator, Reported.report (catalog.fields.announcement name))
  | .error error => (catalog, Reported.fail error)

def defineClause (catalog : Catalog) (name : String) (operator : ClauseOperator) :
    Catalog × Outcome Unit :=
  match OperatorName.parse name with
  | .ok name =>
      (catalog.registerClause name operator,
        Reported.report (catalog.clauses.announcement name))
  | .error error => (catalog, Reported.fail error)

/-- Define field operators in order, up to the first text that is no name. -/
def defineAll (catalog : Catalog) :
    List (String × FieldOperator) → Catalog × Outcome Unit
  | [] => (catalog, pure ())
  | (name, operator) :: rest =>
      let (defined, outcome) := catalog.define name operator
      match outcome.result with
      | .error _ => (defined, outcome)
      | .ok () =>
          let (catalog, more) := defined.defineAll rest
          (catalog, outcome.andThen fun _ => more)

/-- Whether the operator with a name was derived by negation.  Field operators
are looked at first. -/
def isDerived (catalog : Catalog) (name : String) : Bool :=
  (catalog.fields.origin? name).or (catalog.clauses.origin? name) == some .derived

def nameList (names : List String) : String :=
  "[" ++ String.intercalate ", " (names.map Text.quoteName) ++ "]"

def summary (catalog : Catalog) : String :=
  "Registry \x7b inner: " ++ nameList catalog.fields.names ++ ", outer: "
    ++ nameList catalog.clauses.names ++ " \x7d"

end Catalog

end DocQuery
