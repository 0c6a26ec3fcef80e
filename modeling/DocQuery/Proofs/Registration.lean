import DocQuery.Operator.Standard

/-!
# Histories of registration

A catalog is made from the empty or the standard one by definitions, of which those
with a proper name are registered.  What a table then has under a text is what the
last registration left there that wrote it: as the name of its operator, or as the
name of its operator's negation.
-/

namespace DocQuery

abbrev Registration (κ : Type) := OperatorName × κ

variable {κ : Type}

/-- What a registration leaves under a text, if it writes it. -/
def Registration.written? (registration : Registration κ) (negate : κ → κ) (text : String) :
    Option (TableEntry κ) :=
  if registration.1.text = text then
    some { operator := registration.2, origin := .defined }
  else if registration.1.negated.text = text then
    some { operator := negate registration.2, origin := .derived }
  else none

theorem Registration.written?_self (negate : κ → κ) (name : OperatorName) (operator : κ) :
    Registration.written? (name, operator) negate name.text =
      some { operator, origin := .defined } :=
  if_pos rfl

theorem Registration.written?_negated (negate : κ → κ) (name : OperatorName) (operator : κ) :
    Registration.written? (name, operator) negate name.negated.text =
      some { operator := negate operator, origin := .derived } := by
  have hne : ¬ name.text = name.negated.text := fun h =>
    name.negated_ne (OperatorName.text_injective h).symm
  rw [written?, if_neg hne, if_pos rfl]

theorem Registration.written?_of_ne (registration : Registration κ) (negate : κ → κ)
    {name : OperatorName} (hname : registration.1 ≠ name)
    (hnegated : registration.1.negated ≠ name) :
    registration.written? negate name.text = none := by
  rw [written?, if_neg fun h => hname (OperatorName.text_injective h),
    if_neg fun h => hnegated (OperatorName.text_injective h)]

/-- A name is registered, and what is registered later writes neither the name nor the
name of its negation. -/
def Settled (registrations : List (Registration κ)) (name : OperatorName)
    (operator : κ) : Prop :=
  ∃ before after, registrations = before ++ (name, operator) :: after ∧
    ∀ later ∈ after, later.1 ≠ name ∧ later.1 ≠ name.negated ∧ later.1.negated ≠ name

/-! ## Tables -/

namespace OperatorTable

def registerAll (table : OperatorTable κ) (negate : κ → κ)
    (registrations : List (Registration κ)) : OperatorTable κ :=
  registrations.foldl
    (fun table registration => table.register negate registration.1 registration.2) table

theorem registerAll_append (table : OperatorTable κ) (negate : κ → κ)
    (before after : List (Registration κ)) :
    table.registerAll negate (before ++ after) =
      (table.registerAll negate before).registerAll negate after :=
  List.foldl_append

theorem find?_register (table : OperatorTable κ) (negate : κ → κ)
    (registration : Registration κ) (text : String) :
    (table.register negate registration.1 registration.2).find? text =
      (registration.written? negate text).or (table.find? text) := by
  unfold find? register Registration.written?
  rw [Entries.find?_insert, Entries.find?_insert]
  split
  · rfl
  · split <;> rfl

/-- The last registration that wrote a text decides what is found under it. -/
theorem find?_registerAll (table : OperatorTable κ) (negate : κ → κ)
    (registrations : List (Registration κ)) (text : String) :
    (table.registerAll negate registrations).find? text =
      (registrations.reverse.findSome? fun registration =>
        registration.written? negate text).or (table.find? text) := by
  induction registrations generalizing table with
  | nil =>
      rfl
  | cons registration rest ih =>
      have hrest := ih (table.register negate registration.1 registration.2)
      rw [registerAll, List.foldl_cons, ← registerAll, hrest, find?_register,
        List.reverse_cons, List.findSome?_append, Option.or_assoc]
      simp

theorem find?_registerAll_of_untouched (table : OperatorTable κ) (negate : κ → κ)
    {registrations : List (Registration κ)} {text : String}
    (untouched : ∀ registration ∈ registrations, registration.written? negate text = none) :
    (table.registerAll negate registrations).find? text = table.find? text := by
  have hnone : (registrations.reverse.findSome? fun registration =>
      registration.written? negate text) = none :=
    List.findSome?_eq_none_iff.mpr fun registration hmem =>
      untouched registration (List.mem_reverse.mp hmem)
  rw [find?_registerAll, hnone, Option.none_or]

theorem find?_registerAll_middle (table : OperatorTable κ) (negate : κ → κ)
    (before : List (Registration κ)) {after : List (Registration κ)}
    {registration : Registration κ} {text : String} {entry : TableEntry κ}
    (written : registration.written? negate text = some entry)
    (untouched : ∀ later ∈ after, later.written? negate text = none) :
    (table.registerAll negate (before ++ registration :: after)).find? text =
      some entry := by
  have hlater := find?_registerAll_of_untouched
    ((table.registerAll negate before).register negate registration.1 registration.2)
    negate untouched
  rw [registerAll_append]
  refine hlater.trans ?_
  rw [find?_register, written, Option.some_or]

theorem operator?_of_settled (table : OperatorTable κ) (negate : κ → κ)
    {registrations : List (Registration κ)} {name : OperatorName} {operator : κ}
    (settled : Settled registrations name operator) :
    (table.registerAll negate registrations).operator? name.text = some operator ∧
      (table.registerAll negate registrations).operator? name.negated.text =
        some (negate operator) := by
  obtain ⟨before, after, rfl, later⟩ := settled
  have hname := find?_registerAll_middle table negate before
    (Registration.written?_self negate name operator)
    fun registration hmem =>
      have ⟨hne, _, hnegated⟩ := later registration hmem
      registration.written?_of_ne negate hne hnegated
  have htwin := find?_registerAll_middle table negate before
    (Registration.written?_negated negate name operator)
    fun registration hmem =>
      have ⟨hne, htwin, _⟩ := later registration hmem
      registration.written?_of_ne negate htwin fun h =>
        hne (OperatorName.negated_injective h)
  constructor
  · rw [operator?, hname, Option.map_some]
  · rw [operator?, htwin, Option.map_some]

end OperatorTable

/-! ## Definitions -/

/-- A request to define operators. -/
inductive Definition
  | field (name : String) (operator : FieldOperator)
  | fields (definitions : List (String × FieldOperator))
  | clause (name : String) (operator : ClauseOperator)

namespace Definition

def apply (catalog : Catalog) : Definition → Catalog
  | field name operator => (catalog.define name operator).1
  | fields definitions => (catalog.defineAll definitions).1
  | clause name operator => (catalog.defineClause name operator).1

/-- The registrations that definitions in order make: those before the first text that
is no name. -/
def accepted : List (String × κ) → List (Registration κ)
  | [] => []
  | (text, operator) :: rest =>
      match OperatorName.parse text with
      | .ok name => (name, operator) :: accepted rest
      | .error _ => []

def fieldRegistrations : Definition → List (Registration FieldOperator)
  | field name operator => accepted [(name, operator)]
  | fields definitions => accepted definitions
  | clause _ _ => []

def clauseRegistrations : Definition → List (Registration ClauseOperator)
  | field _ _ => []
  | fields _ => []
  | clause name operator => accepted [(name, operator)]

theorem define_eq (catalog : Catalog) (text : String) (operator : FieldOperator) :
    (catalog.define text operator).1 =
      { catalog with
        fields := catalog.fields.registerAll FieldOperator.negate
          (accepted [(text, operator)]) } := by
  simp only [Catalog.define, accepted]
  cases OperatorName.parse text <;> rfl

theorem defineClause_eq (catalog : Catalog) (text : String) (operator : ClauseOperator) :
    (catalog.defineClause text operator).1 =
      { catalog with
        clauses := catalog.clauses.registerAll ClauseOperator.negate
          (accepted [(text, operator)]) } := by
  simp only [Catalog.defineClause, accepted]
  cases OperatorName.parse text <;> rfl

theorem defineAll_eq (catalog : Catalog) (definitions : List (String × FieldOperator)) :
    (catalog.defineAll definitions).1 =
      { catalog with
        fields := catalog.fields.registerAll FieldOperator.negate
          (accepted definitions) } := by
  induction definitions generalizing catalog with
  | nil =>
      rfl
  | cons definition rest ih =>
      obtain ⟨text, operator⟩ := definition
      simp only [Catalog.defineAll, Catalog.define, accepted]
      cases OperatorName.parse text with
      | error error =>
          rfl
      | ok name =>
          exact ih (catalog.registerField name operator)

theorem apply_eq (catalog : Catalog) (definition : Definition) :
    definition.apply catalog =
      { fields := catalog.fields.registerAll FieldOperator.negate
          definition.fieldRegistrations
        clauses := catalog.clauses.registerAll ClauseOperator.negate
          definition.clauseRegistrations } := by
  cases definition with
  | field name operator =>
      exact define_eq catalog name operator
  | fields definitions =>
      exact defineAll_eq catalog definitions
  | clause name operator =>
      exact defineClause_eq catalog name operator

end Definition

/-! ## Histories -/

/-- What a catalog starts from. -/
inductive CatalogStart
  | empty
  | standard

namespace CatalogStart

def catalog : CatalogStart → Catalog
  | empty => {}
  | standard => .standard

def fieldRegistrations : CatalogStart → List (Registration FieldOperator)
  | empty => []
  | standard => Standard.fieldOperators

def clauseRegistrations : CatalogStart → List (Registration ClauseOperator)
  | empty => []
  | standard => Standard.clauseOperators

end CatalogStart

structure History where
  start : CatalogStart
  definitions : List Definition

namespace History

/-- The catalog that a history leads to. -/
def catalog (history : History) : Catalog :=
  history.definitions.foldl Definition.apply history.start.catalog

def fieldRegistrations (history : History) : List (Registration FieldOperator) :=
  history.start.fieldRegistrations ++
    history.definitions.flatMap Definition.fieldRegistrations

def clauseRegistrations (history : History) : List (Registration ClauseOperator) :=
  history.start.clauseRegistrations ++
    history.definitions.flatMap Definition.clauseRegistrations

theorem addFields_eq (start : Catalog × List LogEntry)
    (operators : List (Registration FieldOperator)) :
    (Standard.addFields start operators).1 =
      { start.1 with
        fields := start.1.fields.registerAll FieldOperator.negate operators } := by
  induction operators generalizing start with
  | nil =>
      rfl
  | cons operator rest ih =>
      exact ih _

theorem addClauses_eq (start : Catalog × List LogEntry)
    (operators : List (Registration ClauseOperator)) :
    (Standard.addClauses start operators).1 =
      { start.1 with
        clauses := start.1.clauses.registerAll ClauseOperator.negate operators } := by
  induction operators generalizing start with
  | nil =>
      rfl
  | cons operator rest ih =>
      exact ih _

theorem start_eq (start : CatalogStart) :
    start.catalog =
      { fields := ({} : OperatorTable FieldOperator).registerAll FieldOperator.negate
          start.fieldRegistrations
        clauses := ({} : OperatorTable ClauseOperator).registerAll ClauseOperator.negate
          start.clauseRegistrations } := by
  cases start with
  | empty =>
      rfl
  | standard =>
      rw [CatalogStart.catalog, Catalog.standard, Standard.installation, addFields_eq,
        addClauses_eq]
      rfl

theorem foldl_apply_eq (definitions : List Definition) (catalog : Catalog) :
    definitions.foldl Definition.apply catalog =
      { fields := catalog.fields.registerAll FieldOperator.negate
          (definitions.flatMap Definition.fieldRegistrations)
        clauses := catalog.clauses.registerAll ClauseOperator.negate
          (definitions.flatMap Definition.clauseRegistrations) } := by
  induction definitions generalizing catalog with
  | nil =>
      rfl
  | cons definition rest ih =>
      rw [List.foldl_cons, ih, Definition.apply_eq, List.flatMap_cons, List.flatMap_cons,
        OperatorTable.registerAll_append, OperatorTable.registerAll_append]

/-- A catalog holds what its history registered, the start included. -/
theorem catalog_eq (history : History) :
    history.catalog =
      { fields := ({} : OperatorTable FieldOperator).registerAll FieldOperator.negate
          history.fieldRegistrations
        clauses := ({} : OperatorTable ClauseOperator).registerAll ClauseOperator.negate
          history.clauseRegistrations } := by
  rw [catalog, foldl_apply_eq, start_eq, fieldRegistrations, clauseRegistrations,
    OperatorTable.registerAll_append, OperatorTable.registerAll_append]

theorem field_of_settled (history : History) {name : OperatorName}
    {operator : FieldOperator} (settled : Settled history.fieldRegistrations name operator) :
    history.catalog.fields.operator? name.text = some operator ∧
      history.catalog.fields.operator? name.negated.text = some operator.negate := by
  rw [history.catalog_eq]
  exact OperatorTable.operator?_of_settled {} FieldOperator.negate settled

theorem clause_of_settled (history : History) {name : OperatorName}
    {operator : ClauseOperator}
    (settled : Settled history.clauseRegistrations name operator) :
    history.catalog.clauses.operator? name.text = some operator ∧
      history.catalog.clauses.operator? name.negated.text = some operator.negate := by
  rw [history.catalog_eq]
  exact OperatorTable.operator?_of_settled {} ClauseOperator.negate settled

end History

end DocQuery
