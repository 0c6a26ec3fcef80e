import DocQuery.Proofs.Grammar.Meaning

/-!
# What can be wrong with queries

A query is read from left to right, and the sub-queries in an operand where the operand
stands.  What is found on the way is an operand of the wrong shape or a name that is not
known; the first counts always and the second only where unknown names are refused.
-/

namespace DocQuery

/-! ## Findings -/

/-- What can be found wrong at one place of a query. -/
inductive Finding
  | malformed (error : QueryError)
  | unknown (name : String)
deriving DecidableEq

namespace Finding

/-- The error of a finding; an unknown name is one in strict mode only. -/
def error? (strict : Bool) : Finding → Option QueryError
  | malformed error => some error
  | unknown name => if strict then some (.unknownOperator name) else none

def name? : Finding → Option String
  | malformed _ => none
  | unknown name => some name

def isMalformed : Finding → Bool
  | malformed _ => true
  | unknown _ => false

end Finding

def firstError? (strict : Bool) (findings : List Finding) : Option QueryError :=
  findings.findSome? (Finding.error? strict)

theorem firstError?_append (strict : Bool) (first second : List Finding) :
    firstError? strict (first ++ second) =
      (firstError? strict first).or (firstError? strict second) :=
  List.findSome?_append

theorem firstError?_flatMap {α : Type} (strict : Bool) (parts : List α)
    (found : α → List Finding) :
    firstError? strict (parts.flatMap found) =
      parts.findSome? fun part => firstError? strict (found part) := by
  induction parts with
  | nil =>
      rfl
  | cons part rest ih =>
      rw [List.flatMap_cons, firstError?_append, ih, List.findSome?_cons]
      cases firstError? strict (found part) <;> rfl

theorem filter_of_malformed {findings : List Finding}
    (malformed : ∀ finding ∈ findings, finding.isMalformed = true) :
    findings.filter Finding.isMalformed = findings :=
  List.filter_eq_self.mpr malformed

theorem names_of_malformed {findings : List Finding}
    (malformed : ∀ finding ∈ findings, finding.isMalformed = true) :
    findings.filterMap Finding.name? = [] := by
  rw [List.filterMap_eq_nil_iff]
  intro finding hmem
  have hfinding := malformed finding hmem
  cases finding with
  | malformed error => rfl
  | unknown name => cases hfinding

theorem firstError?_toList (strict : Bool) (fault : Option QueryError) :
    firstError? strict (fault.toList.map .malformed) = fault := by
  cases fault <;> rfl

/-! ## Operands and names -/

namespace ClauseWord

def fault : ClauseWord → QueryError
  | hasFields => .operand "$has" "a field name or list of field names"
  | anyQuery => .operand "$or" "a list of sub-queries"

/-- What is found in the operand of a clause word, given what is found in its
sub-queries. -/
def findings (word : ClauseWord) (operand : Term) (subqueries : List Finding) :
    List Finding :=
  match word with
  | hasFields =>
      operand.elements.flatMap fun part =>
        if part.string?.isSome then [] else [.malformed hasFields.fault]
  | anyQuery => subqueries

theorem malformed_hasFields (operand : Term) (subqueries : List Finding) :
    ∀ finding ∈ hasFields.findings operand subqueries, finding.isMalformed = true := by
  intro finding hmem
  obtain ⟨part, _, hpart⟩ := List.mem_flatMap.mp hmem
  split at hpart
  · cases hpart
  · cases List.mem_singleton.mp hpart
    rfl

end ClauseWord

def entryFindings (entry : String × Term) : List Finding :=
  match (Signed.ofText? entry.1 : Option (Signed FieldWord)) with
  | some signed => (signed.word.fault? entry.2).toList.map .malformed
  | none => [.unknown entry.1]

theorem malformed_entryFindings {entry : String × Term} {signed : Signed FieldWord}
    (h : Signed.ofText? entry.1 = some signed) :
    ∀ finding ∈ entryFindings entry, finding.isMalformed = true := by
  intro finding hmem
  rw [entryFindings, h] at hmem
  obtain ⟨error, _, rfl⟩ := List.mem_map.mp hmem
  rfl

/-- What is found in a field, given what is found in the sub-queries of its term. -/
def fieldFindings (key : String) (term : Term) (subqueries : List Finding) :
    List Finding :=
  match form key term with
  | .pattern _ | .equality => []
  | .clause signed => signed.word.findings term subqueries
  | .operators entries => entries.flatMap entryFindings
  | .ignored => [.unknown key]

/-- What is found in a query, from left to right. -/
def findings : List (String × Term) → List Finding :=
  gather fieldFindings [.malformed ClauseWord.anyQuery.fault]

def itemFindings : Term → List Finding :=
  gatherItem fieldFindings [.malformed ClauseWord.anyQuery.fault]

theorem findings_cons (key : String) (term : Term) (rest : List (String × Term)) :
    findings ((key, term) :: rest) =
      fieldFindings key term (term.elements.flatMap itemFindings) ++ findings rest :=
  gather_cons _ _ key term rest

end DocQuery
