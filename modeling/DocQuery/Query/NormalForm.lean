import DocQuery.Query

/-!
# Normal form

JSON has no patterns, so a pattern that is the value of a field is written as
the operand of the pattern operator.  The same holds in sub-queries, which stand
under operator keys; a pattern that is the operand of an operator stays.
-/

namespace DocQuery

/-- The operator that a pattern in the place of a value stands for. -/
def patternOperator : String := "$regex"

namespace Query

mutual

def normalizeFields : List (String × Term) → List (String × Term)
  | [] => []
  | (key, term) :: rest => (key, normalizeTerm key term) :: normalizeFields rest

def normalizeTerm (key : String) : Term → Term
  | .scalar value => .scalar value
  | .regex pattern => .map [(patternOperator, .scalar (.string pattern.text))]
  | .map fields => .map (if isOperatorKey key then normalizeFields fields else fields)
  | .list items => .list (if isOperatorKey key then normalizeItems items else items)

/-- The items under an operator key in normal form: maps are sub-queries. -/
def normalizeItems : List Term → List Term
  | [] => []
  | .map fields :: rest => .map (normalizeFields fields) :: normalizeItems rest
  | item :: rest => item :: normalizeItems rest

end

def normalize (query : Query) : Query where
  fields := normalizeFields query.fields

def normalText (query : Query) : String :=
  query.normalize.text

end Query

end DocQuery
