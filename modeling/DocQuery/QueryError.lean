import DocQuery.Kind
import DocQuery.Text.Quoted

/-!
# Query errors

What can be wrong with a query and with the options around it.  Each cause has
a stable code and one message.
-/

namespace DocQuery

inductive SortFault
  | badDirection (field : String)
  | wrongShape
deriving DecidableEq

inductive SelectionFault
  | notBoolean (field : String)
  | notNames
  | wrongShape
deriving DecidableEq

/-- What is wrong with a query. -/
inductive QueryError
  /-- The query is no object. -/
  | notAnObject (kind : Kind)
  /-- An operator name without its mark or without a body. -/
  | operatorName (name : String)
  /-- An operator that strict mode does not know. -/
  | unknownOperator (name : String)
  /-- An operand of the wrong shape. -/
  | operand (operator expected : String)
  | sort (fault : SortFault)
  | selection (fault : SelectionFault)
  /-- A pattern that is malformed or too large. -/
  | pattern
  /-- A letter that is no flag. -/
  | patternFlag (flag : Char)
  /-- A pattern literal without its two slashes. -/
  | patternLiteral (literal : String)
deriving DecidableEq

def SortFault.message : SortFault → String
  | badDirection field => "bad direction for " ++ Text.quoteName field
  | wrongShape => "expected a field name or an object"

def SelectionFault.message : SelectionFault → String
  | notBoolean field => "expected a boolean for " ++ Text.quoteName field
  | notNames => "field names must be strings"
  | wrongShape => "expected an object or a list of field names"

namespace QueryError

def code : QueryError → String
  | notAnObject _ => "QUERIFY_INVALID_QUERY"
  | operatorName _ => "QUERIFY_INVALID_OPERATOR_NAME"
  | unknownOperator _ => "QUERIFY_UNKNOWN_OPERATOR"
  | operand _ _ => "QUERIFY_INVALID_OPERAND"
  | sort _ => "QUERIFY_INVALID_SORT"
  | selection _ => "QUERIFY_INVALID_SELECTION"
  | pattern => "QUERIFY_INVALID_REGEX"
  | patternFlag _ => "QUERIFY_INVALID_REGEX"
  | patternLiteral _ => "QUERIFY_INVALID_REGEX"

def message : QueryError → String
  | notAnObject kind => "Invalid query: expected an object, got " ++ kind.name
  | operatorName name => "Invalid operator name: " ++ Text.quoteName name
  | unknownOperator name => "Unknown operator: " ++ name
  | operand operator expected =>
      "Invalid operand for " ++ operator ++ ": expected " ++ expected
  | sort fault => "Invalid sort specification: " ++ fault.message
  | selection fault => "Invalid selection: " ++ fault.message
  | pattern => "Invalid regex pattern: malformed or too large"
  | patternFlag flag => "Invalid regex flag: " ++ Text.quoteChar flag
  | patternLiteral literal => "Malformed regex literal: " ++ Text.quoteName literal

end QueryError

end DocQuery
