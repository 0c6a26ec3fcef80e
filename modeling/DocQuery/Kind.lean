/-!
# Kinds of values

The kind of a value decides what it can be compared with, where it sorts, and
what an error message calls it.
-/

namespace DocQuery

/-- The kinds of query terms; a document has all of them but the last. -/
inductive Kind
  | null
  | boolean
  | number
  | string
  | array
  | object
  | regex
deriving DecidableEq, Repr

namespace Kind

def name : Kind → String
  | null => "null"
  | boolean => "boolean"
  | number => "number"
  | string => "string"
  | array => "array"
  | object => "object"
  | regex => "regex"

def rank : Kind → Nat
  | null => 0
  | boolean => 1
  | number => 2
  | string => 3
  | array => 4
  | object => 5
  | regex => 6

end Kind

end DocQuery
