import DocQuery.Json.Writer
import DocQuery.Pattern
import DocQuery.Predicate

/-!
# Query terms

A term is a plain value, a pattern, a map or a list.  Which of them it is is
settled when a query is built, so that what reads a query looks at constructors
and not into values.
-/

namespace DocQuery

inductive Term
  | scalar (value : Json)
  | regex (pattern : Pattern)
  | map (fields : List (String × Term))
  | list (items : List Term)

namespace Term

def kind : Term → Kind
  | scalar value => value.kind
  | regex _ => .regex
  | map _ => .object
  | list _ => .array

/-! ## JSON -/

mutual

/-- The term of a JSON value: objects are maps and arrays are lists. -/
def ofJson : Json → Term
  | .object members => .map (ofMembers members)
  | .array items => .list (ofItems items)
  | .null => .scalar .null
  | .bool value => .scalar (.bool value)
  | .number value => .scalar (.number value)
  | .string text => .scalar (.string text)

def ofItems : List Json → List Term
  | [] => []
  | item :: rest => ofJson item :: ofItems rest

def ofMembers : List (String × Json) → List (String × Term)
  | [] => []
  | (key, value) :: rest => (key, ofJson value) :: ofMembers rest

end

mutual

/-- The JSON value of a term: a pattern becomes its text, and a repeated key
keeps its first place and takes its last value. -/
def toJson : Term → Json
  | scalar value => value
  | regex pattern => .string pattern.text
  | map fields => .object (Entries.ofPairs (fieldsToJson fields))
  | list items => .array (itemsToJson items)

def itemsToJson : List Term → List Json
  | [] => []
  | item :: rest => toJson item :: itemsToJson rest

def fieldsToJson : List (String × Term) → List (String × Json)
  | [] => []
  | (key, term) :: rest => (key, toJson term) :: fieldsToJson rest

end

mutual

/-- The JSON value that a term is written as, with repeated keys. -/
def written : Term → Json
  | scalar value => value
  | regex pattern => .string pattern.text
  | map fields => .object (writtenFields fields)
  | list items => .array (writtenItems items)

def writtenItems : List Term → List Json
  | [] => []
  | item :: rest => written item :: writtenItems rest

def writtenFields : List (String × Term) → List (String × Json)
  | [] => []
  | (key, term) :: rest => (key, written term) :: writtenFields rest

end

def text (term : Term) : String :=
  term.written.text

/-! ## Views -/

def scalar? : Term → Option Json
  | scalar value => some value
  | _ => none

def string? (term : Term) : Option String :=
  term.scalar?.bind Json.string?

def bool? (term : Term) : Option Bool :=
  term.scalar?.bind Json.bool?

def binary64? (term : Term) : Option Binary64 :=
  term.scalar?.bind Json.binary64?

/-- The value of a term as the operand of an equality, which a pattern has not. -/
def value? : Term → Option Json
  | regex _ => none
  | term => some term.toJson

def parts : Term → OneOrMany Term
  | list items => .many items
  | term => .one term

/-! ## Equality -/

mutual

/-- Equality of structure: fields in order, patterns by their text, and plain
values by what is written. -/
def same : Term → Term → Bool
  | scalar a, scalar b => a.sameWritten b
  | regex a, regex b => a == b
  | map as, map bs => sameFields as bs
  | list as, list bs => sameItems as bs
  | _, _ => false

def sameItems : List Term → List Term → Bool
  | [], [] => true
  | a :: as, b :: bs => same a b && sameItems as bs
  | _, _ => false

def sameFields : List (String × Term) → List (String × Term) → Bool
  | [], [] => true
  | (k, a) :: as, (l, b) :: bs => k == l && same a b && sameFields as bs
  | _, _ => false

end

end Term

def operatorMark : Char := '$'

def isOperatorKey (key : String) : Bool :=
  key.toList.head? == some operatorMark

end DocQuery
