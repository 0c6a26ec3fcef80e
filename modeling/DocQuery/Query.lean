import DocQuery.Json.Leading
import DocQuery.Term

/-!
# Queries

A query is a list of fields in order.  Setting a field that is there replaces
its term in place, as in an object.
-/

namespace DocQuery

structure Query where
  fields : List (String × Term) := []

namespace Query

/-- The query of a term, which must be a map. -/
def ofTerm : Term → Except QueryError Query
  | .map fields => .ok { fields }
  | term => .error (.notAnObject term.kind)

def ofJson (value : Json) : Except QueryError Query :=
  ofTerm (.ofJson value)

/-- The query that a text writes; the inner result says what the value of the text
is if it is no object.  A text whose front is another value than an object is read
no further. -/
def ofText? (text : String) : Option (Except QueryError Query) :=
  match Json.leading? text with
  | none => none
  | some (.object _) => (Json.ofText? text).map ofJson
  | some value => some (ofJson value)

def insert (query : Query) (key : String) (term : Term) : Query where
  fields := Entries.insert key term query.fields

def find? (query : Query) (key : String) : Option Term :=
  Entries.find? key query.fields

def length (query : Query) : Nat :=
  query.fields.length

def toTerm (query : Query) : Term :=
  .map query.fields

def toJson (query : Query) : Json :=
  query.toTerm.toJson

def text (query : Query) : String :=
  query.toTerm.text

/-- Equality of queries, field by field. -/
def same (a b : Query) : Bool :=
  Term.sameFields a.fields b.fields

end Query

end DocQuery
