import DocQuery.Json
import DocQuery.QueryError

/-!
# Selections

A selection names the fields that a result keeps.
-/

namespace DocQuery

structure Selection where
  fields : List String := []
deriving DecidableEq

namespace Selection

/-- Whether the value of a field in a selection keeps the field: a boolean, or a
number other than zero. -/
def keeps? : Json → Option Bool
  | .bool value => some value
  | .number number => some (!number.toBinary64.sameValue (.zero false))
  | _ => none

def keptFields : List (String × Json) → Except QueryError (List String)
  | [] => .ok []
  | (field, value) :: rest =>
      match keeps? value with
      | some keep => (keptFields rest).map fun fields => if keep then field :: fields else fields
      | none => .error (.selection (.notBoolean field))

def namedFields : List Json → Except QueryError (List String)
  | [] => .ok []
  | .string field :: rest => (namedFields rest).map (field :: ·)
  | _ :: _ => .error (.selection .notNames)

/-- The selection that a value means: an object of fields to keep or not, or a
list of names. -/
def ofJson : Json → Except QueryError Selection
  | .object members => (keptFields members).map fun fields => { fields }
  | .array items => (namedFields items).map fun fields => { fields }
  | _ => .error (.selection .wrongShape)

def pick (document : Json) (fields : List String) : Entries Json :=
  Entries.ofPairs (fields.filterMap fun field =>
    (document.field? field).map fun value => (field, value))

def project (selection : Selection) (document : Json) : Json :=
  .object (pick document selection.fields)

end Selection

end DocQuery
