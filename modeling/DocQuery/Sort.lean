import DocQuery.Json
import DocQuery.QueryError
import DocQuery.Sort.Runs

/-!
# Sorting

Documents are sorted by a list of keys; the order of two documents is that at
the first key where they differ.  Absent fields come first, then values by kind,
and values of one kind by their own order if they have one.  Documents that no
key tells apart keep their order.
-/

namespace DocQuery

inductive SortDirection
  | asc
  | desc
deriving DecidableEq

namespace SortDirection

def name : SortDirection → String
  | asc => "asc"
  | desc => "desc"

def apply : SortDirection → Ordering → Ordering
  | asc, order => order
  | desc, order => order.swap

/-- The direction that a value means: a number by its sign, or a name. -/
def ofJson? : Json → Option SortDirection
  | .number number =>
      match number.toBinary64.compare (.zero false) with
      | .gt => some asc
      | .lt => some desc
      | .eq => none
  | .string text =>
      let name := text.map Char.toLower
      if name = "asc" then some asc else if name = "desc" then some desc else none
  | _ => none

end SortDirection

/-- Sort keys with their directions, the weightiest first. -/
structure SortSpec where
  keys : List (String × SortDirection) := []
deriving DecidableEq

namespace SortSpec

def asc (field : String) : SortSpec where
  keys := [(field, .asc)]

def andThen (spec : SortSpec) (field : String) (direction : SortDirection) : SortSpec where
  keys := spec.keys ++ [(field, direction)]

def keysOf : List (String × Json) → Except QueryError (List (String × SortDirection))
  | [] => .ok []
  | (field, value) :: rest =>
      match SortDirection.ofJson? value with
      | some direction => (keysOf rest).map ((field, direction) :: ·)
      | none => .error (.sort (.badDirection field))

/-- The specification that a value means: a field name, or an object of fields
with their directions. -/
def ofJson : Json → Except QueryError SortSpec
  | .string field => .ok (asc field)
  | .object members => (keysOf members).map fun keys => { keys }
  | _ => .error (.sort .wrongShape)

/-! ## Order -/

def compareFields : Option Json → Option Json → Ordering
  | none, none => .eq
  | none, some _ => .lt
  | some _, none => .gt
  | some a, some b =>
      if a.kind.rank = b.kind.rank then (a.compare? b).getD .eq
      else compare a.kind.rank b.kind.rank

def compareByKeys : List (String × SortDirection) → Json → Json → Ordering
  | [], _, _ => .eq
  | (field, direction) :: rest, a, b =>
      match direction.apply (compareFields (a.field? field) (b.field? field)) with
      | .eq => compareByKeys rest a b
      | order => order

def compareDocuments (spec : SortSpec) (a b : Json) : Ordering :=
  compareByKeys spec.keys a b

/-! ## Sorting -/

def precedes (spec : SortSpec) (a b : Json) : Bool :=
  spec.compareDocuments a b == .lt

/-- Documents in order.  Numbers need not compare transitively, and then the result
depends on which documents are compared. -/
def sort (spec : SortSpec) (documents : List Json) : List Json :=
  Runs.sort spec.precedes documents

end SortSpec

end DocQuery
