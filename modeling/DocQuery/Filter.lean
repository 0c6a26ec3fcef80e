import DocQuery.Compiler
import DocQuery.Selection
import DocQuery.Sort

/-!
# Filtering

The documents that pass a query, sorted and cut to the selected fields.  Sorting
comes before the cut, so documents can be sorted by fields that are not kept.
-/

namespace DocQuery

structure FilterOptions where
  query : Option Query := none
  sortBy : Option SortSpec := none
  select : Option Selection := none

namespace FilterOptions

/-- A part of an object that is neither absent nor `null`. -/
def part? (value : Json) (key : String) : Option Json :=
  (value.field? key).bind Json.nonNull?

def readPart {α : Type} (read : Json → Except QueryError α) :
    Option Json → Except QueryError (Option α)
  | some value => (read value).map some
  | none => .ok none

def ofJson (value : Json) : Except QueryError FilterOptions :=
  match value with
  | .object _ => do
      let query ← readPart Query.ofJson (part? value "query")
      let sortBy ← readPart SortSpec.ofJson (part? value "sortBy")
      let select ← readPart Selection.ofJson (part? value "select")
      return { query, sortBy, select }
  | _ => .error (.notAnObject value.kind)

def arrange (options : FilterOptions) (documents : List Json) : List Json :=
  match options.sortBy with
  | some spec => spec.sort documents
  | none => documents

def project (options : FilterOptions) (document : Json) : Json :=
  match options.select with
  | some selection => selection.project document
  | none => document

end FilterOptions

def filterReport (returned scanned : Nat) : LogEntry :=
  LogEntry.ofEvent .filterComplete .trace
    [("returned", toString returned), ("scanned", toString scanned)]

/-- The documents that pass, in order and cut to the selected fields. -/
def Compiler.filter (compiler : Compiler) (documents : List Json)
    (options : FilterOptions) : Outcome (List Json) := do
  let predicate ← compiler.compileOptional options.query
  let passing := documents.filter predicate.matchesDocument
  let results := (options.arrange passing).map options.project
  Reported.report (filterReport results.length documents.length)
  return results

end DocQuery
