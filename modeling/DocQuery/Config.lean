import DocQuery.Json.Reader
import DocQuery.Json.Writer

/-!
# Configuration

Two switches, written as a JSON object or as a list of their values.  A missing
switch is off.  An unknown key is passed over with its value, whatever that is;
a known key occurs once.
-/

namespace DocQuery

structure Config where
  /-- Unknown operators are errors; otherwise they are skipped. -/
  strict : Bool := false
  /-- Each compiled query is reported. -/
  logCompiles : Bool := false
deriving DecidableEq

namespace Config

/-- The switches read so far. -/
structure Draft where
  strict : Option Bool := none
  logCompiles : Option Bool := none

def Draft.finish (draft : Draft) : Config where
  strict := draft.strict.getD false
  logCompiles := draft.logCompiles.getD false

def flag? : Json.Raw → Option Bool
  | .bool value => some value
  | _ => none

def Draft.add (draft : Draft) (member : List Json.Piece × Json.Raw) : Option Draft := do
  let key ← Json.Piece.text? member.1
  if key = "strict" then
    if draft.strict.isSome then none
    else (flag? member.2).map fun value => { draft with strict := some value }
  else if key = "log_compiles" then
    if draft.logCompiles.isSome then none
    else (flag? member.2).map fun value => { draft with logCompiles := some value }
  else some draft

/-- The configuration that a written value means. -/
def ofRaw? : Json.Raw → Option Config
  | .object members => (members.foldlM Draft.add {}).map Draft.finish
  | .array [] => some {}
  | .array [strict] => (flag? strict).map fun strict => { strict }
  | .array [strict, logCompiles] => do
      let strict ← flag? strict
      let logCompiles ← flag? logCompiles
      some { strict, logCompiles }
  | _ => none

def ofText? (text : String) : Option Config :=
  (Json.Raw.ofChars? text.toList).bind ofRaw?

def text (config : Config) : String :=
  (Json.object [("strict", .bool config.strict),
    ("log_compiles", .bool config.logCompiles)]).text

end Config

end DocQuery
