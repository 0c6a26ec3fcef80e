import DocQuery.Json.Raw

/-!
# Reading JSON text

A written value means a JSON value when its strings are well formed, its numbers
are in range and it is not nested too deeply.  A key that is written more than
once keeps its first place and takes its last value.
-/

namespace DocQuery

namespace Json

namespace Raw

mutual

/-- The value that a written value means, with at most `depth` nested arrays and
objects. -/
def toJson? (depth : Nat) : Raw → Option Json
  | null => some .null
  | bool value => some (.bool value)
  | number literal => literal.toNumber?.map .number
  | string pieces => (Piece.text? pieces).map .string
  | array items =>
      match depth with
      | 0 => none
      | depth + 1 => (itemsToJson? depth items).map .array
  | object members =>
      match depth with
      | 0 => none
      | depth + 1 => (membersToJson? depth members).map fun pairs => .object (Entries.ofPairs pairs)

def itemsToJson? (depth : Nat) : List Raw → Option (List Json)
  | [] => some []
  | item :: rest =>
      (toJson? depth item).bind fun value =>
        (itemsToJson? depth rest).map (value :: ·)

def membersToJson? (depth : Nat) : List (List Piece × Raw) → Option (Entries Json)
  | [] => some []
  | (pieces, written) :: rest =>
      (Piece.text? pieces).bind fun key =>
        (toJson? depth written).bind fun value =>
          (membersToJson? depth rest).map ((key, value) :: ·)

end

end Raw

/-- How deeply arrays and objects of a text may be nested. -/
def depthLimit : Nat := 127

def ofTextWithin? (depth : Nat) (text : String) : Option Json :=
  (Raw.ofChars? text.toList).bind (Raw.toJson? depth)

def ofText? (text : String) : Option Json :=
  ofTextWithin? depthLimit text

end Json

end DocQuery
