import DocQuery.Json.Token

/-!
# Values as written

The grammar of JSON values over tokens, as a fold with a stack of the arrays and
objects that are still open.  The result keeps strings and numbers as written,
so that a reader may pass over a value without reading what is in it.
-/

namespace DocQuery

namespace Json

inductive Raw
  | null
  | bool (value : Bool)
  | number (literal : Number.Literal)
  | string (pieces : List Piece)
  | array (items : List Raw)
  | object (members : List (List Piece × Raw))

namespace Raw

/-- An array or object that is still open; parts are newest first. -/
inductive Frame
  | array (items : List Raw)
  | object (members : List (List Piece × Raw))
  | member (members : List (List Piece × Raw)) (key : List Piece)

/-- What must follow, inside the given open arrays and objects. -/
inductive State
  | value (frames : List Frame)
  | valueOrClose (frames : List Frame)
  | keyOrClose (frames : List Frame)
  | key (members : List (List Piece × Raw)) (frames : List Frame)
  | colon (members : List (List Piece × Raw)) (key : List Piece) (frames : List Frame)
  | commaOrClose (frame : Frame) (frames : List Frame)
  | finished (value : Raw)

def complete (value : Raw) : List Frame → State
  | [] => .finished value
  | .array items :: frames => .commaOrClose (.array (value :: items)) frames
  | .object members :: frames => .commaOrClose (.object members) frames
  | .member members key :: frames =>
      .commaOrClose (.object ((key, value) :: members)) frames

def begin (frames : List Frame) : Token → Option State
  | .null => some (complete .null frames)
  | .bool value => some (complete (.bool value) frames)
  | .number literal => some (complete (.number literal) frames)
  | .string pieces => some (complete (.string pieces) frames)
  | .openArray => some (.valueOrClose frames)
  | .openObject => some (.keyOrClose frames)
  | _ => none

def step (state : State) (token : Token) : Option State :=
  match state, token with
  | .value frames, token => begin frames token
  | .valueOrClose frames, .closeArray => some (complete (.array []) frames)
  | .valueOrClose frames, token => begin (.array [] :: frames) token
  | .keyOrClose frames, .closeObject => some (complete (.object []) frames)
  | .keyOrClose frames, .string key => some (.colon [] key frames)
  | .key members frames, .string key => some (.colon members key frames)
  | .colon members key frames, .colon => some (.value (.member members key :: frames))
  | .commaOrClose (.array items) frames, .comma => some (.value (.array items :: frames))
  | .commaOrClose (.array items) frames, .closeArray =>
      some (complete (.array items.reverse) frames)
  | .commaOrClose (.object members) frames, .comma => some (.key members frames)
  | .commaOrClose (.object members) frames, .closeObject =>
      some (complete (.object members.reverse) frames)
  | _, _ => none

def ofChars? (cs : List Char) : Option Raw := do
  let tokens ← tokens? cs
  match ← tokens.foldlM step (.value []) with
  | .finished value => some value
  | _ => none

end Raw

end Json

end DocQuery
