import DocQuery.Regex.Room

/-!
# Room of literals

A choice between literals is a tree that shares what they begin with.  The order
of literals counts: one that ends at a place parts those before it from those
after it.
-/

namespace DocQuery

namespace Regex

abbrev Bytes := List UInt8

def splitAtEmpty : List Bytes → List (List Bytes)
  | [] => [[]]
  | [] :: rest => [] :: splitAtEmpty rest
  | literal :: rest =>
      match splitAtEmpty rest with
      | [] => [[literal]]
      | chunk :: chunks => (literal :: chunk) :: chunks

/-- Literals of which at most one is empty before the others. -/
def dropRepeatedEmpty : List Bytes → List Bytes
  | [] :: rest => [] :: rest.dropWhile List.isEmpty
  | literals => literals

def putByByte (byte : UInt8) (tail : Bytes) : List (UInt8 × List Bytes) →
    List (UInt8 × List Bytes)
  | [] => [(byte, [tail])]
  | (other, tails) :: groups =>
      if other = byte then (other, tail :: tails) :: groups
      else (other, tails) :: putByByte byte tail groups

def tailsByByte (literals : List Bytes) : List (List Bytes) :=
  (literals.foldr
    (fun literal groups =>
      match literal with
      | byte :: tail => putByByte byte tail groups
      | [] => groups)
    []).map Prod.snd

/-- The room of a choice between first bytes; a single one needs no table. -/
def bytesRoom (count : Nat) : Room :=
  match count with
  | 0 => {}
  | 1 => Room.plain {}
  | _ => Room.state (Room.rangesTable count) {}

/-- The room of the tree of some literals of at most `length` bytes.  A place where
all of them end takes no state. -/
def treeRoom : Nat → List Bytes → Room
  | 0, _ => {}
  | length + 1, literals =>
      if literals.all List.isEmpty then {}
      else
        let chunks := (splitAtEmpty (dropRepeatedEmpty literals)).map tailsByByte
        let exits := (chunks.filter fun chunk => !chunk.isEmpty).length + (chunks.length - 1)
        let below := chunks.flatten.foldl
          (fun (room : Room) tails => room.plus (treeRoom length tails)) {}
        let here := chunks.foldl
          (fun (room : Room) chunk => room.plus (bytesRoom chunk.length)) below
        here.state (Room.choiceTable exits)

def bytesOf (direction : Direction) (text : List Char) : Bytes :=
  let bytes := text.flatMap String.utf8EncodeChar
  match direction with
  | .forward => bytes
  | .backward => bytes.reverse

def literalsRoom (direction : Direction) (literals : List (List Char)) (room : Room) : Room :=
  let literals := literals.map (bytesOf direction)
  let length := literals.foldl (fun length literal => max length literal.length) 0
  room.plain.plus (treeRoom length literals)

end Regex

end DocQuery
