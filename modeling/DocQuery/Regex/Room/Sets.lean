import DocQuery.Regex.Room
import DocQuery.Regex.Room.ByteRun
import Std.Data.HashMap

/-!
# Room of sets

The automaton of a set reads its byte runs.  A state is made once when it comes up
again while it is still remembered.  Memory has a fixed number of slots, and each
state has one of them by a hash of its table: another state in the same slot takes
its place.
-/

namespace DocQuery

namespace Regex

/-! ## Memory -/

/-- States by their slots, each with the words of its table. -/
abbrev Memory := Std.HashMap Nat (List Nat × Nat)

def hashWords (words : List Nat) : UInt64 :=
  words.foldl (fun hash word => (hash ^^^ word.toUInt64) * 1099511628211)
    14695981039346656037

structure Draft where
  room : Room
  memory : Memory

def Draft.make (slot bytes : Nat) (table : List Nat) (draft : Draft) : Draft × Nat :=
  let state := draft.room.states
  ({ room := draft.room.state bytes, memory := draft.memory.insert slot (table, state) }, state)

def Draft.state (slots bytes : Nat) (table : List Nat) (draft : Draft) : Draft × Nat :=
  let slot := (hashWords table).toNat % slots
  match draft.memory[slot]? with
  | some (known, state) =>
      if known = table then (draft, state) else draft.make slot bytes table
  | none => draft.make slot bytes table

/-! ## Reading forwards -/

def forwardSlots : Nat := 10000

/-- The state that reads some runs of at most `length` bytes and then goes to a target.
Runs that begin with the same range share what follows it. -/
def Draft.reader (target : Nat) : Nat → List ByteRun → Draft → Draft × Nat
  | 0, _, draft => (draft, target)
  | _, [], draft => (draft, target)
  | _, [] :: _, draft => (draft, target)
  | length + 1, runs, draft =>
      let groups := runs.splitBy fun a b => a.head? == b.head?
      let (draft, table) := groups.foldl
        (fun (draft, table) group =>
          let (draft, next) := Draft.reader target length (group.map List.tail) draft
          let range := (group.head?.bind List.head?).getD (0, 0)
          (draft, next :: range.2 :: range.1 :: table))
        (draft, [])
      draft.state forwardSlots (Room.rangesTable groups.length) table.reverse

def forwardRoom (runs : List ByteRun) (room : Room) : Room :=
  (Draft.reader room.states 4 runs { room := room.plain, memory := {} }).1.room

/-! ## Reading backwards -/

def backwardSlots : Nat := 1000

/-- The states that read one run from its last byte, made from the first byte on. -/
def Draft.addRun (target : Nat) (draft : Draft) (run : ByteRun) : Draft :=
  (run.foldl
    (fun (draft, next) range => draft.state backwardSlots 0 [next, range.1, range.2])
    (draft, target)).1

def backwardRoom (runs : List ByteRun) (room : Room) : Room :=
  let start := room.state (Room.choiceTable runs.length)
  let draft : Draft := { room := start.plain, memory := {} }
  (runs.foldl (Draft.addRun start.states) draft).room

/-! ## Either way -/

def isAscii (set : CharSet) : Bool :=
  set.all fun range => range.2 < 0x80

/-- The room of a set.  Within ASCII one table of ranges is enough. -/
def setRoom (direction : Direction) (set : CharSet) (room : Room) : Room :=
  if isAscii set then room.plain.state (Room.rangesTable set.length)
  else
    match direction with
    | .forward => forwardRoom (ByteRun.ofSet set) room
    | .backward => backwardRoom (ByteRun.ofSet set) room

end Regex

end DocQuery
