import DocQuery.Regex.Meaning
import DocQuery.Regex.Room.Literals
import DocQuery.Regex.Room.Sets

/-!
# Room of programs

Every repetition of a program is written out in its automaton.  There are two, one for
each direction, and both have to stay within the limit; only the one that reads forwards
takes note of captures.
-/

namespace DocQuery

namespace Regex

/-! ## Anchors -/

mutual

def Program.anchored (direction : Direction) : Program → Bool
  | empty => false
  | literal _ => false
  | chars _ => false
  | condition kind =>
      match direction with
      | .forward => kind == .textStart
      | .backward => kind == .textEnd
  | capture body => body.anchored direction
  | times least _ _ body => 0 < least && body.anchored direction
  | row parts =>
      match direction with
      | .forward => Program.firstAnchored parts
      | .backward => Program.lastAnchored parts
  | choice branches => Program.allAnchored direction branches

def Program.firstAnchored : List Program → Bool
  | [] => false
  | part :: rest =>
      part.anchored .forward || (part.onlyEmpty && Program.firstAnchored rest)

def Program.lastAnchored : List Program → Bool
  | [] => false
  | part :: rest =>
      Program.lastAnchored rest
        || (Program.allOnlyEmpty rest && part.anchored .backward)

def Program.allAnchored (direction : Direction) : List Program → Bool
  | [] => true
  | branch :: rest => branch.anchored direction && Program.allAnchored direction rest

end

/-! ## Room -/

def repetitionRoom (body : Room → Room) (hasChar : Bool) (least : Nat) :
    Option Nat → Room → Room
  | none, room =>
      if 0 < least then (Room.iterate body least room).state (Room.choiceTable 2)
      else if hasChar then body (room.state (Room.choiceTable 2))
      else
        (((body room).state (Room.choiceTable 2)).state (Room.choiceTable 2)).plain
  | some most, room =>
      let optional (room : Room) := body (room.state (Room.choiceTable 2))
      if least = 0 ∧ most = 1 then (optional room).plain
      else
        let room := if least = 0 then room.plain else Room.iterate body least room
        if most = least then room
        else Room.iterate optional (most - least) room.plain

mutual

def Program.room (direction : Direction) : Program → Room → Room
  | empty, room => room.plain
  | literal text, room => room.plains (text.map Char.utf8Size).sum
  | chars set, room => setRoom direction set room
  | condition _, room => room.plain
  | capture body, room =>
      match direction with
      | .forward => (body.room direction room.plain).plain
      | .backward => body.room direction room
  | times least most _ body, room =>
      repetitionRoom (body.room direction) ((body.shortest?.getD 0) != 0) least most room
  | row parts, room =>
      match direction with
      | .forward => Program.roomInOrder direction parts room
      | .backward => Program.roomFromLast direction parts room
  | choice branches, room =>
      match branches.mapM Program.literal? with
      | some literals => literalsRoom direction literals room
      | none => Program.roomOfChoice direction branches room

def Program.roomInOrder (direction : Direction) : List Program → Room → Room
  | [], room => room
  | program :: rest, room =>
      Program.roomInOrder direction rest (program.room direction room)

def Program.roomFromLast (direction : Direction) : List Program → Room → Room
  | [], room => room
  | program :: rest, room =>
      program.room direction (Program.roomFromLast direction rest room)

/-- The room after a choice has been written out; where the branches part and where they
meet comes after the second. -/
def Program.roomOfChoice (direction : Direction) : List Program → Room → Room
  | first :: second :: rest, room =>
      let parted := second.room direction (first.room direction room)
      Program.roomInOrder direction rest
        (parted.state (Room.choiceTable (rest.length + 2))).plain
  | _, room => room

end

/-- The room before a program is written out: unless it is anchored, it may start behind
any bytes. -/
def Program.startRoom (program : Program) (direction : Direction) : Room :=
  if program.anchored direction then Room.plain {}
  else
    let choice := Room.state (Room.choiceTable 2) {}
    choice.plain.state (Room.rangesTable 1)

/-- The room of the automaton of a program; the one that reads forwards captures the
whole match. -/
def Program.totalRoom (program : Program) (direction : Direction) : Room :=
  ((Program.capture program).room direction (program.startRoom direction)).plain

/-- The program of a pattern under some flags, or `none` when the pattern is
malformed or takes too much room. -/
def Program.ofPattern? (options : Options) (pattern : List Char) : Option Program := do
  let ast ← Ast.ofChars? pattern
  let (program, _) ← ast.program? options
  if (program.totalRoom .forward).fits && (program.totalRoom .backward).fits then
    some program
  else none

end Regex

end DocQuery
