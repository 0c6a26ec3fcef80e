/-!
# Room of automata

A pattern may not take more than a fixed room once it is written out as an
automaton over bytes.  What counts of an automaton is how many states it has and
how many bytes their tables take; states are numbered in the order they are made.
-/

namespace DocQuery

-- Powers are those of the core library, whatever algebra is imported beside them.
attribute [local instance (high)] instPowNat

namespace Regex

/-- Which end of a text an automaton reads from. -/
inductive Direction
  | forward
  | backward
deriving DecidableEq

/-- How much of an automaton is made: its states, and the bytes of their tables. -/
structure Room where
  states : Nat := 0
  tables : Nat := 0
deriving DecidableEq

namespace Room

def stateBytes : Nat := 32

def bytes (room : Room) : Nat :=
  stateBytes * room.states + room.tables

def limit : Nat := 10 * 2 ^ (20 : Nat)

def fits (room : Room) : Bool :=
  room.bytes ≤ limit

def state (table : Nat) (room : Room) : Room :=
  { states := room.states + 1, tables := room.tables + table }

def plain (room : Room) : Room :=
  room.state 0

def plains (count : Nat) (room : Room) : Room :=
  { room with states := room.states + count }

def rangesTable (ranges : Nat) : Nat :=
  8 * ranges

def choiceTable (states : Nat) : Nat :=
  4 * states

def plus (a b : Room) : Room :=
  { states := a.states + b.states, tables := a.tables + b.tables }

/-- Take a step a number of times; it stops once the limit is passed. -/
def iterate (step : Room → Room) : Nat → Room → Room
  | 0, room => room
  | count + 1, room => if room.fits then iterate step count (step room) else room

end Room

end Regex

end DocQuery
