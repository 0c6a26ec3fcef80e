import DocQuery.Regex.Program

/-!
# Searching texts

A search follows all positions of a text at once.  A set of positions is a
number whose bits are the positions; a program maps the positions where it may
start to those where it may end.  A pattern matches when it ends anywhere after
it has started everywhere.
-/

namespace DocQuery

-- Powers are those of the core library, whatever algebra is imported beside them.
attribute [local instance (high)] instPowNat

namespace Regex

/-- A program on one text: sets of characters and conditions become the set of
positions that they accept. -/
inductive Located
  | empty
  | advance (positions : Nat)
  | stay (positions : Nat)
  | seq (first second : Located)
  | either (first second : Located)
  | times (least : Nat) (most : Option Nat) (body : Located)

/-! ## Positions -/

def positionsFrom (test : Option Char → Option Char → Bool) (before : Option Char) :
    List Char → Nat
  | [] => (test before none).toNat
  | c :: rest =>
      (test before (some c)).toNat + 2 * positionsFrom test (some c) rest

def positions (text : List Char) (test : Option Char → Option Char → Bool) : Nat :=
  positionsFrom test none text

def everywhere (text : List Char) : Nat :=
  2 ^ (text.length + 1) - 1

def within (set : CharSet) : Option Char → Bool
  | some c => set.has c.toNat
  | none => false

def Condition.holds (before after : Option Char) : Condition → Bool
  | textStart => before.isNone
  | textEnd => after.isNone
  | lineStart => before.isNone || before == some '\n'
  | lineEnd => after.isNone || after == some '\n'
  | crlfStart =>
      before.isNone || before == some '\n'
        || (before == some '\r' && after != some '\n')
  | crlfEnd =>
      after.isNone || after == some '\r'
        || (after == some '\n' && before != some '\r')
  | wordBoundary word => within word before != within word after
  | noWordBoundary word => within word before == within word after
  | wordStart word => !within word before && within word after
  | wordEnd word => within word before && !within word after
  | wordStartHalf word => !within word before
  | wordEndHalf word => !within word after

def Located.ofLiteral (text run : List Char) : Located :=
  run.foldr
    (fun c rest => .seq (.advance (positions text fun _ after => after == some c)) rest)
    .empty

mutual

def Program.locate (text : List Char) : Program → Located
  | empty => .empty
  | literal run => .ofLiteral text run
  | chars set => .advance (positions text fun _ after => within set after)
  | condition c => .stay (positions text fun before after => c.holds before after)
  | capture body => body.locate text
  | times least most _ body => .times least most (body.locate text)
  | row parts => Program.locateRow text parts
  | choice branches => Program.locateChoice text branches

def Program.locateRow (text : List Char) : List Program → Located
  | [] => .empty
  | part :: rest => .seq (part.locate text) (Program.locateRow text rest)

/-- Branches on one text; no branch at all matches nowhere. -/
def Program.locateChoice (text : List Char) : List Program → Located
  | [] => .advance 0
  | branch :: rest => .either (branch.locate text) (Program.locateChoice text rest)

end

/-! ## Steps -/

def iterate (step : Nat → Nat) : Nat → Nat → Nat
  | 0, starts => starts
  | count + 1, starts =>
      let ends := step starts
      if ends = starts then starts else iterate step count ends

/-- Take a step at most a number of times, or until nothing is added. -/
def closure (step : Nat → Nat) : Nat → Nat → Nat
  | 0, starts => starts
  | count + 1, starts =>
      let reached := starts ||| step starts
      if reached = starts then starts else closure step count reached

/-- The positions where a program may end, from those where it may start.  No
repetition without a bound adds positions more often than there are positions. -/
def Located.ends (size : Nat) : Located → Nat → Nat
  | empty, starts => starts
  | advance positions, starts => (starts &&& positions) <<< 1
  | stay positions, starts => starts &&& positions
  | seq first second, starts => second.ends size (first.ends size starts)
  | either first second, starts => first.ends size starts ||| second.ends size starts
  | times least most body, starts =>
      let repeated := iterate (body.ends size) least starts
      closure (body.ends size) ((most.map (· - least)).getD (size + 1)) repeated

def Program.isMatch (program : Program) (text : List Char) : Bool :=
  (program.locate text).ends text.length (everywhere text) != 0

end Regex

end DocQuery
