import DocQuery.Unicode.CharSet

/-!
# Programs

What a pattern means: a regular expression over literals, sets of characters and
conditions on positions.  Programs are built in normal form.  Rows and choices
are flat, and neighbours that are literals are one literal; a choice between
characters is a set; what all branches begin with stands before their choice;
and what only matches the empty text is not repeated.
-/

namespace DocQuery

namespace Regex

/-- Conditions on the characters around a position; those on words say what
belongs to a word. -/
inductive Condition
  | textStart
  | textEnd
  | lineStart
  | lineEnd
  | crlfStart
  | crlfEnd
  | wordBoundary (word : CharSet)
  | noWordBoundary (word : CharSet)
  | wordStart (word : CharSet)
  | wordEnd (word : CharSet)
  | wordStartHalf (word : CharSet)
  | wordEndHalf (word : CharSet)
deriving DecidableEq

inductive Program
  | empty
  | literal (text : List Char)
  | chars (set : CharSet)
  | condition (condition : Condition)
  | capture (body : Program)
  | times (least : Nat) (most : Option Nat) (greedy : Bool) (body : Program)
  | row (parts : List Program)
  | choice (branches : List Program)

/-! ## Lengths -/

mutual

def Program.onlyEmpty : Program → Bool
  | empty => true
  | literal _ => false
  | chars _ => false
  | condition _ => true
  | capture body => body.onlyEmpty
  | times _ _ _ body => body.onlyEmpty
  | row parts => Program.allOnlyEmpty parts
  | choice branches => Program.allOnlyEmpty branches

def Program.allOnlyEmpty : List Program → Bool
  | [] => true
  | program :: rest => program.onlyEmpty && Program.allOnlyEmpty rest

end

mutual

/-- The least length of a match; unknown when the program has an empty set. -/
def Program.shortest? : Program → Option Nat
  | empty => some 0
  | literal text => some text.length
  | chars set => if set.isEmpty then none else some 1
  | condition _ => some 0
  | capture body => body.shortest?
  | times least _ _ body => body.shortest?.map (least * ·)
  | row parts => Program.shortestOfRow? parts
  | choice branches => Program.shortestOfChoice? branches

def Program.shortestOfRow? : List Program → Option Nat
  | [] => some 0
  | part :: rest =>
      part.shortest?.bind fun length => (Program.shortestOfRow? rest).map (length + ·)

def Program.shortestOfChoice? : List Program → Option Nat
  | [] => none
  | [branch] => branch.shortest?
  | branch :: rest =>
      branch.shortest?.bind fun length => (Program.shortestOfChoice? rest).map (min length)

end

/-! ## Equality -/

mutual

/-- Whether two programs are written alike.  Captures are told apart by their
number, so that none is like another. -/
def Program.same : Program → Program → Bool
  | empty, empty => true
  | literal text, literal other => text == other
  | chars set, chars other => set == other
  | condition kind, condition other => kind == other
  | times least most greedy body, times least' most' greedy' body' =>
      least == least' && most == most' && greedy == greedy' && body.same body'
  | row parts, row others => Program.allSame parts others
  | choice branches, choice others => Program.allSame branches others
  | _, _ => false

def Program.allSame : List Program → List Program → Bool
  | [], [] => true
  | program :: rest, other :: others => program.same other && Program.allSame rest others
  | _, _ => false

end

namespace Program

/-! ## Normal form -/

def ofSet (set : CharSet) : Program :=
  match CharSet.withoutSurrogates set with
  | [(first, last)] =>
      if first = last then .literal [Char.ofNat first] else .chars [(first, last)]
  | set => .chars set

def parts : Program → List Program
  | row parts => parts
  | part => [part]

/-- Put a part before others.  What is empty is left out, and a literal joins a literal
that follows. -/
def putBefore : Program → List Program → List Program
  | empty, rest => rest
  | literal text, literal more :: rest => .literal (text ++ more) :: rest
  | part, rest => part :: rest

def ofParts (parts : List Program) : Program :=
  match (parts.flatMap Program.parts).foldr putBefore [] with
  | [] => .empty
  | [part] => part
  | parts => .row parts

def branches : Program → List Program
  | choice branches => branches
  | branch => [branch]

def char? : Program → Option Char
  | literal [c] => some c
  | _ => none

def set? : Program → Option CharSet
  | chars set => some set
  | _ => none

def literal? : Program → Option (List Char)
  | literal text => some text
  | _ => none

/-- A choice between branches that are none themselves.  Characters become a set, and so
do sets; no branch at all matches nothing. -/
def gather : List Program → Program
  | [] => .chars []
  | [branch] => branch
  | branches =>
      match branches.mapM char? with
      | some cs => ofSet (CharSet.ofRanges (cs.map fun c => (c.toNat, c.toNat)))
      | none =>
          match branches.mapM set? with
          | some sets => ofSet (CharSet.ofRanges sets.flatten)
          | none => .choice branches

def sharedFront : List Program → List Program → List Program
  | a :: as, b :: bs => if a.same b then a :: sharedFront as bs else []
  | _, _ => []

def lead : List Program → List Program
  | row parts :: rest =>
      rest.foldl
        (fun front branch =>
          match branch with
          | row parts => sharedFront front parts
          | _ => [])
        parts
  | _ => []

def ofBranches (branches : List Program) : Program :=
  let branches := branches.flatMap Program.branches
  match lead branches with
  | [] => gather branches
  | front =>
      let ends := branches.map fun branch => ofParts (branch.parts.drop front.length)
      ofParts (front ++ [gather (ends.flatMap Program.branches)])

/-- A program a number of times.  What only matches the empty text matches it as well
when it comes once. -/
def repeated (least : Nat) (most : Option Nat) (greedy : Bool) (body : Program) : Program :=
  let (least, most) :=
    if body.onlyEmpty then (min least 1, some (min (most.getD 1) 1)) else (least, most)
  if least = 0 ∧ most = some 0 then .empty
  else if least = 1 ∧ most = some 1 then body
  else .times least most greedy body

end Program

end Regex

end DocQuery
