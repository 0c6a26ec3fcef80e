import DocQuery.Json

/-!
# Tests of documents

A test looks at a document and, where there is one, at its previous version.
Tests run in a monad, so that the order in which the parts of a combined test
are asked can be observed; a compiled query is a test without effects.
-/

namespace DocQuery

/-- A document with its previous version, if there is one. -/
structure Revision where
  current : Json
  previous : Option Json := none

/-- A test of revisions with effects in a monad. -/
abbrev Test (m : Type → Type) := Revision → m Bool

abbrev Predicate := Test Id

inductive Connective
  | and
  | or
deriving DecidableEq

namespace Connective

def unit : Connective → Bool
  | and => true
  | or => false

def apply : Connective → Bool → Bool → Bool
  | and, a, b => a && b
  | or, a, b => a || b

end Connective

namespace Test

variable {m : Type → Type} [Monad m]

def always : Test m :=
  fun _ => pure true

def negate (test : Test m) : Test m :=
  fun revision => not <$> test revision

/-- Ask one test, and the other one unless the first has decided. -/
def pair (connective : Connective) (first second : Test m) : Test m :=
  fun revision => do
    if (← first revision) = connective.unit then second revision
    else return !connective.unit

/-- Ask tests in order up to the first that decides. -/
def inOrder (connective : Connective) : List (Test m) → Test m
  | [] => fun _ => return connective.unit
  | test :: rest => fun revision => do
      if (← test revision) = connective.unit then inOrder connective rest revision
      else return !connective.unit

/-- Join tests: one test stands for itself, two are paired, and any other number
is asked in order. -/
def combine (connective : Connective) : List (Test m) → Test m
  | [only] => only
  | [first, second] => pair connective first second
  | tests => inOrder connective tests

end Test

inductive OneOrMany (α : Type)
  | one (part : α)
  | many (parts : List α)

def OneOrMany.toList {α : Type} : OneOrMany α → List α
  | .one part => [part]
  | .many parts => parts

def Test.combineEach {α : Type} {m n : Type → Type} [Monad m] [Monad n]
    (connective : Connective) (make : α → n (Test m)) : OneOrMany α → n (Test m)
  | .one part => make part
  | .many parts => Test.combine connective <$> parts.mapM make

namespace Predicate

def passes (predicate : Predicate) (revision : Revision) : Bool :=
  Id.run (predicate revision)

def matchesDocument (predicate : Predicate) (document : Json) : Bool :=
  predicate.passes { current := document }

def ofDocument (test : Json → Bool) : Predicate :=
  fun revision => test revision.current

def ofRevision (test : Revision → Bool) : Predicate :=
  fun revision => test revision

end Predicate

end DocQuery
