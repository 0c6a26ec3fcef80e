import DocQuery.Entries
import DocQuery.Kind
import DocQuery.Number

/-!
# JSON values

Documents and the plain part of queries.  Two equalities matter: equality by
value, which queries use and which takes `1` and `1.0` for the same, and equality
of what is written, which tells them apart.  Neither depends on the order of
object members.
-/

namespace DocQuery

/-- A JSON value; the members of an object keep their order. -/
inductive Json
  | null
  | bool (value : Bool)
  | number (value : Number)
  | string (text : String)
  | array (items : List Json)
  | object (members : List (String × Json))

namespace Json

def kind : Json → Kind
  | null => .null
  | bool _ => .boolean
  | number _ => .number
  | string _ => .string
  | array _ => .array
  | object _ => .object

/-! ## Parts -/

/-- A top-level field.  Values other than objects have no fields. -/
def field? (key : String) : Json → Option Json
  | object members => Entries.find? key members
  | _ => none

def bool? : Json → Option Bool
  | bool value => some value
  | _ => none

def string? : Json → Option String
  | string text => some text
  | _ => none

def binary64? : Json → Option Binary64
  | number value => some value.toBinary64
  | _ => none

def nonNull? : Json → Option Json
  | null => none
  | value => some value

/-! ## Equality -/

mutual

/-- Equality of structure, with numbers compared by a given test. -/
def sameBy (eq : Number → Number → Bool) : Json → Json → Bool
  | null, null => true
  | bool a, bool b => a == b
  | number a, number b => eq a b
  | string a, string b => a == b
  | array as, array bs => sameItemsBy eq as bs
  | object as, object bs => as.length == bs.length && sameMembersBy eq as bs
  | _, _ => false

def sameItemsBy (eq : Number → Number → Bool) : List Json → List Json → Bool
  | [], [] => true
  | a :: as, b :: bs => sameBy eq a b && sameItemsBy eq as bs
  | _, _ => false

def sameMembersBy (eq : Number → Number → Bool) :
    List (String × Json) → List (String × Json) → Bool
  | [], _ => true
  | (key, a) :: as, bs =>
      (match Entries.find? key bs with
        | some b => sameBy eq a b
        | none => false)
      && sameMembersBy eq as bs

end

def sameValue : Json → Json → Bool :=
  sameBy Number.sameValue

def sameWritten : Json → Json → Bool :=
  sameBy Number.sameWritten

def sameField : Option Json → Option Json → Bool
  | none, none => true
  | some a, some b => sameValue a b
  | _, _ => false

/-! ## Order -/

/-- The order of two numbers, strings or booleans; other pairs have none. -/
def compare? : Json → Json → Option Ordering
  | number a, number b => some (a.compare b)
  | string a, string b => some (Ord.compare a b)
  | bool a, bool b => some (Ord.compare a b)
  | _, _ => none

end Json

end DocQuery
