import DocQuery.Unicode.CharSet

/-!
# Patterns as written

The syntax tree of a pattern, before flags are applied to it.  Group names are
left out: they do not decide what a pattern means.
-/

namespace DocQuery

namespace Regex

/-- The flags that a pattern can switch; the last one only concerns reading. -/
inductive Flag
  | ignoreCase
  | multiLine
  | dotAll
  | swapGreed
  | unicode
  | crlf
  | ignoreBlanks
deriving DecidableEq

abbrev FlagChanges := List (Flag × Bool)

inductive Assertion
  | lineStart
  | lineEnd
  | textStart
  | textEnd
  | wordBoundary
  | noWordBoundary
  | wordStart
  | wordEnd
  | wordStartHalf
  | wordEndHalf
deriving DecidableEq

inductive ShortClass
  | digit
  | space
  | word
deriving DecidableEq

inductive PropertyQuery
  | named (name : String)
  | valued (property value : String)
deriving DecidableEq

/-- A written character; `byte` marks a two-digit hexadecimal escape, which
stands for a byte where characters are bytes. -/
structure Literal where
  char : Char
  byte : Bool := false
deriving DecidableEq

inductive Leaf
  | literal (literal : Literal)
  | dot
  | assertion (assertion : Assertion)
  | short (shortClass : ShortClass) (negated : Bool)
  | property (query : PropertyQuery) (negated : Bool)

inductive SetOperator
  | intersection
  | difference
  | symmetricDifference

inductive ClassSet
  | empty
  | leaf (leaf : Leaf)
  | range (first last : Literal)
  | ascii (set : CharSet) (negated : Bool)
  | nested (negated : Bool) (set : ClassSet)
  | union (sets : List ClassSet)
  | combined (operator : SetOperator) (left right : ClassSet)

/-- The syntax tree of a pattern.  A repetition is greedy when it would rather go on
than stop. -/
inductive Ast
  | empty
  | flags (changes : FlagChanges)
  | leaf (leaf : Leaf)
  | bracketed (negated : Bool) (set : ClassSet)
  | repetition (least : Nat) (most : Option Nat) (greedy : Bool) (body : Ast)
  | group (changes : FlagChanges) (body : Ast)
  | capture (body : Ast)
  | alternation (branches : List Ast)
  | concat (parts : List Ast)

/-! ## Nesting -/

mutual

def ClassSet.depth : ClassSet → Nat
  | empty => 0
  | leaf _ => 0
  | range _ _ => 0
  | ascii _ _ => 0
  | nested _ set => set.depth + 1
  | union sets => ClassSet.depths sets + 1
  | combined _ left right => max left.depth right.depth + 1

def ClassSet.depths : List ClassSet → Nat
  | [] => 0
  | set :: rest => max set.depth (ClassSet.depths rest)

end

mutual

def Ast.depth : Ast → Nat
  | empty => 0
  | flags _ => 0
  | leaf _ => 0
  | bracketed _ set => set.depth + 1
  | repetition _ _ _ body => body.depth + 1
  | group _ body => body.depth + 1
  | capture body => body.depth + 1
  | alternation branches => Ast.depths branches + 1
  | concat parts => Ast.depths parts + 1

def Ast.depths : List Ast → Nat
  | [] => 0
  | ast :: rest => max ast.depth (Ast.depths rest)

end

def depthLimit : Nat := 250

/-- Parts in a row; a single part stands for itself. -/
def Ast.ofParts : List Ast → Ast
  | [] => .empty
  | [part] => part
  | parts => .concat parts

def Ast.ofBranches : List Ast → Ast
  | [branch] => branch
  | branches => .alternation branches

def ClassSet.ofSets : List ClassSet → ClassSet
  | [] => .empty
  | [set] => set
  | sets => .union sets

end Regex

end DocQuery
