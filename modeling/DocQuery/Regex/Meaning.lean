import DocQuery.Regex.Program
import DocQuery.Regex.Reading
import DocQuery.Unicode.Age
import DocQuery.Unicode.BreakClass

/-!
# Meaning of patterns

A pattern under its flags becomes a program.  Flags hold from where they are
switched to the end of the group, also across branches.  Without the Unicode flag
classes are sets of bytes, and those with bytes beyond ASCII could split a
character and are refused.
-/

namespace DocQuery

namespace Regex

structure Options where
  ignoreCase : Bool := false
  multiLine : Bool := false
  dotAll : Bool := false
  swapGreed : Bool := false
  unicode : Bool := true
  crlf : Bool := false
deriving DecidableEq

namespace Options

def switch (options : Options) : Flag × Bool → Options
  | (.ignoreCase, on) => { options with ignoreCase := on }
  | (.multiLine, on) => { options with multiLine := on }
  | (.dotAll, on) => { options with dotAll := on }
  | (.unicode, on) => { options with unicode := on }
  | (.crlf, on) => { options with crlf := on }
  | (.swapGreed, on) => { options with swapGreed := on }
  | (.ignoreBlanks, _) => options

def change (options : Options) (changes : FlagChanges) : Options :=
  changes.foldl switch options

end Options

/-! ## Sets of characters -/

def closeUnderAsciiCase (set : CharSet) : CharSet :=
  let upper := CharSet.inter set [(0x41, 0x5A)]
  let lower := CharSet.inter set [(0x61, 0x7A)]
  CharSet.ofRanges
    (upper.map (fun range => (range.1 + 0x20, range.2 + 0x20))
      ++ lower.map (fun range => (range.1 - 0x20, range.2 - 0x20)) ++ set)

/-- The characters that differ in case alone from one of a set, where the flags
ignore case. -/
def caseClosure (options : Options) (set : CharSet) : CharSet :=
  if options.ignoreCase then
    if options.unicode then Unicode.closeUnderCase set else closeUnderAsciiCase set
  else set

/-- A set or its complement.  The complement of a class of bytes has bytes beyond
ASCII. -/
def complementIf (options : Options) (negated : Bool) (set : CharSet) : Option CharSet :=
  if negated then if options.unicode then some (CharSet.complement set) else none
  else some set

def valuedProperty? (property value : String) : Option CharSet :=
  match property with
  | "generalcategory" | "gc" => Unicode.category? value
  | "script" | "sc" => Unicode.script? value
  | "scriptextensions" | "scx" => Unicode.scriptUse? value
  | "age" => Unicode.age? value
  | "graphemeclusterbreak" | "gcb" => Unicode.graphemeBreak? value
  | "wordbreak" | "wb" => Unicode.wordBreak? value
  | "sentencebreak" | "sb" => Unicode.sentenceBreak? value
  | _ => none

/-- The names that mean a category although a property has them as well. -/
def meansCategory (name : String) : Bool :=
  name = "cf" || name = "sc" || name = "lc"

/-- The characters with a property: a property by name, else a general category,
else a script. -/
def PropertyQuery.chars? : PropertyQuery → Option CharSet
  | .named name =>
      let name := Unicode.looseName name
      let property := if meansCategory name then none else Unicode.property? name
      property.or ((Unicode.category? name).or (Unicode.script? name))
  | .valued property value =>
      valuedProperty? (Unicode.looseName property) (Unicode.looseName value)

def ShortClass.chars (options : Options) : ShortClass → CharSet
  | .digit => if options.unicode then Unicode.decimalDigits else [(0x30, 0x39)]
  | .space =>
      if options.unicode then Unicode.whiteSpace else [(0x09, 0x0D), (0x20, 0x20)]
  | .word =>
      if options.unicode then Unicode.wordChars
      else [(0x30, 0x39), (0x41, 0x5A), (0x5F, 0x5F), (0x61, 0x7A)]

def Literal.char? (options : Options) (literal : Literal) : Option Char :=
  if !options.unicode && literal.byte && 0x7F < literal.char.toNat then none
  else some literal.char

/-- The character of a literal inside a class; a class of bytes has ASCII alone. -/
def Literal.codeInClass? (options : Options) (literal : Literal) : Option Nat :=
  if !options.unicode && 0x7F < literal.char.toNat then none
  else some literal.char.toNat

def Leaf.chars? (options : Options) : Leaf → Option CharSet
  | .literal written => (written.codeInClass? options).map CharSet.single
  | .short kind negated => complementIf options negated (kind.chars options)
  | .property query negated =>
      if options.unicode then
        query.chars?.bind fun set => complementIf options negated (caseClosure options set)
      else none
  | .dot => none
  | .assertion _ => none

def SetOperator.apply : SetOperator → CharSet → CharSet → CharSet
  | .intersection => CharSet.inter
  | .difference => CharSet.diff
  | .symmetricDifference => CharSet.symmDiff

mutual

/-- The characters of a class.  Case is ignored before a class is negated and
before two are combined. -/
def ClassSet.chars? (options : Options) : ClassSet → Option CharSet
  | empty => some []
  | leaf part => part.chars? options
  | range first last => do
      let first ← first.codeInClass? options
      let last ← last.codeInClass? options
      some [(first, last)]
  | ascii set negated => complementIf options negated (caseClosure options set)
  | nested negated set =>
      (ClassSet.chars? options set).bind fun set =>
        complementIf options negated (caseClosure options set)
  | union sets => ClassSet.unionChars? options sets
  | combined operator left right =>
      (ClassSet.chars? options left).bind fun left =>
        (ClassSet.chars? options right).map fun right =>
          operator.apply (caseClosure options left) (caseClosure options right)

def ClassSet.unionChars? (options : Options) : List ClassSet → Option CharSet
  | [] => some []
  | set :: rest =>
      (ClassSet.chars? options set).bind fun set =>
        (ClassSet.unionChars? options rest).map (CharSet.union set)

end

/-! ## Parts -/

def Assertion.condition (options : Options) : Assertion → Condition
  | .lineStart =>
      if options.multiLine then if options.crlf then .crlfStart else .lineStart
      else .textStart
  | .lineEnd =>
      if options.multiLine then if options.crlf then .crlfEnd else .lineEnd else .textEnd
  | .textStart => .textStart
  | .textEnd => .textEnd
  | .wordBoundary => .wordBoundary (ShortClass.chars options .word)
  | .noWordBoundary => .noWordBoundary (ShortClass.chars options .word)
  | .wordStart => .wordStart (ShortClass.chars options .word)
  | .wordEnd => .wordEnd (ShortClass.chars options .word)
  | .wordStartHalf => .wordStartHalf (ShortClass.chars options .word)
  | .wordEndHalf => .wordEndHalf (ShortClass.chars options .word)

def dotChars (options : Options) : CharSet :=
  if options.dotAll then CharSet.full
  else if options.crlf then CharSet.complement [(0x0A, 0x0A), (0x0D, 0x0D)]
  else CharSet.complement [(0x0A, 0x0A)]

/-- A character as a program: a literal, or the characters that differ from it in case
alone where the flags ignore case. -/
def charProgram (options : Options) (c : Char) : Program :=
  if options.ignoreCase then .ofSet (caseClosure options (CharSet.single c.toNat))
  else .literal [c]

def Leaf.program? (options : Options) : Leaf → Option Program
  | .literal written => (written.char? options).map (charProgram options)
  | .dot => if options.unicode then some (.ofSet (dotChars options)) else none
  | .assertion kind => some (.condition (kind.condition options))
  | leaf => (leaf.chars? options).map Program.ofSet

mutual

def Ast.program? (options : Options) : Ast → Option (Program × Options)
  | empty => some (.empty, options)
  | flags changes => some (.empty, options.change changes)
  | leaf part => (part.program? options).map (·, options)
  | bracketed negated set => do
      let set ← set.chars? options
      let set ← complementIf options negated (caseClosure options set)
      some (.ofSet set, options)
  | repetition least most greedy body =>
      (Ast.program? options body).map fun (program, after) =>
        (.repeated least most (greedy != options.swapGreed) program, after)
  | group changes body =>
      (Ast.program? (options.change changes) body).map fun (program, _) => (program, options)
  | capture body =>
      (Ast.program? options body).map fun (program, _) => (.capture program, options)
  | alternation branches =>
      (Ast.programs? options branches).map fun (programs, after) =>
        (.ofBranches programs, after)
  | concat parts =>
      (Ast.programs? options parts).map fun (programs, after) => (.ofParts programs, after)

def Ast.programs? (options : Options) : List Ast → Option (List Program × Options)
  | [] => some ([], options)
  | ast :: rest =>
      (Ast.program? options ast).bind fun (program, options) =>
        (Ast.programs? options rest).map fun (programs, options) =>
          (program :: programs, options)

end

end Regex

end DocQuery
