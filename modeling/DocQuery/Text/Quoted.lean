import DocQuery.Text.Repertoire

/-!
# Quoted names

How messages show a name or a character: between quotes, with an escape for the
quote, the backslash, control characters, characters that extend others and all
that have no picture.
-/

namespace DocQuery

namespace Text

def coded : CharSet :=
  CharSet.union unseen overlaid

/-- An escape by code point, such as `\u` and `7f` in braces. -/
def codeEscape (c : Char) : List Char :=
  '\\' :: 'u' :: '{' :: (Nat.toDigits 16 c.toNat ++ ['}'])

/-- A character between quotes of a kind; the other kind of quote stands for
itself. -/
def quotedChar (quote c : Char) : List Char :=
  if c = quote then ['\\', c]
  else
    match c with
    | '\x00' => ['\\', '0']
    | '\t' => ['\\', 't']
    | '\r' => ['\\', 'r']
    | '\n' => ['\\', 'n']
    | '\\' => ['\\', '\\']
    | _ => if coded.has c.toNat then codeEscape c else [c]

def quoteName (name : String) : String :=
  String.ofList ('"' :: name.toList.flatMap (quotedChar '"') ++ ['"'])

def quoteChar (c : Char) : String :=
  String.ofList ('\'' :: quotedChar '\'' c ++ ['\''])

end Text

end DocQuery
