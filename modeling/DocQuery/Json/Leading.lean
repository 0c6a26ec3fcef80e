import DocQuery.Json.Reader

/-!
# Leading values

The value at the front of a text, whatever follows it.
-/

namespace DocQuery

namespace Json

/-- The written value at the front of a text that starts with a quote, a bracket
or a brace: the text is read until the value is complete. -/
def leadingRaw? (lexer : Lexer.State) (state : Raw.State) : List Char → Option Raw
  | [] => none
  | c :: rest =>
      (Lexer.step lexer c).bind fun lexer =>
        match lexer.tokens.reverse.foldlM Raw.step state with
        | none => none
        | some (.finished value) => some value
        | some state => leadingRaw? { lexer with tokens := [] } state rest

def leadingWord? (cs : List Char) : Option Json :=
  if ['n', 'u', 'l', 'l'].isPrefixOf cs then some .null
  else if ['t', 'r', 'u', 'e'].isPrefixOf cs then some (.bool true)
  else if ['f', 'a', 'l', 's', 'e'].isPrefixOf cs then some (.bool false)
  else none

def leadingNumber? (cs : List Char) : Option Json :=
  (Number.Literal.read? cs).bind fun (literal, _) => literal.toNumber?.map .number

def leading? (text : String) : Option Json :=
  let cs := text.toList.dropWhile Lexer.isBlank
  match cs with
  | [] => none
  | c :: _ =>
      if c = '-' || c.isDigit then leadingNumber? cs
      else if c.isLower then leadingWord? cs
      else
        (leadingRaw? { tokens := [], mode := .between } (.value []) cs).bind
          (Raw.toJson? depthLimit)

end Json

end DocQuery
