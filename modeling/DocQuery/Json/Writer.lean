import DocQuery.Json
import DocQuery.Text.Digits

/-!
# Writing JSON text

Compact text: no blanks between tokens, members in their order, and only those
characters of a string escaped that have to be.
-/

namespace DocQuery

namespace Json

/-- The text of one character inside a string. -/
def escapeChar (c : Char) : List Char :=
  if c = '"' then ['\\', '"']
  else if c = '\\' then ['\\', '\\']
  else if c = '\x08' then ['\\', 'b']
  else if c = '\x0c' then ['\\', 'f']
  else if c = '\n' then ['\\', 'n']
  else if c = '\r' then ['\\', 'r']
  else if c = '\t' then ['\\', 't']
  else if c.toNat < 0x20 then
    ['\\', 'u', '0', '0', Text.hexDigit (c.toNat / 16), Text.hexDigit (c.toNat % 16)]
  else [c]

def quotedChars (text : String) : List Char :=
  '"' :: text.toList.flatMap escapeChar ++ ['"']

mutual

def chars : Json → List Char
  | null => ['n', 'u', 'l', 'l']
  | bool true => ['t', 'r', 'u', 'e']
  | bool false => ['f', 'a', 'l', 's', 'e']
  | number value => value.text.toList
  | string text => quotedChars text
  | array items => '[' :: (itemChars items ++ [']'])
  | object members => '{' :: (memberChars members ++ ['}'])

def itemChars : List Json → List Char
  | [] => []
  | item :: rest =>
      match rest with
      | [] => chars item
      | _ :: _ => chars item ++ ',' :: itemChars rest

def memberChars : List (String × Json) → List Char
  | [] => []
  | (key, value) :: rest =>
      match rest with
      | [] => quotedChars key ++ ':' :: chars value
      | _ :: _ => quotedChars key ++ ':' :: (chars value ++ ',' :: memberChars rest)

end

def text (value : Json) : String :=
  String.ofList (chars value)

def quoted (text : String) : String :=
  String.ofList (quotedChars text)

end Json

end DocQuery
