import DocQuery.CommandLine.Error
import DocQuery.Filter

/-!
# Documents of the input

Documents come as one JSON array or as one JSON value a line.  Pairs of versions
come one a line, and a line that holds none does not stop the others.
-/

namespace DocQuery

namespace CommandLine

abbrev Read (α : Type) := Except CommandError α

def readJson (text : List Char) : Read Json :=
  match Json.ofText? (String.ofList text) with
  | some value => .ok value
  | none => .error .jsonMalformed

def decodeText? (bytes : List UInt8) : Option String :=
  String.fromUTF8? ⟨bytes.toArray⟩

/-! ## Documents -/

def readEach : List (List Char) → Read (List Json)
  | [] => .ok []
  | line :: rest =>
      if Text.isBlankLine line then readEach rest
      else
        match readJson line with
        | .ok document => (readEach rest).map (document :: ·)
        | .error error => .error error

/-- The documents of a text: an array if it starts with one, else one a line. -/
def parseDocuments (text : List Char) : Read (List Json) :=
  let trimmed := Text.dropBlanks text
  if trimmed.head? = some '[' then
    match readJson trimmed with
    | .ok (.array items) => .ok items
    | .ok _ => .error .jsonMalformed
    | .error error => .error error
  else readEach (Text.lines trimmed)

def readDocuments (bytes : List UInt8) : Read (List Json) :=
  match decodeText? bytes with
  | some text => parseDocuments text.toList
  | none => .error (.inputUnread .notText)

/-! ## Pairs of versions -/

/-- The pair that a value holds: a current document, and a previous one unless
that is `null`. -/
def revisionOf (value : Json) : Read Revision :=
  match value.field? "current" with
  | some current =>
      .ok { current, previous := (value.field? "previous").bind Json.nonNull? }
  | none => .error .currentMissing

/-- The pair of a line; a blank line has none. -/
def readRevision? (line : List UInt8) : Option (Read Revision) :=
  match decodeText? line with
  | none => some (.error (.inputUnread .notText))
  | some text =>
      if Text.isBlankLine text.toList then none
      else some ((readJson text.toList).bind revisionOf)

def lineFeed : UInt8 := 10

def carriageReturn : UInt8 := 13

def readRevisions (bytes : List UInt8) : List (Read Revision) :=
  (Text.splitLines lineFeed carriageReturn bytes).filterMap readRevision?

end CommandLine

end DocQuery
