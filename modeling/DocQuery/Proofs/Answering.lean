import DocQuery.CommandLine.Session
import DocQuery.Proofs.Layout
import DocQuery.Proofs.RoundTrip.Values

/-!
# Answers line by line

The transition command gives each line of its input that is not blank one response, which
the line and the test decide alone.  A line that is no text is not blank, so that it is
answered too, and no fault of a line reaches the next one.
-/

namespace DocQuery

namespace CommandLine

/-- Whether a line is text and has nothing but blanks. -/
def isBlankText (line : List UInt8) : Bool :=
  (decodeText? line).any fun text => Text.isBlankLine text.toList

def respond (predicate : Predicate) (line : List UInt8) : Json :=
  match decodeText? line with
  | none => errorResponse (.inputUnread .notText)
  | some text =>
      match Json.ofText? text with
      | none => errorResponse .jsonMalformed
      | some value =>
          match value.field? "current" with
          | none => errorResponse .currentMissing
          | some current =>
              let previous := (value.field? "previous").bind Json.nonNull?
              okResponse (.bool (predicate.passes { current, previous }))

/-- The responses to lines: one to each that is not blank, in their order. -/
def responses (predicate : Predicate) (lines : List (List UInt8)) : List Json :=
  (lines.filter fun line => !isBlankText line).map (respond predicate)

def Invocation.configuration (invocation : Invocation)
    (files : String → Except ReadFault (List UInt8)) : Work Config :=
  match invocation.config with
  | some path => loadConfig files path
  | none => pure {}

section

variable {environment : Environment} {invocation : Invocation} {text : String}
  {config : Config} {query : Query} {predicate : Predicate}

end

end CommandLine

end DocQuery
