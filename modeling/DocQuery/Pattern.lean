import DocQuery.Json
import DocQuery.QueryError
import DocQuery.Regex.Room.Programs
import DocQuery.Regex.Search

/-!
# Patterns

A regular expression with its source and its flags, which are also its text:
`/source/flags`.  Of the flags, `i` ignores case, `m` lets line ends count, `s`
lets the dot match them, and `g`, `y` and `u` change nothing.
-/

namespace DocQuery

/-! ## Compilation -/

def Pattern.applyFlag? (options : Regex.Options) : Char → Option Regex.Options
  | 'i' => some { options with ignoreCase := true }
  | 'm' => some { options with multiLine := true }
  | 's' => some { options with dotAll := true }
  | 'g' => some options
  | 'y' => some options
  | 'u' => some options
  | _ => none

def Pattern.applyFlags (options : Regex.Options) :
    List Char → Except QueryError Regex.Options
  | [] => .ok options
  | flag :: rest =>
      match applyFlag? options flag with
      | some options => applyFlags options rest
      | none => .error (.patternFlag flag)

/-- The program of a source under flags.  Flags are looked at before the source. -/
def Pattern.compile (source flags : String) : Except QueryError Regex.Program :=
  match Pattern.applyFlags {} flags.toList with
  | .error error => .error error
  | .ok options =>
      match Regex.Program.ofPattern? options source.toList with
      | some program => .ok program
      | none => .error .pattern

/-- A pattern: its text and the program that the text means. -/
structure Pattern where
  source : String
  flags : String
  program : Regex.Program
  compiles : Pattern.compile source flags = .ok program

namespace Pattern

def ofSource (source flags : String) : Except QueryError Pattern :=
  match h : compile source flags with
  | .ok program => .ok { source, flags, program, compiles := h }
  | .error error => .error error

theorem eq_of_text {p q : Pattern} (hs : p.source = q.source) (hf : p.flags = q.flags) :
    p = q := by
  obtain ⟨source, flags, program, hp⟩ := p
  obtain ⟨_, _, program', hq⟩ := q
  subst hs hf
  have h : program = program' := Except.ok.inj (hp.symm.trans hq)
  subst h
  rfl

instance : DecidableEq Pattern := fun p q =>
  if h : p.source = q.source ∧ p.flags = q.flags then isTrue (eq_of_text h.1 h.2)
  else isFalse fun e => h (e ▸ ⟨rfl, rfl⟩)

theorem ofSource_self (pattern : Pattern) :
    ofSource pattern.source pattern.flags = .ok pattern := by
  have h := pattern.compiles
  unfold ofSource
  split
  · rename_i program hc
    exact congrArg Except.ok (eq_of_text rfl rfl)
  · rename_i error hc
    rw [h] at hc
    cases hc

/-! ## Literals -/

def text (pattern : Pattern) : String :=
  "/" ++ pattern.source ++ "/" ++ pattern.flags

def splitAtLastSlash? : List Char → Option (List Char × List Char)
  | [] => none
  | c :: rest =>
      match splitAtLastSlash? rest with
      | some (before, after) => some (c :: before, after)
      | none => if c = '/' then some ([], rest) else none

/-- The pattern that a literal writes: a slash, the source, a slash, the flags.
The last slash ends the source, which may itself have slashes. -/
def ofLiteral (literal : String) : Except QueryError Pattern :=
  match literal.toList with
  | '/' :: body =>
      match splitAtLastSlash? body with
      | some (source, flags) => ofSource (String.ofList source) (String.ofList flags)
      | none => .error (.patternLiteral literal)
  | _ => .error (.patternLiteral literal)

/-! ## Matching -/

def isMatch (pattern : Pattern) (text : String) : Bool :=
  pattern.program.isMatch text.toList

/-- Whether the text of a value has a match; only strings, numbers and booleans
have a text. -/
def matchesValue (pattern : Pattern) : Json → Bool
  | .string text => pattern.isMatch text
  | .number number => pattern.isMatch number.text
  | .bool value => pattern.isMatch (if value then "true" else "false")
  | _ => false

end Pattern

end DocQuery
