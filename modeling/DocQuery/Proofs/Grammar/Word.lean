import DocQuery.Compiler

/-!
# Words of queries

The standard operators as words.  A text spells a word plainly or with the mark of
negation; the standard catalog knows exactly the texts that spell a word, and has
under each of them what the word, so signed, stands for.
-/

namespace DocQuery

/-! ## Signed words -/

/-- A word, plain or negated. -/
structure Signed (ω : Type) where
  word : ω
  negated : Bool
deriving DecidableEq

/-- Words that have names. -/
class Vocabulary (ω : Type) where
  words : List ω
  body : ω → String
  body_ne : ∀ word, body word ≠ ""

def Vocabulary.name {ω : Type} [Vocabulary ω] (word : ω) : OperatorName where
  body := body word
  body_ne := body_ne word

namespace Signed

variable {ω : Type}

/-- The outcome of a signed word, given that of the word. -/
def outcome (signed : Signed ω) (plain : Bool) : Bool :=
  signed.negated != plain

variable [Vocabulary ω]

/-- The text that spells a signed word. -/
def text (signed : Signed ω) : String :=
  if signed.negated then (Vocabulary.name signed.word).negated.text
  else (Vocabulary.name signed.word).text

/-- A word with the sign in which a text spells it, if it does. -/
def read? (text : String) (word : ω) : Option (Signed ω) :=
  if text = Signed.text ⟨word, false⟩ then some ⟨word, false⟩
  else if text = Signed.text ⟨word, true⟩ then some ⟨word, true⟩
  else none

def ofText? (text : String) : Option (Signed ω) :=
  Vocabulary.words.findSome? (read? text)

theorem text_of_read? {text : String} {word : ω} {signed : Signed ω}
    (h : read? text word = some signed) : signed.text = text := by
  unfold read? at h
  split at h
  · rename_i htext
    cases h
    exact htext.symm
  · split at h
    · rename_i htext
      cases h
      exact htext.symm
    · cases h

theorem text_of_ofText? {text : String} {signed : Signed ω}
    (h : ofText? text = some signed) : signed.text = text := by
  obtain ⟨word, _, hread⟩ := List.exists_of_findSome?_eq_some h
  exact text_of_read? hread

/-- Only operator keys spell words. -/
theorem isOperatorKey_of_ofText? {text : String} {signed : Signed ω}
    (h : ofText? text = some signed) : isOperatorKey text = true := by
  rw [← text_of_ofText? h, Signed.text]
  split <;> exact OperatorName.isOperatorKey_text _

end Signed

/-! ## Field words -/

/-- The standard field operators. -/
inductive FieldWord
  | differs
  | present
  | nil
  | anyOf
  | like
  | regex
  | greater
  | notLess
  | less
  | notGreater
  | modulo
  | changed
  | leftFrom
  | changedTo
deriving DecidableEq

namespace FieldWord

instance : Vocabulary FieldWord where
  words :=
    [differs, present, nil, anyOf, like, regex, greater, notLess, less, notGreater, modulo,
      changed, leftFrom, changedTo]
  body
    | differs => "not"
    | present => "exists"
    | nil => "nil"
    | anyOf => "any"
    | like => "like"
    | regex => "regex"
    | greater => "gt"
    | notLess => "gte"
    | less => "lt"
    | notGreater => "lte"
    | modulo => "mod"
    | changed => "changed"
    | leftFrom => "from"
    | changedTo => "to"
  body_ne word := by cases word <;> decide

def operator : FieldWord → FieldOperator
  | differs => Standard.differs
  | present => Standard.present
  | nil => Standard.nil
  | anyOf => Standard.anyOf
  | like => Standard.like
  | regex => Standard.regex
  | greater => Standard.ordered "$gt" fun o => o == .gt
  | notLess => Standard.ordered "$gte" fun o => o != .lt
  | less => Standard.ordered "$lt" fun o => o == .lt
  | notGreater => Standard.ordered "$lte" fun o => o != .gt
  | modulo => Standard.modulo
  | changed => Standard.changed
  | leftFrom => Standard.leftFrom
  | changedTo => Standard.changedTo

end FieldWord

def Signed.fieldOperator (signed : Signed FieldWord) : FieldOperator :=
  if signed.negated then signed.word.operator.negate else signed.word.operator

/-! ## Clause words -/

/-- The standard clause operators. -/
inductive ClauseWord
  | hasFields
  | anyQuery
deriving DecidableEq

namespace ClauseWord

instance : Vocabulary ClauseWord where
  words := [hasFields, anyQuery]
  body
    | hasFields => "has"
    | anyQuery => "or"
  body_ne word := by cases word <;> decide

def operator : ClauseWord → ClauseOperator
  | hasFields => Standard.hasFields
  | anyQuery => Standard.anyQuery

end ClauseWord

def Signed.clauseOperator (signed : Signed ClauseWord) : ClauseOperator :=
  if signed.negated then signed.word.operator.negate else signed.word.operator

/-! ## Reading of texts -/

namespace Signed

theorem ofText?_text_field (signed : Signed FieldWord) : ofText? signed.text = some signed := by
  obtain ⟨word, negated⟩ := signed
  cases word <;> cases negated <;> rfl

theorem ofText?_text_clause (signed : Signed ClauseWord) :
    ofText? signed.text = some signed := by
  obtain ⟨word, negated⟩ := signed
  cases word <;> cases negated <;> rfl

end Signed

/-! ## The standard catalog -/

namespace Catalog

theorem standard_field_text (signed : Signed FieldWord) :
    standard.fields.operator? signed.text = some signed.fieldOperator := by
  obtain ⟨word, negated⟩ := signed
  cases word <;> cases negated <;> rfl

theorem standard_clause_text (signed : Signed ClauseWord) :
    standard.clauses.operator? signed.text = some signed.clauseOperator := by
  obtain ⟨word, negated⟩ := signed
  cases word <;> cases negated <;> rfl

theorem standard_field_keys :
    ∀ key ∈ Entries.keys standard.fields.entries,
      (Signed.ofText? key : Option (Signed FieldWord)).isSome := by
  decide +kernel

theorem standard_clause_keys :
    ∀ key ∈ Entries.keys standard.clauses.entries,
      (Signed.ofText? key : Option (Signed ClauseWord)).isSome := by
  decide +kernel

theorem operator?_eq_none {ω κ : Type} [Vocabulary ω] {table : OperatorTable κ}
    (keys : ∀ key ∈ Entries.keys table.entries,
      (Signed.ofText? key : Option (Signed ω)).isSome)
    {text : String} (h : (Signed.ofText? text : Option (Signed ω)) = none) :
    table.operator? text = none := by
  have hkey : text ∉ Entries.keys table.entries := by
    intro hmem
    have hsome := keys text hmem
    rw [h] at hsome
    cases hsome
  rw [OperatorTable.operator?, OperatorTable.find?, Entries.find?_eq_none_iff.mpr hkey]
  rfl

/-- The standard field operators are the signed field words. -/
theorem standard_field (text : String) :
    standard.fields.operator? text = (Signed.ofText? text).map Signed.fieldOperator := by
  cases h : (Signed.ofText? text : Option (Signed FieldWord)) with
  | none =>
      exact operator?_eq_none standard_field_keys h
  | some signed =>
      rw [← Signed.text_of_ofText? h]
      exact standard_field_text signed

/-- The standard clause operators are the signed clause words. -/
theorem standard_clause (text : String) :
    standard.clauses.operator? text = (Signed.ofText? text).map Signed.clauseOperator := by
  cases h : (Signed.ofText? text : Option (Signed ClauseWord)) with
  | none =>
      exact operator?_eq_none standard_clause_keys h
  | some signed =>
      rw [← Signed.text_of_ofText? h]
      exact standard_clause_text signed

end Catalog

end DocQuery
