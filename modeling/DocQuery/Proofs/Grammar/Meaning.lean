import DocQuery.Proofs.Grammar.Operand

/-!
# What queries mean

A field of a query has one of five forms, which its term and its key settle in this
order: a pattern, a clause word, a map of field words, an operator key without a
meaning, and a plain equality.  A query is true of a revision if all its fields are,
read one by one, with the sub-queries in their operands read in the same way.
-/

namespace DocQuery

/-! ## Forms -/

inductive Form
  | pattern (pattern : Pattern)
  | clause (signed : Signed ClauseWord)
  | operators (entries : List (String × Term))
  | ignored
  | equality

/-- The form of a field: a pattern under any key comes first, and a clause word before
the shape of its term. -/
def form (key : String) (term : Term) : Form :=
  match term, Signed.ofText? key with
  | .regex pattern, _ => .pattern pattern
  | _, some signed => .clause signed
  | .map entries, none => .operators entries
  | _, none => if isOperatorKey key then .ignored else .equality

namespace Form

def isEquality : Form → Bool
  | equality => true
  | _ => false

theorem isEquality_iff {form : Form} : form.isEquality = true ↔ form = .equality := by
  cases form <;> simp [isEquality]

end Form

theorem form_eq_clause_iff {key : String} {term : Term} {signed : Signed ClauseWord} :
    form key term = .clause signed ↔
      (∀ pattern, term ≠ .regex pattern) ∧ Signed.ofText? key = some signed := by
  unfold form
  cases term with
  | regex pattern =>
      simp
  | scalar | map | list =>
      cases (Signed.ofText? key : Option (Signed ClauseWord)) with
      | some other => simp
      | none => cases isOperatorKey key <;> simp

theorem form_eq_operators_iff {key : String} {term : Term}
    {entries : List (String × Term)} :
    form key term = .operators entries ↔
      (Signed.ofText? key : Option (Signed ClauseWord)) = none ∧ term = .map entries := by
  unfold form
  cases term with
  | regex pattern =>
      simp
  | scalar | map | list =>
      cases (Signed.ofText? key : Option (Signed ClauseWord)) with
      | some other => simp
      | none => cases isOperatorKey key <;> simp

/-! ## Meanings -/

/-- What a clause word says, given whether some sub-query in its operand is true. -/
def ClauseWord.holds (word : ClauseWord) (operand : Term) (subquery : Bool)
    (revision : Revision) : Bool :=
  match word with
  | hasFields =>
      operand.elements.all fun part =>
        part.string?.any fun key => (revision.field key).now.isSome
  | anyQuery => subquery

/-- What an entry of a map says of a field; an unknown name says nothing. -/
def entryHolds (entry : String × Term) (field : FieldHistory) : Bool :=
  match Signed.ofText? entry.1 with
  | some signed => signed.holds entry.2 field
  | none => true

/-- What a field says, given whether a later equality of its key takes its place and
whether some sub-query in its term is true. -/
def fieldHolds (key : String) (term : Term) (superseded subquery : Bool)
    (revision : Revision) : Bool :=
  match form key term with
  | .pattern pattern => pattern.occursIn (revision.field key).now
  | .clause signed => signed.outcome (signed.word.holds term subquery revision)
  | .operators entries => entries.all fun entry => entryHolds entry (revision.field key)
  | .ignored => true
  | .equality => superseded || FieldWord.equals (revision.field key).now term

/-- Whether some of the fields is an equality of a key.  Of several equalities of one key
the last one counts. -/
def hasEquality (key : String) (fields : List (String × Term)) : Bool :=
  fields.any fun (other, term) => other == key && (form other term).isEquality

theorem hasEquality_cons (key other : String) (term : Term) (rest : List (String × Term)) :
    hasEquality key ((other, term) :: rest) =
      ((other == key && (form other term).isEquality) || hasEquality key rest) :=
  List.any_cons

theorem hasEquality_append (key : String) (front back : List (String × Term)) :
    hasEquality key (front ++ back) = (hasEquality key front || hasEquality key back) :=
  List.any_append

mutual

/-- Whether a query is true of a revision. -/
def means : List (String × Term) → Revision → Bool
  | [], _ => true
  | (key, term) :: rest, revision =>
      fieldHolds key term (hasEquality key rest) (meansSome term revision) revision
        && means rest revision

/-- Whether some sub-query in an operand is true of a revision. -/
def meansSome : Term → Revision → Bool
  | .map fields, revision => means fields revision
  | .list items, revision => meansSomeItem items revision
  | _, _ => false

def meansSomeItem : List Term → Revision → Bool
  | [], _ => false
  | .map fields :: rest, revision => means fields revision || meansSomeItem rest revision
  | _ :: rest, revision => meansSomeItem rest revision

end

def meansItem : Term → Revision → Bool
  | .map fields, revision => means fields revision
  | _, _ => false

theorem meansSomeItem_eq (items : List Term) (revision : Revision) :
    meansSomeItem items revision = items.any fun item => meansItem item revision := by
  induction items with
  | nil =>
      rw [meansSomeItem, List.any_nil]
  | cons item rest ih =>
      rw [List.any_cons, ← ih]
      cases item <;> simp [meansSomeItem, meansItem]

theorem meansSome_eq (term : Term) (revision : Revision) :
    meansSome term revision = term.elements.any fun item => meansItem item revision := by
  cases term with
  | list items =>
      exact meansSomeItem_eq items revision
  | scalar | regex | map =>
      simp [meansSome, Term.elements, meansItem]

end DocQuery
