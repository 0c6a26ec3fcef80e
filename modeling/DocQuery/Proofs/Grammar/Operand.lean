import DocQuery.Proofs.Grammar.Subquery
import DocQuery.Proofs.Grammar.Word
import DocQuery.Proofs.Joining
import DocQuery.Proofs.Verdict

/-!
# What words say

What a field word says of a field, given its operand: a reading of the operand beside
the present and the previous value of the field, without tests that are built first.
Beside it stands what can be wrong with an operand.  The main statement is that each
standard field operator fails with that fault and otherwise tests what its word says.
-/

namespace DocQuery

/-! ## Values -/

/-- The text of a string, a number or a boolean. -/
def Json.plainText? : Json → Option String
  | .string text => some text
  | .number value => some value.text
  | .bool true => some "true"
  | .bool false => some "false"
  | _ => none

def Pattern.occursIn (pattern : Pattern) (value : Option Json) : Bool :=
  (value.bind Json.plainText?).any pattern.isMatch

theorem Pattern.occursIn_eq (pattern : Pattern) (value : Option Json) :
    pattern.occursIn value = Standard.hasMatch pattern value := by
  cases value with
  | none =>
      rfl
  | some value =>
      cases value with
      | bool flag => cases flag <;> rfl
      | _ => rfl

/-- A field of a revision: its value now, and before if there was a document before. -/
structure FieldHistory where
  now : Option Json
  before : Option (Option Json)

def Revision.field (revision : Revision) (key : String) : FieldHistory where
  now := revision.current.field? key
  before := revision.previous.map (Json.field? key)

/-! ## Requirements -/

/-- Work that needs something of an operand fails exactly where that is missing. -/
theorem result_require {α : Type} {found : Option α} {value : α → Predicate}
    {test : Predicate} (operator expected : String)
    (h : ∀ part, found = some part → value part = test) :
    (value <$> Standard.require operator expected found).result =
      verdict (if found.isSome then none else some (.operand operator expected)) test := by
  cases hfound : found with
  | none =>
      rfl
  | some part =>
      exact congrArg Except.ok (h part hfound)

namespace FieldWord

/-! ## Faults -/

def takesEach : FieldWord → Bool
  | anyOf | like | leftFrom | changedTo => true
  | _ => false

/-- The shape of an operand, in the words of an error. -/
def expected : FieldWord → String
  | present | nil | changed => "a boolean"
  | like => "a string or list of strings"
  | regex => "a regex or a \"/source/flags\" string"
  | greater | notLess | less | notGreater => "a number, string or boolean"
  | modulo => "a [divisor, remainder] list of numbers"
  | differs | anyOf | leftFrom | changedTo => "a value"

def isValue : Term → Bool
  | .regex _ => false
  | _ => true

def isPair : Term → Bool
  | .list [divisor, remainder] => divisor.binary64?.isSome && remainder.binary64?.isSome
  | _ => false

/-- Whether an operand is of the shape that a word takes. -/
def takes (word : FieldWord) (part : Term) : Bool :=
  match word with
  | differs => true
  | present | nil | changed => part.bool?.isSome
  | anyOf | leftFrom | changedTo => isValue part
  | like => part.string?.isSome
  | regex =>
      match part with
      | .regex _ => true
      | _ => part.string?.isSome
  | greater | notLess | less | notGreater => part.scalar?.isSome
  | modulo => isPair part

def partFault? (word : FieldWord) (part : Term) : Option QueryError :=
  if word.takes part then
    match word, part with
    | regex, .scalar (.string literal) =>
        match Pattern.ofLiteral literal with
        | .ok _ => none
        | .error error => some error
    | _, _ => none
  else some (.operand (Vocabulary.name word).text word.expected)

/-- What is wrong with an operand; of a list taken item by item, with its first item
that is wrong. -/
def fault? (word : FieldWord) (operand : Term) : Option QueryError :=
  if word.takesEach then operand.elements.findSome? word.partFault?
  else word.partFault? operand

/-! ## Meanings -/

/-- Whether a value stands to an operand in one of some orders. -/
def stands (orders : List Ordering) (value : Option Json) (operand : Term) : Bool :=
  match value, operand with
  | some value, .scalar bound =>
      match value.compare? bound with
      | some order => order ∈ orders
      | none => false
  | _, _ => false

def equals (value : Option Json) (operand : Term) : Bool :=
  Json.sameField value (some operand.toJson)

/-- Whether a value is a string with that of an operand in it, without regard to case. -/
def contains (value : Option Json) (operand : Term) : Bool :=
  match value, operand with
  | some (.string text), .scalar (.string needle) =>
      Text.contains (Text.lowercase needle.toList) (Text.lowercase text.toList)
  | _, _ => false

/-- Whether a value was there, if there was one, and is not there any more. -/
def left (field : FieldHistory) (operand : Term) : Bool :=
  match field.before with
  | none => false
  | some before => equals before operand && !equals field.now operand

/-- Whether a value is there and was not there before. -/
def reached (field : FieldHistory) (operand : Term) : Bool :=
  equals field.now operand &&
    match field.before with
    | none => true
    | some before => !equals before operand

/-- What a word says of a field. -/
def holds (word : FieldWord) (operand : Term) (field : FieldHistory) : Bool :=
  match word with
  | differs =>
      match operand with
      | .regex pattern => !pattern.occursIn field.now
      | _ => !equals field.now operand
  | present => operand.bool? == some field.now.isSome
  | nil =>
      operand.bool? ==
        some (match field.now with
          | none | some .null => true
          | some _ => false)
  | anyOf => operand.elements.any (equals field.now)
  | like => operand.elements.all (contains field.now)
  | regex =>
      match operand with
      | .regex pattern => pattern.occursIn field.now
      | .scalar (.string literal) =>
          match Pattern.ofLiteral literal with
          | .ok pattern => pattern.occursIn field.now
          | .error _ => false
      | _ => false
  | greater => stands [.gt] field.now operand
  | notLess => stands [.gt, .eq] field.now operand
  | less => stands [.lt] field.now operand
  | notGreater => stands [.lt, .eq] field.now operand
  | modulo =>
      match field.now, operand with
      | some (.number value), .list [.scalar (.number divisor), .scalar (.number remainder)] =>
          value.toBinary64.isRemainder divisor.toBinary64 remainder.toBinary64
      | _, _ => false
  | changed =>
      operand.bool? ==
        some (match field.before with
          | none => true
          | some before => !Json.sameField field.now before)
  | leftFrom => operand.elements.any (left field)
  | changedTo => operand.elements.any (reached field)

def test (word : FieldWord) (key : String) (operand : Term) : Predicate :=
  Predicate.ofRevision fun revision => word.holds operand (revision.field key)

/-! ## Operators -/

/-! ### Values -/

theorem hasText_eq (needle : String) (value : Option Json) :
    Standard.hasText (Text.lowercase needle.toList) value =
      contains value (.scalar (.string needle)) := by
  cases value with
  | none =>
      rfl
  | some value =>
      cases value <;> rfl

theorem inOrder_eq {accepts : Ordering → Bool} {orders : List Ordering}
    (haccepts : ∀ order, accepts order = decide (order ∈ orders)) (bound : Json)
    (value : Option Json) :
    Standard.inOrder accepts bound value = stands orders value (.scalar bound) := by
  cases value with
  | none =>
      rfl
  | some value =>
      simp only [Standard.inOrder, stands]
      cases value.compare? bound with
      | none =>
          rfl
      | some order =>
          exact haccepts order

theorem isSome_divisorPair? (operand : Term) :
    (Standard.divisorPair? operand).isSome = isPair operand := by
  cases operand with
  | list items =>
      match items with
      | [divisor, remainder] =>
          simp only [Standard.divisorPair?, isPair]
          cases divisor.binary64? <;> cases remainder.binary64? <;> rfl
      | [] | [_] | _ :: _ :: _ :: _ =>
          rfl
  | scalar | regex | map =>
      rfl

theorem eq_number_of_binary64? {term : Term} {value : Binary64}
    (h : term.binary64? = some value) :
    ∃ number : Number, term = .scalar (.number number) ∧ value = number.toBinary64 := by
  cases term with
  | scalar json =>
      cases json with
      | number number =>
          cases h
          exact ⟨number, rfl, rfl⟩
      | _ => cases h
  | regex | map | list =>
      cases h

theorem eq_list_of_divisorPair? {operand : Term} {pair : Binary64 × Binary64}
    (h : Standard.divisorPair? operand = some pair) :
    ∃ divisor remainder : Number,
      operand = .list [.scalar (.number divisor), .scalar (.number remainder)] ∧
        pair = (divisor.toBinary64, remainder.toBinary64) := by
  unfold Standard.divisorPair? at h
  split at h
  · obtain ⟨first, hfirst, h⟩ := Option.bind_eq_some_iff.mp h
    obtain ⟨second, hsecond, h⟩ := Option.bind_eq_some_iff.mp h
    obtain ⟨divisor, rfl, rfl⟩ := eq_number_of_binary64? hfirst
    obtain ⟨remainder, rfl, rfl⟩ := eq_number_of_binary64? hsecond
    cases h
    exact ⟨divisor, remainder, rfl, rfl⟩
  · cases h

theorem leaves_eq (divisor remainder : Number) (field : FieldHistory) :
    Standard.leaves divisor.toBinary64 remainder.toBinary64 field.now =
      modulo.holds (.list [.scalar (.number divisor), .scalar (.number remainder)]) field := by
  obtain ⟨now, before⟩ := field
  cases now with
  | none =>
      rfl
  | some value =>
      cases value <;> rfl

/-! ### Words -/

section

variable (key : String) (operand : Term)

theorem result_each {connective : Connective} {word : FieldWord}
    {make : Term → Outcome Predicate} (value : Term → Predicate)
    (heach : word.takesEach = true)
    (hmake : ∀ part, (make part).result = verdict (word.partFault? part) (value part))
    (hvalue : Test.combine connective (operand.elements.map value) = word.test key operand) :
    (Test.combineEach connective make operand.parts).result =
      verdict (word.fault? operand) (word.test key operand) := by
  rw [result_combineEach_verdict fun part _ => hmake part, operand.toList_parts, hvalue,
    fault?, if_pos heach]

theorem result_differs :
    (Standard.differs key operand).result =
      verdict (differs.fault? operand) (differs.test key operand) := by
  cases operand with
  | regex pattern =>
      refine congrArg Except.ok (Predicate.ext fun revision => ?_)
      exact congrArg not (pattern.occursIn_eq _).symm
  | scalar | map | list =>
      rfl

theorem result_present :
    (Standard.present key operand).result =
      verdict (present.fault? operand) (present.test key operand) := by
  refine result_require "$exists" "a boolean" fun flag hflag => ?_
  refine Predicate.ext fun revision => ?_
  simp [test, holds, hflag, Revision.field, BEq.comm]

theorem result_nil :
    (Standard.nil key operand).result =
      verdict (nil.fault? operand) (nil.test key operand) := by
  refine result_require "$nil" "a boolean" fun flag hflag => ?_
  refine Predicate.ext fun revision => ?_
  simp only [test, holds, hflag, Predicate.passes_ofRevision, Option.some_beq_some]
  exact BEq.comm

theorem result_anyOf :
    (Standard.anyOf key operand).result =
      verdict (anyOf.fault? operand) (anyOf.test key operand) := by
  refine result_each key operand (fun part => Standard.equalTo key part.toJson) rfl
    (fun part => ?_) ?_
  · cases part <;> rfl
  · refine Predicate.ext fun revision => ?_
    rw [Predicate.passes_combine_or, List.any_map]
    rfl

theorem result_like :
    (Standard.like key operand).result =
      verdict (like.fault? operand) (like.test key operand) := by
  refine result_each key operand
    (fun part => Predicate.ofRevision fun revision =>
      contains (revision.field key).now part) rfl (fun part => ?_) ?_
  · refine result_require "$like" "a string or list of strings" fun text htext => ?_
    cases part with
    | scalar value =>
        cases value <;> cases htext
        exact Predicate.ext fun revision => hasText_eq text _
    | regex | map | list =>
        cases htext
  · refine Predicate.ext fun revision => ?_
    rw [Predicate.passes_combine_and, List.all_map]
    rfl

theorem result_regex :
    (Standard.regex key operand).result =
      verdict (regex.fault? operand) (regex.test key operand) := by
  cases operand with
  | regex pattern =>
      refine congrArg Except.ok (Predicate.ext fun revision => ?_)
      exact (pattern.occursIn_eq _).symm
  | scalar value =>
      cases value with
      | string literal =>
          simp only [Standard.regex, Standard.patternOf, fault?, takesEach, partFault?, takes,
            test, holds]
          cases Pattern.ofLiteral literal with
          | error error =>
              rfl
          | ok pattern =>
              refine congrArg Except.ok (Predicate.ext fun revision => ?_)
              exact (pattern.occursIn_eq _).symm
      | _ => rfl
  | map | list =>
      rfl

theorem result_ordered {word : FieldWord} {operator : String} {accepts : Ordering → Bool}
    {orders : List Ordering}
    (hfault : word.fault? operand =
      if operand.scalar?.isSome then none
      else some (.operand operator "a number, string or boolean"))
    (hholds : ∀ field, word.holds operand field = stands orders field.now operand)
    (haccepts : ∀ order, accepts order = decide (order ∈ orders)) :
    (Standard.ordered operator accepts key operand).result =
      verdict (word.fault? operand) (word.test key operand) := by
  rw [hfault]
  refine result_require operator "a number, string or boolean" fun bound hbound => ?_
  refine Predicate.ext fun revision => ?_
  cases operand with
  | scalar value =>
      cases hbound
      rw [test, Predicate.passes_ofRevision, hholds]
      exact inOrder_eq haccepts bound _
  | regex | map | list =>
      cases hbound

theorem result_modulo :
    (Standard.modulo key operand).result =
      verdict (modulo.fault? operand) (modulo.test key operand) := by
  have hfault : modulo.fault? operand =
      if (Standard.divisorPair? operand).isSome then none
      else some (.operand "$mod" "a [divisor, remainder] list of numbers") := by
    rw [isSome_divisorPair?]
    rfl
  rw [hfault]
  show ((fun pair : Binary64 × Binary64 => Predicate.ofDocument fun document =>
    Standard.leaves pair.1 pair.2 (document.field? key)) <$> Standard.require _ _ _).result = _
  refine result_require "$mod" "a [divisor, remainder] list of numbers" fun pair hpair => ?_
  refine Predicate.ext fun revision => ?_
  obtain ⟨divisor, remainder, rfl, rfl⟩ := eq_list_of_divisorPair? hpair
  exact leaves_eq divisor remainder (revision.field key)

theorem result_changed :
    (Standard.changed key operand).result =
      verdict (changed.fault? operand) (changed.test key operand) := by
  refine result_require "$changed" "a boolean" fun flag hflag => ?_
  refine Predicate.ext fun revision => ?_
  obtain ⟨current, previous⟩ := revision
  simp only [test, holds, hflag, Predicate.passes_ofRevision, Option.some_beq_some]
  cases previous <;> exact BEq.comm

theorem result_leftFrom :
    (Standard.leftFrom key operand).result =
      verdict (leftFrom.fault? operand) (leftFrom.test key operand) := by
  refine result_each key operand
    (fun part => Predicate.ofRevision (Standard.hasLeft key part.toJson)) rfl
    (fun part => ?_) ?_
  · cases part <;> rfl
  · refine Predicate.ext fun revision => ?_
    obtain ⟨current, previous⟩ := revision
    rw [Predicate.passes_combine_or, List.any_map]
    cases previous <;> rfl

theorem result_changedTo :
    (Standard.changedTo key operand).result =
      verdict (changedTo.fault? operand) (changedTo.test key operand) := by
  refine result_each key operand
    (fun part => Predicate.ofRevision (Standard.hasReached key part.toJson)) rfl
    (fun part => ?_) ?_
  · cases part <;> rfl
  · refine Predicate.ext fun revision => ?_
    obtain ⟨current, previous⟩ := revision
    rw [Predicate.passes_combine_or, List.any_map]
    cases previous <;> rfl

/-- A word's operator fails with the fault of its operand, and otherwise tests what the
word says of the field. -/
theorem result_operator (word : FieldWord) :
    (word.operator key operand).result =
      verdict (word.fault? operand) (word.test key operand) := by
  cases word with
  | differs => exact result_differs key operand
  | present => exact result_present key operand
  | nil => exact result_nil key operand
  | anyOf => exact result_anyOf key operand
  | like => exact result_like key operand
  | regex => exact result_regex key operand
  | greater => exact result_ordered key operand rfl (fun _ => rfl) (by decide)
  | notLess => exact result_ordered key operand rfl (fun _ => rfl) (by decide)
  | less => exact result_ordered key operand rfl (fun _ => rfl) (by decide)
  | notGreater => exact result_ordered key operand rfl (fun _ => rfl) (by decide)
  | modulo => exact result_modulo key operand
  | changed => exact result_changed key operand
  | leftFrom => exact result_leftFrom key operand
  | changedTo => exact result_changedTo key operand

end

end FieldWord

/-! ## Signed words -/

namespace Signed

def holds (signed : Signed FieldWord) (operand : Term) (field : FieldHistory) : Bool :=
  signed.outcome (signed.word.holds operand field)

def test (signed : Signed FieldWord) (key : String) (operand : Term) : Predicate :=
  Predicate.ofRevision fun revision => signed.holds operand (revision.field key)

/-- A negated operator fails as the plain one does and otherwise says the opposite. -/
theorem result_negated {ω : Type} (signed : Signed ω) {plain : Outcome Predicate}
    {fault : Option QueryError} {value : Revision → Bool}
    (h : plain.result = verdict fault (Predicate.ofRevision value)) :
    (if signed.negated then Test.negate <$> plain else plain).result =
      verdict fault (Predicate.ofRevision fun revision => signed.outcome (value revision)) := by
  unfold outcome
  cases signed.negated with
  | false =>
      rw [if_neg Bool.false_ne_true, h]
      simp
  | true =>
      rw [if_pos rfl, Reported.result_map, h, map_verdict]
      refine congrArg _ (Predicate.ext fun revision => ?_)
      simp

theorem result_fieldOperator (signed : Signed FieldWord) (key : String) (operand : Term) :
    (signed.fieldOperator key operand).result =
      verdict (signed.word.fault? operand) (signed.test key operand) := by
  have hword := signed.result_negated (signed.word.result_operator key operand)
  obtain ⟨word, negated⟩ := signed
  cases negated <;> exact hword

end Signed

end DocQuery
