import DocQuery.Proofs.Equalities
import DocQuery.Proofs.Negation

/-!
# Queries of one field

A query with one field under a plain key compiles to the test of that field alone: to what a
word, plain or negated, says of its operand, or to an equality.
-/

namespace DocQuery

namespace Compiler

theorem result_compile_signed (config : Config) {key : String}
    (plain : isOperatorKey key = false) (signed : Signed FieldWord) {operand : Term}
    (sound : signed.word.fault? operand = none) :
    (({ config } : Compiler).compile
        { fields := [(key, .map [(signed.text, operand)])] }).result =
      .ok (signed.test key operand) := by
  have hfield : Catalog.standard.clauses.operator? key = none := by
    rw [Catalog.standard_clause, ofText?_of_plainKey plain, Option.map_none]
  have hname := Catalog.standard_field_text signed
  have hquery := result_compileFields_field { config } hfield hname operand
  have hword := signed.result_fieldOperator key operand
  rw [sound, verdict_none] at hword
  rw [result_compile, hquery]
  exact hword

theorem result_compile_word (config : Config) {key : String}
    (plain : isOperatorKey key = false) (word : FieldWord) {operand : Term}
    (sound : word.fault? operand = none) :
    (({ config } : Compiler).compile
        { fields := [(key, .map [(Signed.text ⟨word, false⟩, operand)])] }).result =
      .ok (word.test key operand) := by
  have htest : Signed.test ⟨word, false⟩ key operand = word.test key operand :=
    Predicate.ext fun revision => Bool.false_bne _
  rw [← htest]
  exact result_compile_signed config plain ⟨word, false⟩ sound

theorem result_compile_equality (config : Config) {key : String}
    (plain : isOperatorKey key = false) (value : Json) :
    (({ config } : Compiler).compile { fields := [(key, .scalar value)] }).result =
      .ok (Predicate.ofRevision fun revision =>
        Json.sameField (revision.field key).now (some value)) := by
  have hequality : isEquality key (.scalar value) = true := by
    rw [isEquality, plain, Bool.not_false]
  obtain ⟨hform, _, _⟩ := form_of_isEquality hequality
  rw [result_compile_standard, findings_cons, fieldFindings, hform]
  refine congrArg Except.ok (Predicate.ext fun revision => ?_)
  rw [Predicate.passes_ofRevision, means, means, fieldHolds, hform, Bool.and_true]
  rfl

end Compiler

end DocQuery
