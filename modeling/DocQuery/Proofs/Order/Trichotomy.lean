import DocQuery.Proofs.Order.Number
import DocQuery.Proofs.SingleField

/-!
# Less, equal and greater

Order and equality judge two numbers by different rules, so it takes a proof that of the
queries for a lesser, an equal and a greater value just one passes.  The rules differ on two
different integers with one nearest double that are not both signed words: there none of the
three passes, but the queries for a value that is not less and one that is not greater do.
-/

namespace DocQuery

/-! ## Values -/

def Kind.isOrdered : Kind → Bool
  | boolean | number | string => true
  | null | array | object | regex => false

namespace Json

/-- Whether two values are different integers that order does not tell apart. -/
def merged : Json → Json → Bool
  | number a, number b => a.merged b
  | _, _ => false

theorem sameValue_of_merged {a b : Json} (h : merged a b = true) : sameValue a b = false := by
  cases a <;> cases b <;> first | exact Number.sameValue_of_merged h | cases h

/-- Two values of one ordered kind have an order, and tie if they are equal or merged. -/
theorem exists_order {a b : Json} (hkind : a.kind = b.kind)
    (hordered : b.kind.isOrdered = true) :
    ∃ order, a.compare? b = some order ∧
      (order = .eq ↔ sameValue a b = true ∨ merged a b = true) := by
  cases b with
  | null | array | object => cases hordered
  | bool y =>
      cases a <;> cases hkind
      rename_i x
      refine ⟨_, rfl, ?_⟩
      cases x <;> cases y <;> decide
  | number y =>
      cases a <;> cases hkind
      exact ⟨_, rfl, Number.compare_eq_eq_iff⟩
  | string y =>
      cases a <;> cases hkind
      refine ⟨_, rfl, ?_⟩
      rw [Std.compare_eq_iff_eq]
      simp [sameValue, sameBy, merged]

end Json

/-! ## Queries -/

def comparison (key operator : String) (bound : Json) : Query where
  fields := [(key, .map [(operator, .scalar bound)])]

def equalTo (key : String) (value : Json) : Query where
  fields := [(key, .scalar value)]

/-- Of the queries for a lesser, an equal and a greater value just one passes a value of the
same ordered kind, and those for a value not greater and one not less pass when one of two of
these does.  Two integers that are merged pass only the last two queries. -/
theorem orders_exclude_each_other (config : Config) {key : String}
    (plain : isOperatorKey key = false) {bound : Json}
    (ordered : bound.kind.isOrdered = true) :
    ∃ less equal greater notGreater notLess : Predicate,
      (({ config } : Compiler).compile (comparison key "$lt" bound)).result = .ok less ∧
      (({ config } : Compiler).compile (equalTo key bound)).result = .ok equal ∧
      (({ config } : Compiler).compile (comparison key "$gt" bound)).result = .ok greater ∧
      (({ config } : Compiler).compile (comparison key "$lte" bound)).result = .ok notGreater ∧
      (({ config } : Compiler).compile (comparison key "$gte" bound)).result = .ok notLess ∧
      ∀ document previous value, document.field? key = some value → value.kind = bound.kind →
        let passes (test : Predicate) : Bool := test.passes { current := document, previous }
        ([less, equal, greater].map passes).count true = (if value.merged bound then 0 else 1) ∧
          passes notGreater = (passes less || passes equal || value.merged bound) ∧
          passes notLess = (passes greater || passes equal || value.merged bound) := by
  refine ⟨_, _, _, _, _,
    Compiler.result_compile_word config plain .less rfl,
    Compiler.result_compile_equality config plain bound,
    Compiler.result_compile_word config plain .greater rfl,
    Compiler.result_compile_word config plain .notGreater rfl,
    Compiler.result_compile_word config plain .notLess rfl, ?_⟩
  intro document previous value hfield hkind
  obtain ⟨order, horder, heq⟩ := Json.exists_order hkind ordered
  have hstands (orders : List Ordering) :
      FieldWord.stands orders (document.field? key) (.scalar bound) = decide (order ∈ orders) := by
    rw [hfield, FieldWord.stands, horder]
  have hequals : Json.sameField (document.field? key) (some bound) = value.sameValue bound := by
    rw [hfield, Json.sameField]
  simp only [FieldWord.test, Predicate.passes_ofRevision, FieldWord.holds, Revision.field,
    hstands, hequals, List.map_cons, List.map_nil]
  -- A tie is an equality or a merger, and never both.
  have hmerged := @Json.sameValue_of_merged value bound
  cases hvalue : value.sameValue bound <;> cases hbound : value.merged bound <;>
    cases order <;> simp_all

def firstUnsigned : Number :=
  .int 9223372036854775808 (by decide) (by decide)

/-- The integer after it, which has the same nearest double. -/
def nextUnsigned : Number :=
  .int 9223372036854775809 (by decide) (by decide)

theorem unsigned_words_in_no_order :
    ¬ ∀ (bound value : Json) (less equal greater : Predicate),
      bound.kind.isOrdered = true → value.kind = bound.kind →
      (({} : Compiler).compile (comparison "a" "$lt" bound)).result = .ok less →
      (({} : Compiler).compile (equalTo "a" bound)).result = .ok equal →
      (({} : Compiler).compile (comparison "a" "$gt" bound)).result = .ok greater →
      ([less, equal, greater].map fun test =>
        test.passes { current := .object [("a", value)] }).count true = 1 := by
  intro hone
  have hcount := hone (.number firstUnsigned) (.number nextUnsigned) _ _ _ rfl rfl
    (Compiler.result_compile_word {} rfl .less rfl)
    (Compiler.result_compile_equality {} rfl (.number firstUnsigned))
    (Compiler.result_compile_word {} rfl .greater rfl)
  revert hcount
  decide +kernel

theorem orders_exclude_each_other_unsigned :
    isOperatorKey "a" = false ∧ (Json.number firstUnsigned).kind.isOrdered = true ∧
      ∃ less equal greater notLess : Predicate,
        (({} : Compiler).compile (comparison "a" "$gt" (.number firstUnsigned))).result =
          .ok greater ∧
        ([less, equal, greater].map fun test =>
          test.passes { current := .object [("a", .number Json.halfway)] }).count true = 1 ∧
        ([less, equal, greater].map fun test =>
          test.passes { current := .object [("a", .number nextUnsigned)] }).count true = 0 ∧
        notLess.passes { current := .object [("a", .number nextUnsigned)] } = true := by
  obtain ⟨less, equal, greater, _, notLess, _, _, hgreater, _, _, horders⟩ :=
    @orders_exclude_each_other {} "a" rfl (.number firstUnsigned) rfl
  have hbelow := horders (.object [("a", .number Json.halfway)]) none (.number Json.halfway)
    rfl rfl
  have hnext := horders (.object [("a", .number nextUnsigned)]) none (.number nextUnsigned)
    rfl rfl
  have hdistinct : (Json.number Json.halfway).merged (.number firstUnsigned) = false := by
    decide +kernel
  have hmerged : (Json.number nextUnsigned).merged (.number firstUnsigned) = true := by
    decide +kernel
  rw [hdistinct] at hbelow
  rw [hmerged] at hnext
  refine ⟨rfl, rfl, less, equal, greater, notLess, hgreater, hbelow.1, hnext.1, ?_⟩
  simpa using hnext.2.2

end DocQuery
