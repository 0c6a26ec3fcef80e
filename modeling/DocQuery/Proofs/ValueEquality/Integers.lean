import DocQuery.Proofs.ValueEquality

/-!
# Equality of integral values

What keeps equality by value from being transitive is a double between two integers.  Two
values that are equal to one without fractions are equal, so among such values equality is an
equivalence.
-/

namespace DocQuery

/-! ## Numbers -/

namespace Number

def isInteger : Number → Bool
  | int _ _ _ => true
  | float _ => false

/-- Numbers with the value of one integer have the same value. -/
theorem sameValue_trans_of_isInteger {l m n : Number} (hm : m.isInteger = true)
    (hlm : sameValue l m = true) (hmn : sameValue m n = true) : sameValue l n = true := by
  rw [sameValue_eq, Bool.and_eq_true] at *
  obtain ⟨hnear, hagree⟩ := hlm
  obtain ⟨hnear', hagree'⟩ := hmn
  refine ⟨sameNearest_trans hnear hnear', ?_⟩
  cases m with
  | float => cases hm
  | int =>
      cases l with
      | float => rfl
      | int =>
          cases n with
          | float => rfl
          | int =>
              rw [integersAgree, beq_iff_eq] at *
              exact hagree.trans hagree'

end Number

/-! ## Values -/

namespace Json

/-- Whether every number of a value is an integer and no key comes twice in an object, at any
depth. -/
inductive Integral : Json → Prop
  | null : Integral null
  | bool (value : Bool) : Integral (bool value)
  | number {value : Number} (integer : value.isInteger = true) : Integral (number value)
  | string (text : String) : Integral (string text)
  | array {items : List Json} (integral : ∀ item ∈ items, Integral item) :
      Integral (array items)
  | object {members : List (String × Json)} (distinct : Entries.Distinct members)
      (integral : ∀ pair ∈ members, Integral pair.2) : Integral (object members)

namespace Integral

variable {a b c : Json}

theorem proper (h : a.Integral) : a.Proper := by
  induction h with
  | null => exact .null
  | bool value => exact .bool value
  | number => exact .number _
  | string text => exact .string text
  | array _ ih => exact .array ih
  | object distinct _ ih => exact .object distinct ih

theorem field? (h : a.Integral) {key : String} {value : Json}
    (hvalue : a.field? key = some value) : value.Integral := by
  cases h with
  | object _ integral => exact integral _ (Entries.mem_of_find? hvalue)
  | null | bool | number | string | array => cases hvalue

/-- A value is compared with an integral one number by number, each with an integer. -/
theorem sameBy_and_isInteger {eq : Number → Number → Bool} (hb : b.Integral) (ha : a.Proper)
    (h : sameBy eq a b = true) : sameBy (fun m n => eq m n && n.isInteger) a b = true := by
  induction ha generalizing b with
  | null => exact sameBy_null_iff.mpr (sameBy_null_iff.mp h)
  | bool => exact sameBy_bool_iff.mpr (sameBy_bool_iff.mp h)
  | string => exact sameBy_string_iff.mpr (sameBy_string_iff.mp h)
  | number =>
      obtain ⟨n, rfl, hn⟩ := sameBy_number_iff.mp h
      cases hb with
      | number integer =>
          exact sameBy_number_iff.mpr ⟨n, rfl, Bool.and_eq_true_iff.mpr ⟨hn, integer⟩⟩
  | array _ ih =>
      obtain ⟨others, rfl, hlength, hitems⟩ := sameBy_array_iff.mp h
      cases hb with
      | array integral =>
          refine sameBy_array_iff.mpr ⟨others, rfl, hlength, fun i hi hi' => ?_⟩
          exact ih _ (List.getElem_mem hi) (integral _ (List.getElem_mem hi')) (hitems i hi hi')
  | object _ _ ih =>
      obtain ⟨others, rfl, hlength, hmembers⟩ := sameBy_object_iff.mp h
      cases hb with
      | object _ integral =>
          refine sameBy_object_iff.mpr ⟨others, rfl, hlength, fun pair hpair => ?_⟩
          obtain ⟨value, hvalue, hsame⟩ := hmembers pair hpair
          exact ⟨value, hvalue, ih pair hpair (integral _ (Entries.mem_of_find? hvalue)) hsame⟩

theorem sameValue_symm (ha : a.Integral) (hb : b.Integral) (h : sameValue a b = true) :
    sameValue b a = true := by
  refine sameBy_symm (fun m n hmn => ?_) ha.proper hb.proper h
  rw [Number.sameValue_comm]
  exact hmn

theorem sameValue_trans (hb : b.Integral) (ha : a.Proper) (hab : sameValue a b = true)
    (hbc : sameValue b c = true) : sameValue a c = true := by
  have hnumbers (l m n : Number) (hlm : (l.sameValue m && m.isInteger) = true)
      (hmn : m.sameValue n = true) : l.sameValue n = true := by
    obtain ⟨hsame, hm⟩ := Bool.and_eq_true_iff.mp hlm
    exact Number.sameValue_trans_of_isInteger hm hsame hmn
  exact sameBy_trans hnumbers ha (hb.sameBy_and_isInteger ha hab) hbc

end Integral

end Json

end DocQuery
