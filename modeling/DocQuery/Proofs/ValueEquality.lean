import DocQuery.Json
import DocQuery.Proofs.Rounding
import Mathlib.Data.List.Perm.Subperm

/-!
# Equality by value

Numbers have the same value when their nearest doubles do and they are not two different
integers.  The first part is an equivalence, and so is equality by it at any depth.  The
second is not: two different integers can both have the value of one double.
-/

namespace DocQuery

-- Powers are those of the core library, whatever algebra is imported beside them.
attribute [local instance (high)] instPowNat

/-! ## Numbers -/

namespace Number

/-- Whether two numbers are not two different integers. -/
def integersAgree : Number → Number → Bool
  | .int m _ _, .int n _ _ => m == n
  | _, _ => true

def sameNearest (a b : Number) : Bool :=
  a.toBinary64.sameValue b.toBinary64

theorem sameNearest_refl (a : Number) : sameNearest a a = true :=
  beq_self_eq_true _

theorem sameNearest_comm (a b : Number) : sameNearest a b = sameNearest b a :=
  Bool.beq_comm

theorem sameNearest_trans {a b c : Number} (hab : sameNearest a b = true)
    (hbc : sameNearest b c = true) : sameNearest a c = true := by
  simp only [sameNearest, Binary64.sameValue, beq_iff_eq] at *
  exact hab.trans hbc

/-- No double is nearest to both a negative and a positive integer. -/
theorem sameNearest_eq_false {m n : Int} (lower upper lower' upper') (hneg : m < 0)
    (hpos : 0 < n) : sameNearest (.int m lower upper) (.int n lower' upper') = false := by
  have hleft := Binary64.units_ofInt_nonpos (n := m) (by omega) hneg
  have hright := Binary64.units_ofInt_pos (n := n) (by omega) hpos
  simp only [sameNearest, toBinary64, Binary64.sameValue, beq_eq_false_iff_ne]
  omega

/-- Integers have the same value only when they are the same, whichever rule compares
them. -/
theorem sameValue_int {m n : Int} (lower upper lower' upper') :
    sameValue (.int m lower upper) (.int n lower' upper') = (m == n) := by
  unfold sameValue
  split
  · rename_i x y hx hy
    obtain ⟨_, h⟩ := Option.ite_none_right_eq_some.mp hx
    obtain ⟨_, h'⟩ := Option.ite_none_right_eq_some.mp hy
    rw [Option.some.inj h, Option.some.inj h']
  · rename_i hsigned
    have hwords : ¬ (m < 2 ^ (63 : Nat) ∧ n < 2 ^ (63 : Nat)) :=
      fun h => hsigned m n (if_pos h.1) (if_pos h.2)
    split
    · rename_i x y hx hy
      obtain ⟨_, h⟩ := Option.ite_none_right_eq_some.mp hx
      obtain ⟨_, h'⟩ := Option.ite_none_right_eq_some.mp hy
      rw [Option.some.inj h, Option.some.inj h']
    · rename_i hunsigned
      have hsigns : ¬ (0 ≤ m ∧ 0 ≤ n) := fun h => hunsigned m n (if_pos h.1) (if_pos h.2)
      have hnearest : sameNearest (.int m lower upper) (.int n lower' upper') = false := by
        obtain ⟨hneg, hpos⟩ | ⟨hneg, hpos⟩ : m < 0 ∧ 0 < n ∨ n < 0 ∧ 0 < m := by omega
        · exact sameNearest_eq_false _ _ _ _ hneg hpos
        · rw [sameNearest_comm]
          exact sameNearest_eq_false _ _ _ _ hneg hpos
      rw [beq_false_of_ne (by omega : m ≠ n)]
      exact hnearest

theorem integersAgree_refl (a : Number) : integersAgree a a = true := by
  cases a <;> simp [integersAgree]

theorem integersAgree_comm (a b : Number) : integersAgree a b = integersAgree b a := by
  cases a <;> cases b <;> first | exact Bool.beq_comm | rfl

/-- Two numbers have the same value when their nearest doubles do, unless they are two
different integers. -/
theorem sameValue_eq (a b : Number) :
    sameValue a b = (sameNearest a b && integersAgree a b) := by
  cases a with
  | int m lower upper =>
      cases b with
      | int n lower' upper' =>
          rw [sameValue_int, integersAgree]
          by_cases heq : m = n
          · subst heq
            rw [sameNearest_refl, Bool.true_and]
          · rw [beq_false_of_ne heq, Bool.and_false]
      | float y =>
          simp [sameValue, signed?, unsigned?, integersAgree, sameNearest]
  | float x =>
      simp [sameValue, signed?, unsigned?, integersAgree, sameNearest]

theorem sameValue_refl (a : Number) : sameValue a a = true := by
  rw [sameValue_eq, sameNearest_refl, integersAgree_refl, Bool.and_true]

theorem sameValue_comm (a b : Number) : sameValue a b = sameValue b a := by
  rw [sameValue_eq, sameValue_eq, sameNearest_comm, integersAgree_comm]

end Number

/-! ## Values -/

namespace Json

/-- Whether no key comes twice in an object, at any depth. -/
inductive Proper : Json → Prop
  | null : Proper null
  | bool (value : Bool) : Proper (bool value)
  | number (value : Number) : Proper (number value)
  | string (text : String) : Proper (string text)
  | array {items : List Json} (proper : ∀ item ∈ items, Proper item) : Proper (array items)
  | object {members : List (String × Json)} (distinct : Entries.Distinct members)
      (proper : ∀ pair ∈ members, Proper pair.2) : Proper (object members)

@[simp] theorem proper_null : null.Proper :=
  .null

@[simp] theorem proper_bool (value : Bool) : (bool value).Proper :=
  .bool value

@[simp] theorem proper_number (value : Number) : (number value).Proper :=
  .number value

@[simp] theorem proper_string (text : String) : (string text).Proper :=
  .string text

@[simp] theorem proper_array_iff {items : List Json} :
    (array items).Proper ↔ ∀ item ∈ items, item.Proper :=
  ⟨fun | .array proper => proper, .array⟩

@[simp] theorem proper_object_iff {members : List (String × Json)} :
    (object members).Proper ↔ Entries.Distinct members ∧ ∀ pair ∈ members, pair.2.Proper :=
  ⟨fun | .object distinct proper => ⟨distinct, proper⟩, fun ⟨distinct, proper⟩ =>
    .object distinct proper⟩

section SameBy

variable {eq : Number → Number → Bool} {a b c : Json}

/-! ### What equals a constructor -/

section

attribute [local simp] sameBy sameItemsBy sameMembersBy

theorem sameItemsBy_iff {as bs : List Json} :
    sameItemsBy eq as bs = true ↔ as.length = bs.length ∧
      ∀ i (h : i < as.length) (h' : i < bs.length), sameBy eq as[i] bs[i] = true := by
  induction as generalizing bs with
  | nil =>
      cases bs with
      | nil => simp
      | cons b bs => simp
  | cons a as ih =>
      cases bs with
      | nil => simp
      | cons b bs =>
          rw [sameItemsBy, Bool.and_eq_true, ih]
          constructor
          · rintro ⟨hfirst, hlength, hrest⟩
            refine ⟨congrArg (· + 1) hlength, fun i h h' => ?_⟩
            cases i with
            | zero => exact hfirst
            | succ i => exact hrest i (Nat.lt_of_succ_lt_succ h) (Nat.lt_of_succ_lt_succ h')
          · rintro ⟨hlength, hitems⟩
            refine ⟨hitems 0 (Nat.zero_lt_succ _) (Nat.zero_lt_succ _),
              Nat.succ.inj hlength, fun i h h' => ?_⟩
            exact hitems (i + 1) (Nat.succ_lt_succ h) (Nat.succ_lt_succ h')

theorem sameMembersBy_iff {as bs : List (String × Json)} :
    sameMembersBy eq as bs = true ↔
      ∀ pair ∈ as, ∃ b, Entries.find? pair.1 bs = some b ∧ sameBy eq pair.2 b = true := by
  induction as with
  | nil =>
      simp
  | cons pair rest ih =>
      obtain ⟨key, a⟩ := pair
      rw [sameMembersBy, Bool.and_eq_true, ih, List.forall_mem_cons]
      refine and_congr_left fun _ => ?_
      cases Entries.find? key bs <;> simp

theorem sameBy_null_iff : sameBy eq null b = true ↔ null = b := by
  cases b <;> simp

theorem sameBy_bool_iff {value : Bool} : sameBy eq (bool value) b = true ↔ bool value = b := by
  cases b <;> simp

theorem sameBy_number_iff {m : Number} :
    sameBy eq (number m) b = true ↔ ∃ n, number n = b ∧ eq m n = true := by
  cases b <;> simp

theorem sameBy_string_iff {text : String} :
    sameBy eq (string text) b = true ↔ string text = b := by
  cases b <;> simp

theorem sameBy_array_iff {items : List Json} :
    sameBy eq (array items) b = true ↔ ∃ others, array others = b ∧
      items.length = others.length ∧ ∀ i (h : i < items.length) (h' : i < others.length),
        sameBy eq items[i] others[i] = true := by
  cases b with
  | array others =>
      rw [sameBy, sameItemsBy_iff]
      constructor
      · intro h
        exact ⟨others, rfl, h⟩
      · rintro ⟨_, heq, h⟩
        cases heq
        exact h
  | _ => simp

theorem sameBy_object_iff {members : List (String × Json)} :
    sameBy eq (object members) b = true ↔ ∃ others, object others = b ∧
      members.length = others.length ∧ ∀ pair ∈ members,
        ∃ value, Entries.find? pair.1 others = some value ∧ sameBy eq pair.2 value = true := by
  cases b with
  | object others =>
      rw [sameBy, Bool.and_eq_true, beq_iff_eq, sameMembersBy_iff]
      constructor
      · intro h
        exact ⟨others, rfl, h⟩
      · rintro ⟨_, heq, h⟩
        cases heq
        exact h
  | _ => simp

end

/-! ### Laws -/

theorem sameBy_refl (hrefl : ∀ n, eq n n = true) (hproper : a.Proper) :
    sameBy eq a a = true := by
  induction hproper with
  | null => exact sameBy_null_iff.mpr rfl
  | bool => exact sameBy_bool_iff.mpr rfl
  | number n => exact sameBy_number_iff.mpr ⟨n, rfl, hrefl n⟩
  | string => exact sameBy_string_iff.mpr rfl
  | array _ ih =>
      exact sameBy_array_iff.mpr ⟨_, rfl, rfl, fun i h _ => ih _ (List.getElem_mem h)⟩
  | object distinct _ ih =>
      refine sameBy_object_iff.mpr ⟨_, rfl, rfl, fun pair hmem => ?_⟩
      exact ⟨pair.2, (distinct.mem_iff _ _).mp hmem, ih pair hmem⟩

/-- Distinct keys that all occur among as many others are all of them. -/
theorem mem_keys_of_partners {members others : List (String × Json)}
    (distinct : Entries.Distinct members) (hlength : members.length = others.length)
    (hpartner : ∀ pair ∈ members, ∃ value, Entries.find? pair.1 others = some value)
    {key : String} (hkey : key ∈ Entries.keys others) : key ∈ Entries.keys members := by
  have hsub : Entries.keys members ⊆ Entries.keys others := by
    intro key hmem
    obtain ⟨pair, hpair, rfl⟩ := List.mem_map.mp hmem
    obtain ⟨value, hvalue⟩ := hpartner pair hpair
    exact List.mem_map.mpr ⟨_, Entries.mem_of_find? hvalue, rfl⟩
  have hlen : (Entries.keys others).length ≤ (Entries.keys members).length := by
    simp [Entries.keys, hlength]
  exact ((distinct.subperm hsub).perm_of_length_le hlen).mem_iff.mpr hkey

theorem sameBy_symm (hsymm : ∀ m n, eq m n = true → eq n m = true) (hproper : a.Proper)
    (hproper' : b.Proper) (hsame : sameBy eq a b = true) : sameBy eq b a = true := by
  induction hproper generalizing b with
  | null =>
      obtain rfl := sameBy_null_iff.mp hsame
      exact hsame
  | bool =>
      obtain rfl := sameBy_bool_iff.mp hsame
      exact hsame
  | number =>
      obtain ⟨_, rfl, h⟩ := sameBy_number_iff.mp hsame
      exact sameBy_number_iff.mpr ⟨_, rfl, hsymm _ _ h⟩
  | string =>
      obtain rfl := sameBy_string_iff.mp hsame
      exact hsame
  | array _ ih =>
      obtain ⟨others, rfl, hlength, hitems⟩ := sameBy_array_iff.mp hsame
      obtain - | - | - | - | proper' | - := hproper'
      refine sameBy_array_iff.mpr ⟨_, rfl, hlength.symm, fun i h h' => ?_⟩
      exact ih _ (List.getElem_mem h') (proper' _ (List.getElem_mem h)) (hitems i h' h)
  | object distinct _ ih =>
      obtain ⟨others, rfl, hlength, hmembers⟩ := sameBy_object_iff.mp hsame
      obtain - | - | - | - | - | ⟨distinct', proper'⟩ := hproper'
      refine sameBy_object_iff.mpr ⟨_, rfl, hlength.symm, fun pair hmem => ?_⟩
      have hkey := mem_keys_of_partners distinct hlength
        (fun pair hmem => (hmembers pair hmem).imp fun _ h => h.1)
        (List.mem_map.mpr ⟨pair, hmem, rfl⟩)
      obtain ⟨own, hown, heq⟩ := List.mem_map.mp hkey
      obtain ⟨value, hvalue, hsame⟩ := hmembers own hown
      -- Keys are distinct, so the partner of the member with this key is the pair's value.
      rw [heq, (distinct'.mem_iff pair.1 pair.2).mp hmem] at hvalue
      cases hvalue
      refine ⟨own.2, ?_, ih own hown (proper' pair hmem) hsame⟩
      rw [← heq]
      exact (distinct.mem_iff _ _).mp hown

theorem sameBy_trans {eq' eq'' : Number → Number → Bool}
    (htrans : ∀ l m n, eq l m = true → eq' m n = true → eq'' l n = true)
    (hproper : a.Proper) (hab : sameBy eq a b = true) (hbc : sameBy eq' b c = true) :
    sameBy eq'' a c = true := by
  induction hproper generalizing b c with
  | null =>
      obtain rfl := sameBy_null_iff.mp hab
      obtain rfl := sameBy_null_iff.mp hbc
      exact sameBy_null_iff.mpr rfl
  | bool =>
      obtain rfl := sameBy_bool_iff.mp hab
      obtain rfl := sameBy_bool_iff.mp hbc
      exact sameBy_bool_iff.mpr rfl
  | number =>
      obtain ⟨_, rfl, h⟩ := sameBy_number_iff.mp hab
      obtain ⟨_, rfl, h'⟩ := sameBy_number_iff.mp hbc
      exact sameBy_number_iff.mpr ⟨_, rfl, htrans _ _ _ h h'⟩
  | string =>
      obtain rfl := sameBy_string_iff.mp hab
      obtain rfl := sameBy_string_iff.mp hbc
      exact sameBy_string_iff.mpr rfl
  | array _ ih =>
      obtain ⟨others, rfl, hlength, hitems⟩ := sameBy_array_iff.mp hab
      obtain ⟨others', rfl, hlength', hitems'⟩ := sameBy_array_iff.mp hbc
      refine sameBy_array_iff.mpr ⟨_, rfl, hlength.trans hlength', fun i h h' => ?_⟩
      have hmiddle : i < others.length := hlength ▸ h
      exact ih _ (List.getElem_mem h) (hitems i h hmiddle) (hitems' i hmiddle h')
  | object _ _ ih =>
      obtain ⟨others, rfl, hlength, hmembers⟩ := sameBy_object_iff.mp hab
      obtain ⟨others', rfl, hlength', hmembers'⟩ := sameBy_object_iff.mp hbc
      refine sameBy_object_iff.mpr ⟨_, rfl, hlength.trans hlength', fun pair hmem => ?_⟩
      obtain ⟨value, hvalue, hsame⟩ := hmembers pair hmem
      obtain ⟨value', hvalue', hsame'⟩ := hmembers' _ (Entries.mem_of_find? hvalue)
      exact ⟨value', hvalue', ih pair hmem hsame hsame'⟩

/-- Two tests of numbers hold together at any depth when each of them does. -/
theorem sameBy_and (eq eq' : Number → Number → Bool) (hproper : a.Proper) :
    sameBy (fun m n => eq m n && eq' m n) a b = true ↔
      sameBy eq a b = true ∧ sameBy eq' a b = true := by
  induction hproper generalizing b with
  | null => simp [sameBy_null_iff]
  | bool => simp [sameBy_bool_iff]
  | number => cases b <;> simp [sameBy]
  | string => simp [sameBy_string_iff]
  | array _ ih =>
      simp only [sameBy_array_iff]
      constructor
      · rintro ⟨others, rfl, hlength, hitems⟩
        have hboth i h h' := (ih _ (List.getElem_mem h)).mp (hitems i h h')
        exact ⟨⟨others, rfl, hlength, fun i h h' => (hboth i h h').1⟩,
          ⟨others, rfl, hlength, fun i h h' => (hboth i h h').2⟩⟩
      · rintro ⟨⟨others, rfl, hlength, hitems⟩, ⟨_, heq, _, hitems'⟩⟩
        cases heq
        exact ⟨others, rfl, hlength, fun i h h' =>
          (ih _ (List.getElem_mem h)).mpr ⟨hitems i h h', hitems' i h h'⟩⟩
  | object _ _ ih =>
      simp only [sameBy_object_iff]
      constructor
      · rintro ⟨others, rfl, hlength, hmembers⟩
        refine ⟨⟨others, rfl, hlength, fun pair hmem => ?_⟩,
          ⟨others, rfl, hlength, fun pair hmem => ?_⟩⟩ <;>
          obtain ⟨value, hvalue, hsame⟩ := hmembers pair hmem
        · exact ⟨value, hvalue, ((ih pair hmem).mp hsame).1⟩
        · exact ⟨value, hvalue, ((ih pair hmem).mp hsame).2⟩
      · rintro ⟨⟨others, rfl, hlength, hmembers⟩, ⟨_, heq, _, hmembers'⟩⟩
        cases heq
        refine ⟨others, rfl, hlength, fun pair hmem => ?_⟩
        obtain ⟨value, hvalue, hsame⟩ := hmembers pair hmem
        obtain ⟨value', hvalue', hsame'⟩ := hmembers' pair hmem
        rw [hvalue] at hvalue'
        cases hvalue'
        exact ⟨value, hvalue, (ih pair hmem).mpr ⟨hsame, hsame'⟩⟩

end SameBy

/-! ## Equality by value -/

theorem sameValue_iff {a b : Json} (hproper : a.Proper) :
    sameValue a b = true ↔
      sameBy Number.sameNearest a b = true ∧ sameBy Number.integersAgree a b = true := by
  have hnumbers : Number.sameValue =
      fun m n => Number.sameNearest m n && Number.integersAgree m n := by
    funext m n
    exact Number.sameValue_eq m n
  rw [sameValue, hnumbers]
  exact sameBy_and _ _ hproper

/-- Equality by value is reflexive and symmetric.  Two values equal to a third are equal when
no integer of the one is another in the other.  An integer is taken for the nearest double, a
half to even. -/
theorem sameValue_equivalence {a b c : Json} (ha : a.Proper) (hb : b.Proper) :
    sameValue a a = true ∧ sameValue a b = sameValue b a ∧
      (sameValue a b = true → sameValue b c = true →
        sameValue a c = sameBy Number.integersAgree a c) ∧
      ∀ n lower upper, Binary64.NearestEven Binary64.units Binary64.rank
        (n * (2 ^ Binary64.unitExponent : Nat)) (Number.int n lower upper).toBinary64 := by
  have hsymm : ∀ m n : Number, m.sameValue n = true → n.sameValue m = true := by
    intro m n h
    rw [Number.sameValue_comm]
    exact h
  refine ⟨sameBy_refl Number.sameValue_refl ha, ?_, ?_,
    fun n _ _ => Binary64.nearestEven_ofInt n (by omega)⟩
  · rw [Bool.eq_iff_iff]
    exact ⟨sameBy_symm hsymm ha hb, sameBy_symm hsymm hb ha⟩
  · intro hab hbc
    obtain ⟨hnear, _⟩ := (sameValue_iff ha).mp hab
    obtain ⟨hnear', _⟩ := (sameValue_iff hb).mp hbc
    have htrans (l m n : Number) := Number.sameNearest_trans (a := l) (b := m) (c := n)
    have hclose := sameBy_trans htrans ha hnear hnear'
    rw [Bool.eq_iff_iff, sameValue_iff ha]
    exact and_iff_right hclose

/-- The integer `2 ^ 53 + 1`, halfway between two doubles and taken for the lower of them. -/
def halfway : Number :=
  .int 9007199254740993 (by decide) (by decide)

/-- The integer `2 ^ 53`. -/
def evenInteger : Number :=
  .int 9007199254740992 (by decide) (by decide)

/-- The double `2 ^ 53`. -/
def evenDouble : Number :=
  .float { negative := false, rank := 1076 * 2 ^ (52 : Nat) }

theorem sameValue_not_transitive :
    ¬ ∀ a b c : Json, a.Proper → b.Proper → c.Proper →
      sameValue a b = true → sameValue b c = true → sameValue a c = true := by
  intro htrans
  have hsame := htrans (number halfway) (number evenDouble) (number evenInteger)
    (.number _) (.number _) (.number _) (by decide +kernel) (by decide +kernel)
  have hdiffers : sameValue (number halfway) (number evenInteger) = false := by decide +kernel
  rw [hdiffers] at hsame
  cases hsame

/-- A number below an object and an array. -/
def nested (n : Number) : Json :=
  object [("values", array [number n, null]), ("seen", bool true)]

/-- The same with the members the other way round. -/
def nestedBehind (n : Number) : Json :=
  object [("seen", bool true), ("values", array [number n, null])]

theorem proper_values (n : Number) : (array [number n, null]).Proper := by
  refine .array (List.forall_mem_cons.mpr ⟨.number n, List.forall_mem_cons.mpr ⟨.null, ?_⟩⟩)
  exact List.forall_mem_nil _

theorem proper_nested (n : Number) : (nested n).Proper := by
  refine .object (by simp [Entries.Distinct, Entries.keys]) ?_
  exact List.forall_mem_cons.mpr ⟨proper_values n, List.forall_mem_singleton.mpr (.bool true)⟩

theorem proper_nestedBehind (n : Number) : (nestedBehind n).Proper := by
  refine .object (by simp [Entries.Distinct, Entries.keys]) ?_
  exact List.forall_mem_cons.mpr ⟨.bool true, List.forall_mem_singleton.mpr (proper_values n)⟩

theorem sameValue_equivalence_nested :
    (nested halfway).Proper ∧ (nestedBehind evenDouble).Proper ∧
      sameValue (nested halfway) (nestedBehind evenDouble) = true ∧
      sameValue (nestedBehind evenDouble) (nestedBehind halfway) = true ∧
      sameValue (nested halfway) (nestedBehind halfway) = true := by
  have hab : sameValue (nested halfway) (nestedBehind evenDouble) = true := by decide +kernel
  have hbc : sameValue (nestedBehind evenDouble) (nestedBehind halfway) = true := by
    decide +kernel
  obtain ⟨_, _, htrans, _⟩ :=
    sameValue_equivalence (proper_nested halfway) (proper_nestedBehind evenDouble)
  have hagree : sameBy Number.integersAgree (nested halfway) (nestedBehind halfway) = true := by
    decide +kernel
  exact ⟨proper_nested halfway, proper_nestedBehind evenDouble, hab, hbc,
    (htrans hab hbc).trans hagree⟩

end Json

end DocQuery
