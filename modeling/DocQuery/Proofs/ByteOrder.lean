import Mathlib.Tactic.SplitIfs

/-!
# Texts in order

Texts are ordered by their characters, and that is the order of their bytes: a greater
character has greater bytes, whatever follows.  Items sorted by texts that differ are in
strictly ascending order, so they can be arranged in one way only.
-/

namespace DocQuery

namespace Text

/-! ## Bytes -/

def bytes (text : String) : List UInt8 :=
  text.toByteArray.data.toList

theorem bytes_eq_flatMap (text : String) :
    bytes text = text.toList.flatMap String.utf8EncodeChar := by
  rw [bytes, ← String.utf8Encode_toList, List.utf8Encode, List.data_toByteArray]

theorem cons_ofNat_lt_cons_ofNat {m n : Nat} (hm : m < 256) (hn : n < 256) (xs ys : List UInt8) :
    UInt8.ofNat m :: xs < UInt8.ofNat n :: ys ↔ m < n ∨ m = n ∧ xs < ys := by
  rw [List.cons_lt_cons_iff, UInt8.lt_iff_toNat_lt, ← UInt8.toNat_inj,
    UInt8.toNat_ofNat_of_lt' hm, UInt8.toNat_ofNat_of_lt' hn]

theorem toNat_lt_of_valid (c : Char) : c.val.toNat < 0x110000 := by
  obtain hlow | ⟨-, hhigh⟩ := c.valid
  · exact Nat.lt_trans hlow (by decide)
  · exact hhigh

theorem toNat_eq_digits (c : Char) :
    c.val.toNat = 262144 * (c.val.toNat / 262144 % 8) + 4096 * (c.val.toNat / 4096 % 64) +
      64 * (c.val.toNat / 64 % 64) + c.val.toNat % 64 := by
  have hbound := toNat_lt_of_valid c
  omega

/-- Of two characters the greater one has the greater bytes. -/
theorem utf8EncodeChar_append_lt {c d : Char} (h : c < d) (xs ys : List UInt8) :
    String.utf8EncodeChar c ++ xs < String.utf8EncodeChar d ++ ys := by
  have hlt : c.val.toNat < d.val.toNat := h
  have hbound := toNat_lt_of_valid d
  have hc := toNat_eq_digits c
  have hd := toNat_eq_digits d
  unfold String.utf8EncodeChar
  dsimp only
  -- More bytes start with a greater one; of equally many the first that differ decide.
  split_ifs
  all_goals first
    | omega
    | simp (disch := omega) only [List.cons_append, List.nil_append, cons_ofNat_lt_cons_ofNat]
      omega

theorem flatMap_utf8EncodeChar_lt {cs ds : List Char} (h : cs < ds) :
    cs.flatMap String.utf8EncodeChar < ds.flatMap String.utf8EncodeChar := by
  induction h with
  | @nil d ds =>
      rw [List.flatMap_nil, List.flatMap_cons]
      obtain ⟨byte, rest, hbytes⟩ := List.exists_cons_of_ne_nil (@String.utf8EncodeChar_ne_nil d)
      rw [hbytes]
      exact List.nil_lt_cons byte _
  | @rel c cs d ds hlt =>
      rw [List.flatMap_cons, List.flatMap_cons]
      exact utf8EncodeChar_append_lt hlt _ _
  | @cons c cs ds _ ih =>
      rw [List.flatMap_cons, List.flatMap_cons]
      exact List.append_left_lt ih

/-- Texts are ordered as their bytes are. -/
theorem bytes_lt_bytes {a b : String} (h : compare a b = .lt) : bytes a < bytes b := by
  have hchars : a.toList < b.toList := String.lt_iff.mp (compareOfLessAndEq_eq_lt.mp h)
  rw [bytes_eq_flatMap, bytes_eq_flatMap]
  exact flatMap_utf8EncodeChar_lt hchars

/-! ## Sorting by texts -/

variable {α : Type}

/-- Of items sorted by texts that differ, each stands before those with greater texts. -/
theorem ascending_mergeSort (key : α → String) {items : List α}
    (distinct : (items.map key).Nodup) :
    (items.mergeSort fun a b => (compare (key a) (key b)).isLE).Pairwise
      fun a b => compare (key a) (key b) = .lt := by
  have hsorted : (items.mergeSort fun a b => (compare (key a) (key b)).isLE).Pairwise
      fun a b => (compare (key a) (key b)).isLE = true :=
    List.pairwise_mergeSort (fun _ _ _ => Std.TransCmp.isLE_trans)
      (fun a b => by
        have hswap : compare (key b) (key a) = (compare (key a) (key b)).swap :=
          Std.OrientedOrd.eq_swap
        rw [hswap]
        cases compare (key a) (key b) <;> rfl) items
  have hnodup := ((List.mergeSort_perm items fun a b =>
    (compare (key a) (key b)).isLE).map key).nodup_iff.mpr distinct
  refine (hsorted.and (List.pairwise_map.mp hnodup)).imp ?_
  rintro a b ⟨hle, hne⟩
  cases horder : compare (key a) (key b) with
  | lt => rfl
  | eq => exact absurd (Std.LawfulEqCmp.eq_of_compare horder) hne
  | gt => rw [horder] at hle; cases hle

/-- Items whose texts differ can be sorted in one way only. -/
theorem mergeSort_eq_of_perm (key : α → String) {items other : List α}
    (distinct : (items.map key).Nodup) (perm : other.Perm items) :
    (other.mergeSort fun a b => (compare (key a) (key b)).isLE) =
      items.mergeSort fun a b => (compare (key a) (key b)).isLE := by
  refine List.Perm.eq_of_pairwise ?_
    (ascending_mergeSort key ((perm.map key).nodup_iff.mpr distinct))
    (ascending_mergeSort key distinct)
    ((List.mergeSort_perm other _).trans (perm.trans (List.mergeSort_perm items _).symm))
  intro a b _ _ hab hba
  rw [Std.OrientedOrd.eq_swap, hba] at hab
  cases hab

end Text

end DocQuery
