import Mathlib.Data.List.Basic
import Mathlib.Data.String.Basic

/-!
# The order of texts and of their bytes

Listings are sorted by texts, which are compared character by character.  A store compares
the bytes of their encodings.  It comes to the same order, for of two characters the
smaller one has the smaller bytes.
-/

namespace AssetRegistry.Text

/-- The bytes of a text. -/
def bytes (s : String) : List UInt8 :=
  s.toUTF8.data.toList

/-! ### One character -/

/-- A byte that holds a part of a code point beside its mark. -/
theorem toNat_ofNat_mod_add {n size mark : Nat} (positive : 0 < size) (fits : size + mark ≤ 256) :
    (UInt8.ofNat (n % size + mark)).toNat = n % size + mark := by
  have below := Nat.mod_lt n positive
  rw [UInt8.toNat_ofNat', Nat.mod_eq_of_lt (by omega)]

/-- A byte that holds a small code point. -/
theorem toNat_ofNat_of_le {n : Nat} (small : n ≤ 127) : (UInt8.ofNat n).toNat = n := by
  rw [UInt8.toNat_ofNat', Nat.mod_eq_of_lt (by omega)]

/-- The smaller one of two numbers is smaller at the first place to base 64 at which they
    differ. -/
theorem places_lt {v w : Nat} (lt : v < w) :
    v / 262144 < w / 262144 ∨ v / 262144 = w / 262144 ∧
      (v / 4096 % 64 < w / 4096 % 64 ∨ v / 4096 % 64 = w / 4096 % 64 ∧
        (v / 64 % 64 < w / 64 % 64 ∨ v / 64 % 64 = w / 64 % 64 ∧ v % 64 < w % 64)) := by
  have le (c : Nat) : v / c < w / c ∨ v / c = w / c :=
    Nat.lt_or_eq_of_le (Nat.div_le_div_right (Nat.le_of_lt lt))
  rcases le 262144 with first | first
  · exact .inl first
  rcases le 4096 with second | second
  · exact .inr ⟨first, .inl (by omega)⟩
  rcases le 64 with third | third
  · exact .inr ⟨first, .inr ⟨by omega, .inl (by omega)⟩⟩
  · exact .inr ⟨first, .inr ⟨by omega, .inr ⟨by omega, by omega⟩⟩⟩

/-- The bytes of the smaller one of two characters are smaller, whatever follows on them. -/
theorem utf8EncodeChar_append_lt {c d : Char} (lt : c < d) (xs ys : List UInt8) :
    String.utf8EncodeChar c ++ xs < String.utf8EncodeChar d ++ ys := by
  have values : c.val.toNat < d.val.toNat := UInt32.lt_iff_toNat_lt.1 (Char.lt_def.1 lt)
  have bound : d.val.toNat < 0x110000 := by
    have valid := d.valid
    simp only [UInt32.isValidChar, Nat.isValidChar] at valid
    omega
  unfold String.utf8EncodeChar
  generalize c.val.toNat = v at *
  generalize d.val.toNat = w at *
  dsimp only
  by_cases long : v ≤ 65535
  · -- The first byte tells how many there are, and three places are left to compare at most.
    split_ifs <;>
      simp (disch := first | assumption | decide) only [List.cons_append, List.nil_append,
        List.cons_lt_cons_iff, UInt8.lt_iff_toNat_lt, ← UInt8.toNat_inj, toNat_ofNat_of_le,
        toNat_ofNat_mod_add]
    all_goals omega
  · -- Both have four bytes, which hold their places to base 64.
    have places := places_lt values
    have firstOf {n : Nat} (le : n ≤ w) : n / 262144 % 8 = n / 262144 :=
      Nat.mod_eq_of_lt (by omega)
    rw [if_neg (by omega), if_neg (by omega), if_neg long, if_neg (by omega), if_neg (by omega),
      if_neg (by omega)]
    simp (disch := decide) only [List.cons_append, List.nil_append, List.cons_lt_cons_iff,
      UInt8.lt_iff_toNat_lt, ← UInt8.toNat_inj, toNat_ofNat_mod_add, Nat.add_lt_add_iff_right,
      Nat.add_right_cancel_iff]
    rw [firstOf (Nat.le_of_lt values), firstOf (Nat.le_refl w)]
    tauto

/-! ### Texts -/

/-- The bytes of a text are those of its characters in a row. -/
theorem bytes_eq (s : String) : bytes s = s.toList.flatMap String.utf8EncodeChar := by
  show s.toByteArray.data.toList = _
  rw [← String.utf8Encode_toList, List.utf8Encode]
  simp

/-- Every character has a byte. -/
theorem utf8EncodeChar_ne_nil (c : Char) : String.utf8EncodeChar c ≠ [] := by
  unfold String.utf8EncodeChar
  dsimp only
  split_ifs <;> simp

/-- Texts are ordered by characters as they are by bytes. -/
theorem flatMap_utf8EncodeChar_lt {cs ds : List Char} (lt : cs < ds) :
    cs.flatMap String.utf8EncodeChar < ds.flatMap String.utf8EncodeChar := by
  -- Texts are compared where they differ for the first time, or where one of them ends.
  induction lt with
  | nil =>
    rename_i d ds
    rw [List.flatMap_nil, List.flatMap_cons]
    obtain ⟨b, bs, h⟩ := List.exists_cons_of_ne_nil (utf8EncodeChar_ne_nil d)
    rw [h]
    exact List.nil_lt_cons b _
  | cons _ ih =>
    rw [List.flatMap_cons, List.flatMap_cons]
    exact List.append_left_lt ih
  | rel lt =>
    rw [List.flatMap_cons, List.flatMap_cons]
    exact utf8EncodeChar_append_lt lt _ _

/-- The smaller one of two texts has the smaller bytes. -/
theorem bytes_lt_of_lt {s t : String} (lt : s < t) : bytes s < bytes t := by
  rw [bytes_eq, bytes_eq]
  exact flatMap_utf8EncodeChar_lt lt

/-- What is sorted by distinct texts is in the order of the bytes of the texts. -/
theorem pairwise_mergeSort_bytes {items : List α} {text : α → String}
    (distinct : (items.map text).Nodup) :
    (items.mergeSort fun a b => text a ≤ text b).Pairwise fun a b =>
      bytes (text a) < bytes (text b) := by
  have sorted : (items.mergeSort fun a b => text a ≤ text b).Pairwise fun a b =>
      decide (text a ≤ text b) = true := by
    apply List.pairwise_mergeSort
    · intro a b c first second
      simp only [decide_eq_true_eq] at first second ⊢
      exact first.trans second
    · intro a b
      simpa using le_total (text a) (text b)
  -- Sorted texts do not decrease, and distinct ones are not equal.
  have apart : (items.mergeSort fun a b => text a ≤ text b).Pairwise fun a b => text a ≠ text b :=
    List.pairwise_map.1 (((List.mergeSort_perm _ _).map text).nodup_iff.2 distinct)
  refine (sorted.and apart).imp fun {a b} ⟨le, ne⟩ => ?_
  exact bytes_lt_of_lt (lt_of_le_of_ne (of_decide_eq_true le) ne)

end AssetRegistry.Text
