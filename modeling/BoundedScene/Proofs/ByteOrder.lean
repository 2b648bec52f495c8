import Mathlib.Data.List.Basic

/-!
Contract: the order of texts is the order of their bytes.

Owns:
- `Text.bytes`, a text in UTF-8;
- the bytes of characters with different code points.

Main statement: `Text.bytes_lt_bytes_iff`.

Texts are compared by code points.  The bytes of a greater code point are greater at the first
place where they differ, so the comparison byte by byte comes to the same.

Does not own: what is sorted by this order.
-/

namespace BoundedScene.Text

/-- The bytes of a text in UTF-8. -/
def bytes (text : String) : List UInt8 :=
  text.toByteArray.data.toList

theorem bytes_eq (text : String) : bytes text = text.toList.flatMap String.utf8EncodeChar := by
  unfold bytes
  rw [← String.utf8Encode_toList]
  simp [List.utf8Encode]

/-- Of two numbers the smaller one has the smaller leading part, or the same one and the smaller
last digit. -/
theorem digits_lt {low high : Nat} (smaller : low < high) (base : Nat) :
    low / base < high / base ∨ low / base = high / base ∧ low % base < high % base := by
  by_cases before : low / base < high / base
  · exact .inl before
  · have same : low / base = high / base :=
      Nat.le_antisymm (Nat.div_le_div_right (Nat.le_of_lt smaller)) (Nat.not_lt.mp before)
    have lowParts := Nat.div_add_mod low base
    have highParts := Nat.div_add_mod high base
    rw [same] at lowParts
    omega

/-- A character with a smaller code point has smaller bytes, whatever follows. -/
theorem utf8EncodeChar_append_lt {left right : Char} (before : left < right)
    (leftRest rightRest : List UInt8) :
    String.utf8EncodeChar left ++ leftRest < String.utf8EncodeChar right ++ rightRest := by
  have smaller : left.val.toNat < right.val.toNat := before
  have top : right.val.toNat < 0x110000 := by
    have valid : right.val.toNat.isValidChar := right.valid
    unfold Nat.isValidChar at valid
    omega
  unfold String.utf8EncodeChar
  generalize left.val.toNat = low at smaller
  generalize right.val.toNat = high at smaller top
  -- The bytes after the first are the digits to the base 64.
  have last := digits_lt smaller 64
  have middle : low / 64 < high / 64 → _ := fun smaller => digits_lt smaller 64
  have first : low / 64 / 64 < high / 64 / 64 → _ := fun smaller => digits_lt smaller 64
  simp only [Nat.div_div_eq_div_mul, Nat.reduceMul] at middle first
  dsimp only
  -- One case for each pair of lengths; a shorter form has a smaller first byte.
  repeat' split
  all_goals
    simp only [List.cons_append, List.nil_append, List.cons_lt_cons_iff, UInt8.lt_iff_toNat_lt,
      ← UInt8.toNat_inj, UInt8.toNat_ofNat', Nat.reducePow]
    simp (disch := omega) only [Nat.mod_eq_of_lt]
    omega

theorem flatMap_utf8EncodeChar_lt {left right : List Char} (before : left < right) :
    left.flatMap String.utf8EncodeChar < right.flatMap String.utf8EncodeChar := by
  induction before with
  | @nil head tail =>
      rw [List.flatMap_nil, List.flatMap_cons]
      cases encoded : String.utf8EncodeChar head with
      | nil => exact absurd encoded String.utf8EncodeChar_ne_nil
      | cons => exact List.nil_lt_cons _ _
  | rel smaller =>
      rw [List.flatMap_cons, List.flatMap_cons]
      exact utf8EncodeChar_append_lt smaller _ _
  | cons _ inductionHypothesis =>
      rw [List.flatMap_cons, List.flatMap_cons]
      exact List.append_left_lt inductionHypothesis

theorem bytes_lt_bytes {left right : String} (before : left < right) :
    bytes left < bytes right := by
  rw [bytes_eq, bytes_eq]
  exact flatMap_utf8EncodeChar_lt before

/-- Texts are ordered as their bytes are. -/
theorem bytes_lt_bytes_iff {left right : String} : bytes left < bytes right ↔ left < right := by
  constructor
  · intro before
    by_cases after : right < left
    · exact absurd before (List.lt_asymm (bytes_lt_bytes after))
    · by_contra notBefore
      obtain rfl : left = right :=
        String.le_antisymm (String.not_lt.mp after) (String.not_lt.mp notBefore)
      exact List.lt_irrefl _ before
  · exact bytes_lt_bytes

example : "\uffff" < "😀" ∧ bytes "\uffff" < bytes "😀" := by decide

end BoundedScene.Text
