import Mathlib.Data.String.Basic
import Mathlib.Order.Compare
import Mathlib.Tactic.SplitIfs

/-!
Texts in the order of their bytes.

UTF-8 keeps the order of characters, so texts stand in one order by characters and by bytes.
-/

namespace ApiLens

-- The bytes of a text in UTF-8.
def textBytes (s : String) : List UInt8 := s.toUTF8.data.toList

def compareBytes (a b : String) : Ordering := compare (textBytes a) (textBytes b)

theorem textBytes_eq_flatMap : textBytes s = s.toList.flatMap String.utf8EncodeChar := by
  have h : s.toByteArray = s.toList.utf8Encode := by
    rw [← String.toByteArray_ofList, String.ofList_toList]
  rw [textBytes, String.toUTF8_eq_toByteArray, h, List.utf8Encode, List.toList_data_toByteArray]

section Bytes

variable {m n : Nat} (hm : m < 256) (hn : n < 256)
include hm hn

theorem ofNat_lt_ofNat_iff : UInt8.ofNat m < UInt8.ofNat n ↔ m < n := by
  rw [UInt8.lt_iff_toNat_lt, UInt8.toNat_ofNat_of_lt' hm, UInt8.toNat_ofNat_of_lt' hn]

theorem ofNat_eq_ofNat_iff : UInt8.ofNat m = UInt8.ofNat n ↔ m = n := by
  rw [← UInt8.toNat_inj, UInt8.toNat_ofNat_of_lt' hm, UInt8.toNat_ofNat_of_lt' hn]

end Bytes

-- Two characters already differ where their bytes first do: a longer code starts with a larger
-- byte, and in codes of one length the bytes are the digits of the character.
theorem utf8EncodeChar_append_lt (h : c < d) (xs ys : List UInt8) :
    String.utf8EncodeChar c ++ xs < String.utf8EncodeChar d ++ ys := by
  have hlt : c.val.toNat < d.val.toNat := h
  have hmax : d.val.toNat < 1114112 := by
    have hvalid := d.valid
    simp only [UInt32.isValidChar, Nat.isValidChar] at hvalid
    omega
  have hdigits (v : Nat) : v / 4096 = v / 64 / 64 ∧ v / 262144 = v / 64 / 64 / 64 := by omega
  simp only [String.utf8EncodeChar]
  split_ifs
  all_goals
    simp (disch := omega) only [List.cons_append, List.nil_append, List.cons_lt_cons_iff,
      ofNat_lt_ofNat_iff, ofNat_eq_ofNat_iff, hdigits]
    omega

theorem flatMap_utf8EncodeChar_lt {cs ds : List Char} (h : cs < ds) :
    cs.flatMap String.utf8EncodeChar < ds.flatMap String.utf8EncodeChar := by
  induction h
  case nil d ds =>
    have ⟨byte, bytes, he⟩ := List.exists_cons_of_ne_nil <| String.utf8EncodeChar_ne_nil (c := d)
    simp [he]
  case rel h => exact utf8EncodeChar_append_lt h _ _
  case cons ih => exact List.append_left_lt ih

theorem textBytes_lt (h : a < b) : textBytes a < textBytes b := by
  rw [textBytes_eq_flatMap, textBytes_eq_flatMap]
  exact flatMap_utf8EncodeChar_lt <| String.lt_iff_toList_lt.mp h

theorem compare_eq_lt_iff {xs ys : List UInt8} : compare xs ys = .lt ↔ xs < ys := by
  induction xs generalizing ys <;> cases ys
  case cons.cons x xs ih y ys =>
    have hbyte : compare x y = .lt ↔ x < y := Std.LawfulLTCmp.eq_lt_iff_lt
    simp [List.compare_cons_cons, Ordering.then_eq_lt, List.cons_lt_cons_iff, hbyte, ih]
  all_goals simp

theorem compareBytes_eq (a b : String) : compareBytes a b = compare a b := by
  rcases lt_trichotomy a b with h | h | h
  case inl =>
    rw [compare_lt_iff_lt.mpr h]
    exact compare_eq_lt_iff.mpr <| textBytes_lt h
  case inr.inl => simp [h, compareBytes]
  case inr.inr =>
    rw [compare_gt_iff_gt.mpr h, compareBytes, Std.OrientedCmp.gt_iff_lt]
    exact compare_eq_lt_iff.mpr <| textBytes_lt h

end ApiLens
