import ApiLens.Text.Utf8
import Mathlib.Tactic.SplitIfs

/-!
Bytes that are a text are shown as it.
-/

namespace ApiLens

namespace Utf8

theorem lossyFrom_cons (h : step begun b = (shown, next)) :
    lossyFrom begun (b :: rest) = shown ++ lossyFrom next rest := by
  rw [lossyFrom, h]

-- What each first byte of a character begins.
section First

theorem step_one : ∀ n < 128, step none (UInt8.ofNat n) = ([Char.ofNat n], none) := by
  decide

theorem step_two : ∀ n < 32, 2 ≤ n →
    step none (UInt8.ofNat (n + 192)) = ([], some { bits := n, wanted := 1 }) := by
  decide

theorem step_three : ∀ n < 16, step none (UInt8.ofNat (n + 224)) =
    ([], some { bits := n, wanted := 2, low := if n = 0 then 0xa0 else 0x80
                high := if n = 13 then 0x9f else 0xbf }) := by
  decide

theorem step_four : ∀ n < 5, step none (UInt8.ofNat (n + 240)) =
    ([], some { bits := n, wanted := 3, low := if n = 0 then 0x90 else 0x80
                high := if n = 4 then 0x8f else 0xbf }) := by
  decide

end First

-- Each further byte has six more bits.
section Next

variable {low high : UInt8} {rest : List UInt8}

-- The byte with these bits lies in between.
def Within (low high : UInt8) (n : Nat) : Prop :=
  n < 64 ∧ low.toNat ≤ n + 128 ∧ n + 128 ≤ high.toNat

theorem within (h : n < 64) : Within 0x80 0xbf n :=
  ⟨h, by simp, by simp; omega⟩

theorem Within.step_some (h : Within low high n) :
    step (some ⟨bits, wanted, low, high⟩) (UInt8.ofNat (n + 128)) =
      if wanted = 1 then ([Char.ofNat (64 * bits + n)], none)
      else ([], some { bits := 64 * bits + n, wanted := wanted - 1 }) := by
  have ⟨hn, hl, hh⟩ := h
  have hb : (UInt8.ofNat (n + 128)).toNat = n + 128 :=
    UInt8.toNat_ofNat_of_lt' (show n + 128 < 256 by omega)
  generalize UInt8.ofNat (n + 128) = b at hb
  have hin : low ≤ b ∧ b ≤ high := by
    rw [UInt8.le_iff_toNat_le, UInt8.le_iff_toNat_le, hb]
    exact ⟨hl, hh⟩
  simp [step, hin, hb]

theorem Within.step_last (h : Within low high n) :
    step (some ⟨bits, 1, low, high⟩) (UInt8.ofNat (n + 128)) =
      ([Char.ofNat (64 * bits + n)], none) := by
  rw [h.step_some, if_pos rfl]

theorem Within.step_more (h : Within low high n) :
    step (some ⟨bits, wanted + 2, low, high⟩) (UInt8.ofNat (n + 128)) =
      ([], some { bits := 64 * bits + n, wanted := wanted + 1 }) := by
  rw [h.step_some, if_neg (by omega), Nat.add_sub_assoc (by decide)]

theorem Within.lossyFrom_one (h : Within low high n) :
    lossyFrom (some ⟨bits, 1, low, high⟩) (UInt8.ofNat (n + 128) :: rest) =
      Char.ofNat (64 * bits + n) :: lossyFrom none rest :=
  lossyFrom_cons h.step_last

theorem Within.lossyFrom_two (h : Within low high m) (hn : n < 64) :
    lossyFrom (some ⟨bits, 2, low, high⟩)
        (UInt8.ofNat (m + 128) :: UInt8.ofNat (n + 128) :: rest) =
      Char.ofNat (64 * (64 * bits + m) + n) :: lossyFrom none rest := by
  rw [lossyFrom_cons h.step_more, List.nil_append, (within hn).lossyFrom_one]

theorem Within.lossyFrom_three (h : Within low high l) (hm : m < 64) (hn : n < 64) :
    lossyFrom (some ⟨bits, 3, low, high⟩)
        (UInt8.ofNat (l + 128) :: UInt8.ofNat (m + 128) :: UInt8.ofNat (n + 128) :: rest) =
      Char.ofNat (64 * (64 * (64 * bits + l) + m) + n) :: lossyFrom none rest := by
  rw [lossyFrom_cons h.step_more, List.nil_append, (within hm).lossyFrom_two hn]

end Next

theorem lossyFrom_utf8EncodeChar (c : Char) (rest : List UInt8) :
    lossyFrom none (String.utf8EncodeChar c ++ rest) = c :: lossyFrom none rest := by
  have hvalid : c.val.toNat < 55296 ∨ 57343 < c.val.toNat ∧ c.val.toNat < 1114112 := c.valid
  have hc : c = Char.ofNat c.val.toNat := c.ofNat_toNat.symm
  simp only [String.utf8EncodeChar]
  generalize c.val.toNat = v at hvalid hc
  subst hc
  split_ifs
  all_goals simp only [List.cons_append, List.nil_append]
  case pos => exact lossyFrom_cons <| step_one v (by omega)
  case pos =>
    have h : Within 0x80 0xbf (v % 64) := within (by omega)
    rw [lossyFrom_cons <| step_two (v / 64 % 32) (by omega) (by omega), List.nil_append,
      h.lossyFrom_one, show 64 * (v / 64 % 32) + v % 64 = v by omega]
  case pos =>
    have h : Within (if v / 4096 % 16 = 0 then 0xa0 else 0x80)
        (if v / 4096 % 16 = 13 then 0x9f else 0xbf) (v / 64 % 64) :=
      ⟨by omega, by split <;> simp; omega, by split <;> simp <;> omega⟩
    rw [lossyFrom_cons <| step_three (v / 4096 % 16) (by omega), List.nil_append,
      h.lossyFrom_two (by omega), show 64 * (64 * (v / 4096 % 16) + v / 64 % 64) + v % 64 = v by
        omega]
  case neg =>
    have h : Within (if v / 262144 % 8 = 0 then 0x90 else 0x80)
        (if v / 262144 % 8 = 4 then 0x8f else 0xbf) (v / 4096 % 64) :=
      ⟨by omega, by split <;> simp; omega, by split <;> simp <;> omega⟩
    have hv : 64 * (64 * (64 * (v / 262144 % 8) + v / 4096 % 64) + v / 64 % 64) + v % 64 = v := by
      omega
    rw [lossyFrom_cons <| step_four (v / 262144 % 8) (by omega), List.nil_append,
      h.lossyFrom_three (by omega) (by omega), hv]

-- What has been begun does not go on below 0x80.
def Late (begun : Option Begun) : Prop := ∀ c, begun = some c → 0x80 ≤ c.low

theorem late_none : Late none := by simp [Late]

theorem late_begin? : Late (begin? b) := by
  unfold begin?
  split_ifs
  all_goals
    simp only [Late, Option.some.injEq, forall_eq', reduceCtorEq, false_implies, implies_true]
  all_goals decide

theorem late_first : Late (first b).2 := by
  unfold first
  split
  case isTrue  => exact late_none
  case isFalse =>
    split
    case h_1 c hc => exact hc ▸ late_begin?
    case h_2      => exact late_none

theorem late_step : Late (step begun b).2 := by
  unfold step
  split
  case h_1 => exact late_first
  case h_2 =>
    split
    case isTrue =>
      dsimp only
      split
      case isTrue  => exact late_none
      case isFalse => simp [Late]
    case isFalse => exact late_first

-- A slash ends what has been begun, and is shown.
theorem lossyFrom_append (h : Late begun) (bytes rest : List UInt8) :
    lossyFrom begun (bytes ++ '/'.toUInt8 :: rest) =
      lossyFrom begun bytes ++ '/' :: lossyFrom none rest := by
  induction bytes generalizing begun
  case nil =>
    cases begun
    case none => rfl
    case some c =>
      have hc : ¬c.low ≤ '/'.toUInt8 := by
        have hl : 0x80 ≤ c.low := h c rfl
        rw [UInt8.le_iff_toNat_le] at hl ⊢
        exact Nat.not_le_of_lt <| Nat.lt_of_lt_of_le (by decide) hl
      have hs : step (some c) '/'.toUInt8 = (['\ufffd', '/'], none) := by
        simp only [step, hc, decide_false, Bool.false_and]
        rfl
      rw [List.nil_append, lossyFrom_cons hs]
      rfl
  case cons b bytes ih =>
    have hs : step begun b = ((step begun b).1, (step begun b).2) := rfl
    rw [List.cons_append, lossyFrom_cons hs, ih late_step, lossyFrom_cons hs, List.append_assoc]

theorem lossyFrom_intercalate (pieces : List (List UInt8)) :
    lossyFrom none (['/'.toUInt8].intercalate pieces) =
      ['/'].intercalate (pieces.map (lossyFrom none)) := by
  induction pieces
  case nil => rfl
  case cons piece rest ih =>
    cases rest
    case nil => simp
    case cons next rest =>
      rw [List.intercalate_cons_cons, List.append_assoc, List.singleton_append,
        lossyFrom_append late_none, ih]
      simp [List.intercalate_cons_cons]

end Utf8

theorem lossyText_of_utf8Text? {s : String} (h : utf8Text? bytes = some s) :
    lossyText bytes = s := by
  have hf (cs : List Char) : Utf8.lossyFrom none (cs.flatMap String.utf8EncodeChar) = cs := by
    induction cs
    case nil          => rfl
    case cons c cs ih => rw [List.flatMap_cons, Utf8.lossyFrom_utf8EncodeChar, ih]
  rw [lossyText, ← flatMap_of_utf8Text? h, hf, String.ofList_toList]

end ApiLens
