import ApiLens.Text.Lowercase
import Mathlib.Tactic.SplitIfs

/-!
Lower-casing one character at a time.

Only the dotted capital I becomes two characters, and only the capital sigma looks at what stands
around it.
-/

namespace ApiLens

namespace Lowercase

-- What a character becomes between others, those before it nearest first.
def between (before : List Char) (c : Char) (after : List Char) : List Char :=
  if c = 'Σ' then [if meetsCased before && !meetsCased after then 'ς' else 'σ'] else char c

theorem go_cons : go before (c :: after) = between before c after ++ go (c :: before) after := by
  rw [go, between]
  split <;> rfl

theorem length_between : (between before c after).length = if c == 'İ' then 2 else 1 := by
  have hdotted : ¬('İ').toNat < 128 := by decide
  unfold between char
  split_ifs <;> simp_all

theorem length_go : (go before cs).length = cs.length + cs.count 'İ' := by
  induction cs generalizing before
  case nil => rfl
  case cons c cs ih =>
    simp only [go_cons, List.length_append, length_between, ih, List.length_cons, List.count_cons]
    split <;> omega

theorem exists_go_sigma (before cs ds) : ∃ xs ys, go before (cs ++ 'Σ' :: ds) =
      xs ++ (if meetsCased (cs.reverse ++ before) && !meetsCased ds then 'ς' else 'σ') :: ys ∧
    xs.length = cs.length + cs.count 'İ' := by
  induction cs generalizing before
  case nil => exact ⟨[], go ('Σ' :: before) ds, by simp [go_cons, between], rfl⟩
  case cons c cs ih =>
    have ⟨xs, ys, he, hl⟩ := ih (c :: before)
    refine ⟨between before c (cs ++ 'Σ' :: ds) ++ xs, ys, ?_, ?_⟩
    case refine_1 => simp [go_cons, he]
    case refine_2 =>
      simp only [List.length_append, length_between, hl, List.length_cons, List.count_cons]
      split <;> omega

end Lowercase

theorem length_lowercase (s : String) :
    (lowercase s).length = s.length + s.toList.count 'İ' := by
  simp [lowercase, Lowercase.length_go, String.length_toList]

-- A sigma becomes a final one if there is a cased letter next before it, and none next after it.
theorem lowercase_sigma (a b : String) :
    ∃ before after, lowercase (a ++ "Σ" ++ b) = before ++
        (if Lowercase.meetsCased a.toList.reverse && !Lowercase.meetsCased b.toList then "ς"
          else "σ") ++ after ∧
      before.length = a.length + a.toList.count 'İ' := by
  have ⟨xs, ys, he, hl⟩ := Lowercase.exists_go_sigma [] a.toList b.toList
  refine ⟨.ofList xs, .ofList ys, ?_, by simpa [String.length_toList] using hl⟩
  have htext : (a ++ "Σ" ++ b).toList = a.toList ++ 'Σ' :: b.toList := by simp
  rw [lowercase, htext, he, List.append_nil]
  split <;> simp [String.ext_iff]

end ApiLens
