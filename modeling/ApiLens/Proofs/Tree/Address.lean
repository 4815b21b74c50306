import ApiLens.Tree.Node
import Mathlib.Data.List.Basic

/-!
Addresses in a syntax tree: the numbers of the children on the way down from the root.

Addresses in lexicographic order are the nodes in preorder.
-/

namespace ApiLens

abbrev Address := List Nat

-- The place at `q` is a proper ancestor of the one at `p`.
def Above (q p : Address) : Prop := q <+: p ∧ q ≠ p

theorem not_above_nil : ¬Above q [] := by
  simp +contextual [Above]

theorem above_cons_iff : Above q (i :: p) ↔ q = [] ∨ ∃ r, q = i :: r ∧ Above r p := by
  simp only [Above, List.prefix_cons_iff]
  constructor
  case mp =>
    rintro ⟨rfl | ⟨r, rfl, hr⟩, hn⟩
    · exact .inl rfl
    · exact .inr ⟨r, rfl, hr, by simpa using hn⟩
  case mpr =>
    rintro (rfl | ⟨r, rfl, hr, hn⟩)
    · exact ⟨.inl rfl, by simp⟩
    · exact ⟨.inr ⟨r, rfl, hr⟩, by simpa using hn⟩

theorem above_nil_cons : Above [] (i :: p) :=
  above_cons_iff.mpr <| .inl rfl

theorem above_cons_cons_iff : Above (i :: q) (k :: p) ↔ i = k ∧ Above q p := by
  simp [above_cons_iff]

theorem forall_above_cons_iff {P : Address → Prop} :
    (∀ q, Above q (i :: p) → P q) ↔ P [] ∧ ∀ q, Above q p → P (i :: q) := by
  simp only [above_cons_iff]
  constructor
  case mp => exact fun h => ⟨h [] <| .inl rfl, fun q hq => h (i :: q) <| .inr ⟨q, rfl, hq⟩⟩
  case mpr =>
    rintro ⟨hn, h⟩ _ (rfl | ⟨q, rfl, hq⟩)
    · exact hn
    · exact h q hq

theorem exists_of_above (h : Above q p) : ∃ r, r ≠ [] ∧ p = q ++ r := by
  obtain ⟨⟨r, rfl⟩, hn⟩ := h
  exact ⟨r, by simpa using hn, rfl⟩

@[simp]
theorem above_append_iff : Above q (q ++ r) ↔ r ≠ [] := by
  simp [Above]

@[simp]
theorem above_append_append_iff : Above (q ++ r) (q ++ s) ↔ Above r s := by
  simp [Above]

theorem Above.asymm (h : Above p q) : ¬Above q p :=
  fun h' => h.2 <| h.1.eq_of_length_le h'.1.length_le

namespace Node

@[induction_eliminator]
theorem induct {motive : Node → Prop}
    (mk : ∀ l cs, (∀ c ∈ cs, motive c) → motive (.mk l cs)) : ∀ n, motive n
  | .mk l cs => mk l cs fun c _ => induct mk c

@[simp]
theorem label_mk : (Node.mk l cs).label = l := rfl

@[simp]
theorem children_mk : (Node.mk l cs).children = cs := rfl

@[simp]
theorem kind_mk : (Node.mk l cs).kind = l.kind := rfl

@[simp]
theorem name_mk : (Node.mk l cs).name = l.name := rfl

def at? (n : Node) : Address → Option Node
  | [] => some n
  | i :: p => n.children[i]?.bind (at? · p)

@[simp]
theorem at?_nil (n : Node) : n.at? [] = some n := rfl

@[simp]
theorem at?_cons_eq_some_iff {n m : Node} :
    n.at? (i :: p) = some m ↔ ∃ c, n.children[i]? = some c ∧ c.at? p = some m := by
  simp [at?, Option.bind_eq_some_iff]

theorem at?_append {n : Node} : n.at? (p ++ q) = (n.at? p).bind (·.at? q) := by
  induction p generalizing n
  case nil => rfl
  case cons i p ih => cases h : n.children[i]? <;> simp [at?, h, ih]

theorem forall_at?_mk_iff {P : Node → Prop} : (∀ p n, (mk l cs).at? p = some n → P n) ↔
    P (mk l cs) ∧ ∀ c ∈ cs, ∀ p n, c.at? p = some n → P n := by
  constructor
  case mp =>
    refine fun h => ⟨h [] _ rfl, fun c hc p n hn => ?_⟩
    have ⟨i, hi⟩ := List.mem_iff_getElem?.mp hc
    exact h (i :: p) n <| at?_cons_eq_some_iff.mpr ⟨c, hi, hn⟩
  case mpr =>
    rintro ⟨hr, hc⟩ (_ | ⟨i, p⟩) n hn
    case nil => exact Option.some.inj hn ▸ hr
    case cons =>
      have ⟨c, hi, hn⟩ := at?_cons_eq_some_iff.mp hn
      exact hc c (List.mem_of_getElem? hi) p n hn

end Node
end ApiLens
