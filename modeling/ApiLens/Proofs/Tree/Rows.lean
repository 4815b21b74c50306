import ApiLens.Proofs.Tree.Visible
import Mathlib.Data.List.Lex

/-!
Which node of a tree stands for which object of the value that the tree is read from.

The outermost nodes of a value are numbered through all its parts, so the rows of a part need to know
how many come before it.
-/

namespace ApiLens

-- The address of a node in a tree, and of the object in a value that it stands for.
abbrev Row := Address × Address

def Row.Before (r s : Row) : Prop := r.1 < s.1 ∧ r.2 < s.2

namespace Node

theorem withinFields_eq : withinFields fields = withinItems (fields.map Prod.snd) := by
  induction fields <;> simp_all [withinFields, withinItems]

theorem getElem?_withinItems_iff {c : Node} :
    (withinItems vs)[n]? = some c ↔ ∃ i v k, vs[i]? = some v ∧
      n = (withinItems (vs.take i)).length + k ∧ (within v)[k]? = some c := by
  constructor
  case mp =>
    intro h
    induction vs generalizing n
    case nil => simp [withinItems] at h
    case cons v rest ih =>
      rw [withinItems, List.getElem?_append] at h
      split at h
      case isTrue => exact ⟨0, v, n, rfl, by simp [withinItems], h⟩
      case isFalse =>
        have ⟨i, w, k, hw, hk, hc⟩ := ih h
        exact ⟨i + 1, w, k, hw, by simp [withinItems]; omega, hc⟩
  case mpr =>
    rintro ⟨i, v, k, hv, rfl, hc⟩
    induction vs generalizing i
    case nil => simp at hv
    case cons w rest ih =>
      cases i
      case zero =>
        cases hv
        have hk : k < (within v).length := (List.getElem?_eq_some_iff.mp hc).1
        simp [withinItems, List.getElem?_append_left hk, hc]
      case succ i => simpa [withinItems, Nat.add_assoc, List.getElem?_append_right] using ih i hv

end Node

namespace Json

open Node (within withinItems withinFields)

-- How many of the outermost nodes of a value lie before its `i`th part.
def nodesBefore (v : Json) (i : Nat) : Nat := (withinItems (v.parts.take i)).length

theorem within_of_tagged (h : tag? fields = some tag) :
    within (obj fields) = [.mk (.ofFields tag fields) (withinItems (obj fields).parts)] := by
  simp [within, h, Node.withinFields_eq, parts]

theorem within_of_untagged {v : Json} (ho : v.IsObject) (ht : ¬v.Tagged) : within v = [] := by
  obtain ⟨fields, rfl⟩ := ho
  simp [within, tag?_eq_none_of_not_tagged ht]

theorem within_of_not_isObject {v : Json} (h : ¬v.IsObject) : within v = withinItems v.parts := by
  cases v <;> simp_all [within, withinItems, parts, IsObject]

mutual

-- The outermost nodes are numbered from `k` on, the children of a node from zero.
def rows (k : Nat) : Json → List Row
  | obj fields =>
    match tag? fields with
    | some _ => ([k], []) :: (rowsOfFields 0 0 fields).map (fun r => (k :: r.1, r.2))
    | none => []
  | arr items => rowsOfItems k 0 items
  | _ => []

def rowsOfItems (k i : Nat) : List Json → List Row
  | [] => []
  | v :: rest =>
    (rows k v).map (fun r => (r.1, i :: r.2)) ++ rowsOfItems (k + (within v).length) (i + 1) rest

def rowsOfFields (k i : Nat) : List (String × Json) → List Row
  | [] => []
  | (_, v) :: rest =>
    (rows k v).map (fun r => (r.1, i :: r.2)) ++ rowsOfFields (k + (within v).length) (i + 1) rest

end

theorem rowsOfFields_eq : rowsOfFields k i fields = rowsOfItems k i (fields.map Prod.snd) := by
  induction fields generalizing k i <;> simp_all [rowsOfFields, rowsOfItems]

theorem rows_of_tagged (h : tag? fields = some tag) :
    rows k (obj fields) =
      ([k], []) :: (rowsOfItems 0 0 (obj fields).parts).map (fun r => (k :: r.1, r.2)) := by
  simp [rows, h, rowsOfFields_eq, parts]

theorem rows_of_untagged {v : Json} (ho : v.IsObject) (ht : ¬v.Tagged) : rows k v = [] := by
  obtain ⟨fields, rfl⟩ := ho
  simp [rows, tag?_eq_none_of_not_tagged ht]

theorem rows_of_not_isObject {v : Json} (h : ¬v.IsObject) : rows k v = rowsOfItems k 0 v.parts := by
  cases v <;> simp_all [rows, rowsOfItems, parts, IsObject]

theorem mem_rowsOfItems_iff : (p, j) ∈ rowsOfItems k n vs ↔ ∃ i v j', vs[i]? = some v ∧
    j = (n + i) :: j' ∧ (p, j') ∈ rows (k + (withinItems (vs.take i)).length) v := by
  induction vs generalizing k n
  case nil => simp [rowsOfItems]
  case cons v rest ih =>
    simp only [rowsOfItems, List.mem_append, List.mem_map, Prod.mk.injEq, Prod.exists, ih]
    constructor
    case mp =>
      rintro (⟨p, j', h, rfl, rfl⟩ | ⟨i, w, j', hw, rfl, h⟩)
      · exact ⟨0, v, j', rfl, rfl, h⟩
      · refine ⟨i + 1, w, j', hw, by rw [Nat.add_right_comm]; rfl, ?_⟩
        simpa [withinItems, Nat.add_assoc] using h
    case mpr =>
      rintro ⟨_ | i, w, j', hw, rfl, h⟩
      · cases hw
        exact .inl ⟨p, j', h, rfl, rfl⟩
      · refine .inr ⟨i, w, j', hw, by rw [Nat.add_right_comm]; rfl, ?_⟩
        simpa [withinItems, Nat.add_assoc] using h

theorem mem_rows_of_tagged (h : tag? fields = some tag) :
    (p, j) ∈ rows k (obj fields) ↔ (p = [k] ∧ j = []) ∨ ∃ p' i v j', p = k :: p' ∧ j = i :: j' ∧
      (obj fields).parts[i]? = some v ∧ (p', j') ∈ rows ((obj fields).nodesBefore i) v := by
  simp only [rows_of_tagged h, List.mem_cons, List.mem_map, Prod.mk.injEq, Prod.exists,
    mem_rowsOfItems_iff, Nat.zero_add, nodesBefore]
  refine or_congr_right ⟨?mp, ?mpr⟩
  case mp =>
    rintro ⟨p', _, ⟨i, v, j', hv, rfl, h⟩, rfl, rfl⟩
    exact ⟨p', i, v, j', rfl, rfl, hv, h⟩
  case mpr =>
    rintro ⟨p', i, v, j', rfl, rfl, hv, h⟩
    exact ⟨p', _, ⟨i, v, j', hv, rfl, h⟩, rfl, rfl⟩

theorem mem_rows_of_not_isObject {v : Json} (h : ¬v.IsObject) :
    (p, j) ∈ rows k v ↔ ∃ i w j', j = i :: j' ∧ v.parts[i]? = some w ∧
      (p, j') ∈ rows (k + v.nodesBefore i) w := by
  simp only [rows_of_not_isObject h, mem_rowsOfItems_iff, Nat.zero_add, nodesBefore]
  exact exists₃_congr fun _ _ _ => and_left_comm

-- A row's node is read off the object alone that it stands for, and lies in the tree where it says.
theorem at?_of_mem_rows {v : Json} (h : (p, j) ∈ rows k v) : ∃ i q n fields tag, p = (k + i) :: q ∧
    (within v)[i]? = some n ∧ n.at? q = some (.ofFields tag fields) ∧
    v.at? j = some (obj fields) ∧ tag? fields = some tag := by
  induction v using Json.induct generalizing k p j
  case tagged fields tag ht ih =>
    obtain ⟨rfl, rfl⟩ | ⟨p', i, v, j', rfl, rfl, hv, h⟩ := (mem_rows_of_tagged ht).mp h
    · refine ⟨0, [], _, fields, tag, rfl, by rw [within_of_tagged ht]; rfl, ?_, rfl, ht⟩
      simp [Node.ofFields, Node.withinFields_eq, parts]
    -- An outermost node of a part is a child here, numbered after those of the parts before.
    · obtain ⟨i', q, n, fields', tag', hp, hn, hq, hj, ht'⟩ := ih v (List.mem_of_getElem? hv) h
      have hn' := Node.getElem?_withinItems_iff.mpr ⟨i, v, i', hv, rfl, hn⟩
      refine ⟨0, p', _, fields', tag', rfl, by rw [within_of_tagged ht]; rfl, ?_, ?_, ht'⟩
      · simp [hp, nodesBefore, hn', hq]
      · simp [hv, hj]
  case untagged v ho ht => simp [rows_of_untagged ho ht] at h
  case loose v ho ih =>
    obtain ⟨i, w, j', hj, hw, h⟩ := (mem_rows_of_not_isObject ho).mp h
    obtain ⟨i', q, n, fields, tag, hp, hn, hq, hj', ht⟩ := ih w (List.mem_of_getElem? hw) h
    refine ⟨v.nodesBefore i + i', q, n, fields, tag, by rw [hp, Nat.add_assoc], ?_, hq, ?_, ht⟩
    · rw [within_of_not_isObject ho]
      exact Node.getElem?_withinItems_iff.mpr ⟨i, w, i', hw, rfl, hn⟩
    · simp [hj, hw, hj']

-- No node is without a row.
theorem exists_mem_rows_of_at? {v : Json} {n m : Node} (hn : (within v)[i]? = some n)
    (hm : n.at? q = some m) : ∃ j, ((k + i) :: q, j) ∈ rows k v := by
  induction v using Json.induct generalizing k i n q
  case tagged fields tag ht ih =>
    simp only [within_of_tagged ht, List.getElem?_singleton] at hn
    split at hn
    case isFalse => cases hn
    case isTrue hi =>
      subst hi; cases hn
      cases q
      case nil => exact ⟨[], (mem_rows_of_tagged ht).mpr <| .inl ⟨rfl, rfl⟩⟩
      case cons i' q =>
        have ⟨c, hc, hm⟩ := Node.at?_cons_eq_some_iff.mp hm
        have ⟨i, v, k', hv, hk, hc⟩ := Node.getElem?_withinItems_iff.mp hc
        have ⟨j, h⟩ := ih v (List.mem_of_getElem? hv) hc hm (k := (obj fields).nodesBefore i)
        exact ⟨i :: j, (mem_rows_of_tagged ht).mpr <| .inr ⟨_, i, v, j, rfl, rfl, hv, hk ▸ h⟩⟩
  case untagged v ho ht => simp [within_of_untagged ho ht] at hn
  case loose v ho ih =>
    rw [within_of_not_isObject ho] at hn
    have ⟨i, w, k', hw, hk, hc⟩ := Node.getElem?_withinItems_iff.mp hn
    have ⟨j, h⟩ := ih w (List.mem_of_getElem? hw) hc hm (k := k + v.nodesBefore i)
    rw [Nat.add_assoc] at h
    exact ⟨i :: j, (mem_rows_of_not_isObject ho).mpr ⟨i, w, j, rfl, hw, hk ▸ h⟩⟩

theorem exists_mem_rows_iff_visible {v : Json} : (∃ p, (p, j) ∈ rows k v) ↔ v.Visible j := by
  induction v using Json.induct generalizing k j
  case tagged fields tag ht ih =>
    have hv : (obj fields).Tagged := tagged_obj_iff.mpr ⟨tag, ht⟩
    simp only [mem_rows_of_tagged ht]
    cases j
    case nil => simp [visible_nil_iff, hv]
    case cons i j =>
      rw [visible_cons_iff]
      constructor
      case mp =>
        rintro ⟨_, ⟨-, ⟨⟩⟩ | ⟨p, _, v, _, -, ⟨⟩, hi, h⟩⟩
        exact ⟨fun _ => hv, v, hi, (ih v (List.mem_of_getElem? hi)).mp ⟨p, h⟩⟩
      case mpr =>
        rintro ⟨-, v, hi, h⟩
        have ⟨p, h⟩ := (ih v (List.mem_of_getElem? hi) (k := (obj fields).nodesBefore i)).mpr h
        exact ⟨k :: p, .inr ⟨p, i, v, j, rfl, rfl, hi, h⟩⟩
  case untagged v ho ht => simp [rows_of_untagged ho ht, not_visible_of_untagged ho ht]
  case loose v ho ih =>
    simp only [mem_rows_of_not_isObject ho]
    cases j
    case nil => simpa [visible_nil_iff] using fun h => ho h.isObject
    case cons i j =>
      rw [visible_cons_iff]
      constructor
      case mp =>
        rintro ⟨p, _, w, _, ⟨⟩, hi, h⟩
        exact ⟨fun h => absurd h ho, w, hi, (ih w (List.mem_of_getElem? hi)).mp ⟨p, h⟩⟩
      case mpr =>
        rintro ⟨-, w, hi, h⟩
        have ⟨p, h⟩ := (ih w (List.mem_of_getElem? hi) (k := k + v.nodesBefore i)).mpr h
        exact ⟨p, i, w, j, rfl, hi, h⟩

theorem not_mem_rows_nil {v : Json} : ([], j) ∉ rows k v := by
  intro h
  have ⟨_, _, _, _, _, hp, _⟩ := at?_of_mem_rows h
  cases hp

-- Nothing encloses the object of an outermost node.
theorem not_isObject_of_above {v : Json} (h : ([i], j) ∈ rows k v) :
    ∀ q, Above q j → ∀ w, v.at? q = some w → ¬w.IsObject := by
  induction v using Json.induct generalizing k j
  case tagged fields tag ht ih =>
    obtain ⟨-, rfl⟩ | ⟨p, _, _, _, hp, -, -, h⟩ := (mem_rows_of_tagged ht).mp h
    · exact fun q hq => absurd hq not_above_nil
    · cases hp
      exact absurd h not_mem_rows_nil
  case untagged v ho ht => simp [rows_of_untagged ho ht] at h
  case loose v ho ih =>
    obtain ⟨i, u, j, rfl, hu, h⟩ := (mem_rows_of_not_isObject ho).mp h
    refine forall_above_cons_iff.mpr ⟨by simpa using ho, fun q hq w hw => ?_⟩
    exact ih u (List.mem_of_getElem? hu) h q hq w (by simpa [hu] using hw)

theorem exists_mem_rows_encloses {v : Json} (h : (p ++ [i], j) ∈ rows k v) (hp : p ≠ []) :
    ∃ j', (p, j') ∈ rows k v ∧ v.Encloses j' j := by
  induction v using Json.induct generalizing k p j
  case tagged fields tag ht ih =>
    obtain ⟨he, -⟩ | ⟨_, i', u, j, he, rfl, hu, h⟩ := (mem_rows_of_tagged ht).mp h
    · simp [List.append_eq_singleton_iff, hp] at he
    · cases p
      case nil => exact absurd rfl hp
      case cons _ p =>
        obtain ⟨rfl, rfl⟩ := List.cons.inj he
        -- The parent is this object, or it lies in the same part as its child.
        cases p
        case nil =>
          refine ⟨[], (mem_rows_of_tagged ht).mpr <| .inl ⟨rfl, rfl⟩, ?_⟩
          exact (encloses_nil_cons_iff hu).mpr ⟨⟨fields, rfl⟩, not_isObject_of_above h⟩
        case cons a p =>
          have ⟨j', h', he⟩ := ih u (List.mem_of_getElem? hu) h (by simp)
          refine ⟨i' :: j', (mem_rows_of_tagged ht).mpr <| .inr ⟨_, _, _, _, rfl, rfl, hu, h'⟩, ?_⟩
          exact (encloses_cons_cons_iff hu).mpr he
  case untagged v ho ht => simp [rows_of_untagged ho ht] at h
  case loose v ho ih =>
    obtain ⟨i', u, j, rfl, hu, h⟩ := (mem_rows_of_not_isObject ho).mp h
    have ⟨j', h', he⟩ := ih u (List.mem_of_getElem? hu) h hp
    refine ⟨i' :: j', (mem_rows_of_not_isObject ho).mpr ⟨_, _, _, rfl, hu, h'⟩, ?_⟩
    exact (encloses_cons_cons_iff hu).mpr he

theorem rowsOfItems_pairwise
    (h : ∀ v ∈ vs, ∀ k, (rows k v).Pairwise Row.Before) :
    (rowsOfItems k n vs).Pairwise Row.Before := by
  induction vs generalizing k n
  case nil => exact .nil
  case cons v rest ih =>
    have ⟨hv, hr⟩ := List.forall_mem_cons.mp h
    refine List.pairwise_append.mpr ⟨?here, ih hr, ?later⟩
    case here =>
      exact List.pairwise_map.mpr <| (hv k).imp fun ⟨hp, hj⟩ => ⟨hp, List.cons_lt_cons_self.mpr hj⟩
    case later =>
      intro _ hm ⟨p', j'⟩ hm'
      obtain ⟨⟨p, j⟩, hr, rfl⟩ := List.mem_map.mp hm
      obtain ⟨i, w, j', -, rfl, hw⟩ := mem_rowsOfItems_iff.mp hm'
      obtain ⟨a, q, _, _, _, rfl, ha, -⟩ := at?_of_mem_rows hr
      obtain ⟨a', q', _, _, _, rfl, -⟩ := at?_of_mem_rows hw
      have ha : a < (within v).length := (List.getElem?_eq_some_iff.mp ha).1
      -- Items come one after the other in the value, and so do the numbers of their nodes.
      have hp : k + a < k + (within v).length + (withinItems (rest.take i)).length + a' := by omega
      have hj : n < n + 1 + i := by omega
      exact ⟨List.cons_lt_cons_iff.mpr <| .inl hp, List.cons_lt_cons_iff.mpr <| .inl hj⟩

theorem rows_pairwise (v : Json) (k) : (rows k v).Pairwise Row.Before := by
  induction v using Json.induct generalizing k
  case tagged fields tag ht ih =>
    rw [rows_of_tagged ht, List.pairwise_cons, List.pairwise_map]
    constructor
    case left =>
      intro _ hm
      obtain ⟨⟨p, j⟩, hr, rfl⟩ := List.mem_map.mp hm
      obtain ⟨i, v, j, -, rfl, hv⟩ := mem_rowsOfItems_iff.mp hr
      obtain ⟨a, q, _, _, _, rfl, -⟩ := at?_of_mem_rows hv
      simp [Row.Before]
    case right =>
      exact (rowsOfItems_pairwise ih).imp fun ⟨hp, hj⟩ => ⟨List.cons_lt_cons_self.mpr hp, hj⟩
  case untagged v ho ht => simp [rows_of_untagged ho ht]
  case loose v ho ih =>
    rw [rows_of_not_isObject ho]
    exact rowsOfItems_pairwise ih

end Json
end ApiLens
