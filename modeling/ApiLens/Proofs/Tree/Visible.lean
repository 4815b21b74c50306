import ApiLens.Proofs.Tree.Address
import ApiLens.Tree.OfJson

/-!
The objects of a JSON value that stand for a node, told by the value alone.

An object with a tag is visible unless it lies in an object without one. Arrays hide nothing.
-/

namespace ApiLens

theorem tag?_eq_some_iff {fields : Json.Fields} :
    tag? fields = some tag ↔ fields.get? "kind" = some (.str tag) := by
  rw [tag?, Option.bind_eq_some_iff]
  constructor
  case mp =>
    intro ⟨v, hv, ht⟩
    cases v <;> cases ht
    exact hv
  case mpr => exact fun h => ⟨_, h, rfl⟩

namespace Json

-- What a value is made of: the items of an array, or the values of the fields of an object.
def parts : Json → List Json
  | arr items  => items
  | obj fields => fields.map Prod.snd
  | _          => []

theorem sizeOf_lt_of_mem_parts {v w : Json} (h : w ∈ v.parts) : sizeOf w < sizeOf v := by
  cases v
  case arr items =>
    have : sizeOf w < sizeOf items := List.sizeOf_lt_of_mem h
    simp only [arr.sizeOf_spec]
    omega
  case obj fields =>
    have ⟨⟨key, _⟩, hf, rfl⟩ := List.mem_map.mp h
    have := List.sizeOf_lt_of_mem hf
    simp only [obj.sizeOf_spec, Prod.mk.sizeOf_spec] at this ⊢
    omega
  all_goals simp [parts] at h

def at? (v : Json) : Address → Option Json
  | []     => some v
  | i :: j => v.parts[i]?.bind (at? · j)

@[simp]
theorem at?_nil (v : Json) : v.at? [] = some v := rfl

@[simp]
theorem at?_cons_eq_some_iff {v w : Json} :
    v.at? (i :: j) = some w ↔ ∃ u, v.parts[i]? = some u ∧ u.at? j = some w := by
  simp [at?, Option.bind_eq_some_iff]

def IsObject (v : Json) : Prop := ∃ fields, v = obj fields

def Tagged (v : Json) : Prop :=
  ∃ (fields : Fields) (tag : String), v = obj fields ∧ fields.get? "kind" = some (str tag)

theorem tagged_obj_iff : (obj fields).Tagged ↔ ∃ tag, tag? fields = some tag := by
  simp [Tagged, tag?_eq_some_iff]

theorem tag?_eq_none_of_not_tagged (h : ¬(obj fields).Tagged) : tag? fields = none := by
  simpa [tagged_obj_iff, Option.eq_none_iff_forall_ne_some] using h

theorem Tagged.isObject {v : Json} : v.Tagged → v.IsObject
  | ⟨fields, _, h, _⟩ => ⟨fields, h⟩

-- The object at `j` in `v` has a tag, and so has every object around it.
def Visible (v : Json) (j : Address) : Prop :=
  (∃ w, v.at? j = some w ∧ w.Tagged) ∧
    ∀ k, Above k j → ∀ w, v.at? k = some w → w.IsObject → w.Tagged

-- The object at `k` in `v` is the innermost one around `j`.
def Encloses (v : Json) (k j : Address) : Prop :=
  Above k j ∧ (∃ w, v.at? k = some w ∧ w.IsObject) ∧
    ∀ q, Above q j → Above k q → ∀ w, v.at? q = some w → ¬w.IsObject

-- Every value is an object with a tag, an object without one, or no object. Only in the second is
-- nothing to be found.
@[elab_as_elim]
theorem induct {motive : Json → Prop}
    (tagged : ∀ fields tag, tag? fields = some tag →
      (∀ w ∈ (obj fields).parts, motive w) → motive (obj fields))
    (untagged : ∀ v, v.IsObject → ¬v.Tagged → motive v)
    (loose : ∀ v, ¬v.IsObject → (∀ w ∈ v.parts, motive w) → motive v) (v) : motive v := by
  have ih : ∀ w ∈ v.parts, motive w := fun w _ => induct tagged untagged loose w
  by_cases ho : v.IsObject
  case neg => exact loose v ho ih
  case pos =>
    by_cases ht : v.Tagged
    case neg => exact untagged v ho ht
    case pos =>
      obtain ⟨fields, rfl⟩ := ho
      have ⟨tag, ht⟩ := tagged_obj_iff.mp ht
      exact tagged fields tag ht ih
termination_by v
decreasing_by exact sizeOf_lt_of_mem_parts ‹_›

theorem visible_nil_iff {v : Json} : v.Visible [] ↔ v.Tagged := by
  simp [Visible, not_above_nil]

theorem visible_cons_iff {v : Json} :
    v.Visible (i :: j) ↔ (v.IsObject → v.Tagged) ∧ ∃ u, v.parts[i]? = some u ∧ u.Visible j := by
  simp only [Visible, forall_above_cons_iff, at?_nil, at?_cons_eq_some_iff]
  cases hu : v.parts[i]? <;> simp [and_left_comm]

theorem not_visible_of_untagged {v : Json} (ho : v.IsObject) (ht : ¬v.Tagged) : ¬v.Visible j := by
  cases j
  case nil  => rwa [visible_nil_iff]
  case cons => exact fun h => ht <| (visible_cons_iff.mp h).1 ho

theorem encloses_nil_cons_iff {v : Json} (hu : v.parts[i]? = some u) :
    v.Encloses [] (i :: j) ↔ v.IsObject ∧ ∀ q, Above q j → ∀ w, u.at? q = some w → ¬w.IsObject := by
  simp [Encloses, forall_above_cons_iff, above_nil_cons, not_above_nil, hu]

theorem encloses_cons_cons_iff {v : Json} (hu : v.parts[i]? = some u) :
    v.Encloses (i :: k) (i :: j) ↔ u.Encloses k j := by
  simp [Encloses, forall_above_cons_iff, above_cons_cons_iff, not_above_nil, hu]

end Json
end ApiLens
