import ApiLens.Json.Reader
import Mathlib.Data.List.Basic

/-!
Objects of distinct keys, as they come out of every text.
-/

namespace ApiLens

theorem lookup_cons_eq [DecidableEq α] {k : α} {rest : List (α × β)} :
    ((k, b) :: rest).lookup key = if key = k then some b else rest.lookup key := by
  by_cases h : key = k
  case pos => simp [h]
  case neg => simp [List.lookup_cons, h, beq_false_of_ne h]

namespace Json

-- No two fields have one key.
def Fields.Distinct (fields : Fields) : Prop := (fields.map Prod.fst).Nodup

namespace Fields

variable {fields rest : Fields}

theorem get?_cons : get? ((k, v) :: rest) key = if key = k then some v else rest.get? key :=
  lookup_cons_eq

theorem get?_insert_of_ne {before after : Fields} (h : key ≠ k) :
    get? (before ++ (k, v) :: after) key = get? (before ++ after) key := by
  have hk : (key == k) = false := beq_false_of_ne h
  simp [get?, List.lookup_append, List.lookup_cons, hk]

theorem get?_eq_none_iff : fields.get? key = none ↔ key ∉ fields.map Prod.fst := by
  induction fields
  case nil => simp [get?]
  case cons f rest ih => rw [get?_cons]; split <;> simp_all

theorem distinct_cons_iff : Distinct ((key, v) :: rest) ↔ rest.get? key = none ∧ rest.Distinct := by
  rw [get?_eq_none_iff, Distinct, Distinct, List.map_cons, List.nodup_cons]

theorem get?_put : (put key v fields).get? k = if k = key then some v else fields.get? k := by
  induction fields
  case nil => simp [put, get?_cons]
  case cons f rest ih =>
    cases f with | mk k' w =>
    by_cases hk : k' = key <;> simp only [put, hk, if_true, if_false, get?_cons, ih]
    case pos => split <;> rfl
    case neg => split <;> simp_all

theorem put_of_get?_eq_none (h : fields.get? key = none) :
    fields.put key v = fields ++ [(key, v)] := by
  induction fields
  case nil => rfl
  case cons f rest ih =>
    rw [get?_cons] at h
    split at h
    case isTrue     => contradiction
    case isFalse hk => rw [put, if_neg (Ne.symm hk), ih h, List.cons_append]

theorem distinct_put (h : fields.Distinct) : (put key v fields).Distinct := by
  induction fields
  case nil => simp [put, Distinct]
  case cons f rest ih =>
    cases f with | mk k w =>
    have ⟨hk, hr⟩ := distinct_cons_iff.mp h
    by_cases he : k = key <;> simp only [put, he, if_true, if_false]
    case pos => exact distinct_cons_iff.mpr ⟨he ▸ hk, hr⟩
    case neg => exact distinct_cons_iff.mpr ⟨by rw [get?_put, if_neg he, hk], ih hr⟩

theorem Distinct.perm {fields' : Fields} (h : fields.Distinct) (hp : fields.Perm fields') :
    fields'.Distinct :=
  (hp.map Prod.fst).nodup_iff.mp h

-- Where no key is there twice, each leads to its value from anywhere.
theorem get?_eq_of_perm {fields' : Fields} (h : fields.Distinct) (hp : fields.Perm fields') :
    fields.get? key = fields'.get? key := by
  induction hp
  case nil => rfl
  case cons f _ _ _ ih => rw [get?_cons, get?_cons, ih (distinct_cons_iff.mp h).2]
  case swap f g rest =>
    obtain ⟨k, v⟩ := f
    obtain ⟨k', v'⟩ := g
    have ⟨hk, _⟩ := distinct_cons_iff.mp h
    simp only [get?_cons] at hk ⊢
    split <;> split <;> simp_all
  case trans hp _ ih₁ ih₂ => exact (ih₁ h).trans (ih₂ (h.perm hp))

end Fields

-- No object has a key twice, neither the value itself nor one within it.
inductive Neat : Json → Prop
  | null : Neat null
  | bool : Neat (bool b)
  | num  : Neat (num n)
  | str  : Neat (str s)
  | arr  : (∀ v ∈ vs, Neat v) → Neat (arr vs)
  | obj  : Fields.Distinct fields → (∀ f ∈ fields, Neat f.2) → Neat (obj fields)

theorem Neat.distinct {fields : Fields} (h : (Json.obj fields).Neat) : fields.Distinct := by
  cases h
  assumption

theorem Fields.neat_put {fields : Fields} (h : ∀ f ∈ fields, f.2.Neat) (hv : v.Neat) :
    ∀ f ∈ fields.put key v, f.2.Neat := by
  induction fields
  case nil => simpa [put] using hv
  case cons f rest ih =>
    have ⟨hf, hr⟩ := List.forall_mem_cons.mp h
    simp only [put]
    split
    case isTrue  => exact List.forall_mem_cons.mpr ⟨hv, hr⟩
    case isFalse => exact List.forall_mem_cons.mpr ⟨hf, ih hr⟩

-- What is read is neat.
def Tidy (s : Scan Json) : Prop :=
  ∀ v rest, s = .ok (v, rest) → v.Neat

section Tidy

variable {v : Json} {cs rest : List Char} {negative : Bool}

theorem tidy_error : Tidy (.error e) := nofun

theorem tidy_ok (h : v.Neat) : Tidy (.ok (v, rest)) := by
  intro _ _ he
  cases he
  exact h

theorem tidy_map {s : Except ReadError α} {f : α → Json × List Char} (h : ∀ a, (f a).1.Neat) :
    Tidy (s.map f) := by
  cases s
  case error => exact tidy_error
  case ok a  => exact tidy_ok (h a)

theorem tidy_word (h : v.Neat) : Tidy (word v expected cs) := by
  fun_induction word v expected cs
  case case1 => exact tidy_ok h
  case case3 ih => exact ih
  all_goals exact tidy_error

theorem tidy_finish : Tidy (exponentPart.finish negative significand e rest) :=
  tidy_map fun _ => .num

theorem tidy_exponentPart : Tidy (exponentPart negative significand e cs) := by
  have hd sign rest : Tidy (exponentPart.digits negative significand e sign rest) := by
    unfold exponentPart.digits
    split
    case h_1 => exact tidy_error
    case h_2 =>
      split
      case isTrue  => exact tidy_finish
      case isFalse => exact tidy_error
  unfold exponentPart
  split
  case h_1 => exact tidy_finish
  case h_2 =>
    split
    case isTrue  => split <;> exact hd _ _
    case isFalse => exact tidy_finish

theorem tidy_fractionPart : Tidy (fractionPart negative significand e cs) := by
  unfold fractionPart
  split
  case h_1 => exact tidy_error
  case h_2 =>
    split
    case isTrue  => exact tidy_exponentPart
    case isFalse => exact tidy_error

theorem tidy_afterWhole : Tidy (afterWhole negative digits rest) := by
  have hw significand excess : Tidy (afterWhole.whole negative rest significand excess) := by
    unfold afterWhole.whole
    split
    case isTrue  => exact tidy_map fun _ => .num
    case isFalse =>
      split
      case isTrue  => exact tidy_ok .num
      case isFalse => split; exacts [tidy_map fun _ => .num, tidy_ok .num]
  simp only [afterWhole]
  split
  case h_1 => exact tidy_fractionPart
  case h_2 =>
    split
    case isTrue  => exact tidy_exponentPart
    case isFalse => exact hw _ _
  case h_3 => exact hw _ _

theorem tidy_number : Tidy (number negative cs) := by
  unfold number
  split
  case h_1 => exact tidy_error
  case h_2 =>
    split
    case h_1 => split; exacts [tidy_error, tidy_afterWhole]
    case h_2 => exact tidy_afterWhole
  case h_3 => split; exacts [tidy_afterWhole, tidy_error]

-- Each item is a value, read with less fuel.
theorem tidy_items (hv : ∀ f < fuel, ∀ cs, Tidy (value f depth cs)) (h : ∀ v ∈ seen, v.Neat) :
    Tidy (items fuel depth seen cs) := by
  induction fuel generalizing seen cs
  case zero => exact tidy_error
  case succ fuel ih =>
    unfold items
    split
    case h_1 => exact tidy_error
    case h_2 v rest he =>
      have hs : ∀ w ∈ v :: seen, w.Neat :=
        List.forall_mem_cons.mpr ⟨hv fuel (by omega) _ _ _ he, h⟩
      split
      case h_2 => exact ih (fun f hf => hv f (by omega)) hs
      case h_3 => exact tidy_ok <| .arr fun w hw => hs w <| List.mem_reverse.mp hw
      all_goals exact tidy_error

-- Fields are put in one by one, and an old key takes its new value in place.
theorem tidy_members (hv : ∀ f < fuel, ∀ cs, Tidy (value f depth cs)) (hd : seen.Distinct)
    (h : ∀ f ∈ seen, f.2.Neat) : Tidy (members fuel depth seen cs) := by
  induction fuel generalizing seen cs
  case zero => exact tidy_error
  case succ fuel ih =>
    unfold members
    split <;> try exact tidy_error
    split <;> try exact tidy_error
    split <;> try exact tidy_error
    split <;> try exact tidy_error
    case _ v rest he =>
      have hd key : (seen.put key v).Distinct := Fields.distinct_put hd
      have hs key : ∀ f ∈ seen.put key v, f.2.Neat :=
        Fields.neat_put h <| hv fuel (by omega) _ _ _ he
      split
      case h_2 => exact ih (fun f hf => hv f (by omega)) (hd _) (hs _)
      case h_3 => exact tidy_ok <| .obj (hd _) (hs _)
      all_goals exact tidy_error

theorem tidy_value : Tidy (value fuel depth cs) := by
  induction fuel using Nat.strongRecOn generalizing depth cs
  case ind fuel ih =>
  cases fuel
  case zero => exact tidy_error
  case succ fuel =>
    unfold value
    split
    case h_1 => exact tidy_error
    case h_2 => exact tidy_word .null
    case h_3 | h_4 => exact tidy_word .bool
    case h_5 => exact tidy_number
    case h_6 => exact tidy_map fun _ => .str
    case h_7 =>
      split
      case h_1 => exact tidy_error
      case h_2 =>
        split
        case h_1 => exact tidy_ok <| .arr <| List.forall_mem_nil _
        case h_2 => exact tidy_items (fun f hf cs => ih f (by omega)) <| List.forall_mem_nil _
    case h_8 =>
      split
      case h_1 => exact tidy_error
      case h_2 =>
        split
        case h_1 => exact tidy_ok <| .obj List.nodup_nil <| List.forall_mem_nil _
        case h_2 =>
          exact tidy_members (fun f hf cs => ih f (by omega)) List.nodup_nil <|
            List.forall_mem_nil _
    case h_9 => split; exacts [tidy_number, tidy_error]

end Tidy

theorem neat_of_parse (h : parse text = .ok v) : v.Neat := by
  simp only [parse] at h
  split at h
  case h_1 => cases h
  case h_2 v rest hv =>
    split at h <;> cases h
    exact tidy_value _ _ hv

theorem distinct_of_parse {fields : Fields} (h : parse text = .ok (obj fields)) :
    fields.Distinct :=
  (neat_of_parse h).distinct

end Json
end ApiLens
