import ApiLens.Proofs.Text.ByteOrder
import ApiLens.Proofs.Text.Lowercase

/-!
The order of names, by their lower-cased forms and then by themselves.

It is a total one in which only equal names tie, and in a list that is in order the names that
differ in case only stand together.
-/

namespace ApiLens

instance : Std.TransCmp compareNames :=
  inferInstanceAs (Std.TransCmp (compareLex (compareOn lowercase) compare))

theorem namesLe_trans (h₁ : namesLe a b) (h₂ : namesLe b c) : namesLe a c :=
  Std.TransCmp.isLE_trans h₁ h₂

theorem namesLe_total (a b : String) : namesLe a b || namesLe b a := by
  have h : compareNames a b = (compareNames b a).swap := Std.OrientedCmp.eq_swap
  rw [namesLe, namesLe, h]
  cases compareNames b a <;> rfl

theorem namesLe_refl (a : String) : namesLe a a := by
  simpa using namesLe_total a a

instance : Std.LawfulEqCmp compareNames where
  eq_of_compare h := Std.LawfulEqCmp.eq_of_compare (Ordering.then_eq_eq.mp h).2

theorem namesLe_antisymm (h₁ : namesLe a b) (h₂ : namesLe b a) : a = b :=
  Std.LawfulEqCmp.eq_of_compare <| Std.OrientedCmp.isLE_antisymm h₁ h₂

theorem namesLe_iff : namesLe a b ↔ compareNames a b ≠ .gt := Ordering.isLE_iff_ne_gt

theorem compareNames_of_lowercase_ne (h : lowercase a ≠ lowercase b) :
    compareNames a b = compareBytes (lowercase a) (lowercase b) := by
  have hne : compare (lowercase a) (lowercase b) ≠ .eq :=
    fun he => h <| Std.LawfulEqCmp.eq_of_compare he
  rw [compareBytes_eq, compareNames]
  cases hc : compare (lowercase a) (lowercase b)
  case eq => exact absurd hc hne
  all_goals rfl

theorem compareNames_of_lowercase_eq (h : lowercase a = lowercase b) :
    compareNames a b = compareBytes a b := by
  simp [compareNames, h, compareBytes_eq]

theorem lowercase_le_of_namesLe (h : namesLe a b) : lowercase a ≤ lowercase b := by
  by_cases hl : lowercase a = lowercase b
  case pos => exact hl.le
  case neg =>
    rw [namesLe_iff, compareNames_of_lowercase_ne hl, compareBytes_eq] at h
    exact compare_le_iff_le.mp h

section Together

variable {names : List String} (hs : names.Pairwise fun a b => namesLe a b)
include hs

-- From the first of them on, the names of a lower-cased form come before all others.
theorem filter_prefix_of_pairwise (h : ∀ a ∈ names, form ≤ lowercase a) :
    names.filter (lowercase · = form) <+: names := by
  induction names
  case nil => exact List.prefix_rfl
  case cons a rest ih =>
    have ⟨ha, hr⟩ := List.pairwise_cons.mp hs
    have ⟨hle, hrest⟩ := List.forall_mem_cons.mp h
    by_cases he : lowercase a = form
    case pos =>
      rw [List.filter_cons_of_pos (by simpa using he)]
      exact List.cons_prefix_cons.mpr ⟨rfl, ih hr hrest⟩
    case neg =>
      have hlt : form < lowercase a := lt_of_le_of_ne hle (Ne.symm he)
      have hnil : (a :: rest).filter (lowercase · = form) = [] := by
        refine List.filter_eq_nil_iff.mpr fun b hb => ?_
        have hb : lowercase a ≤ lowercase b := by
          rcases List.mem_cons.mp hb with rfl | hb
          case inl => exact le_rfl
          case inr => exact lowercase_le_of_namesLe <| ha b hb
        simpa using (hlt.trans_le hb).ne'
      rw [hnil]
      exact List.nil_prefix

theorem filter_infix_of_pairwise (form) : names.filter (lowercase · = form) <:+: names := by
  induction names
  case nil => exact List.infix_rfl
  case cons a rest ih =>
    have ⟨ha, hr⟩ := List.pairwise_cons.mp hs
    rcases lt_or_ge (lowercase a) form with hlt | hle
    case inl =>
      rw [List.filter_cons_of_neg (by simpa using hlt.ne)]
      exact List.infix_cons (ih hr)
    case inr =>
      refine (filter_prefix_of_pairwise hs fun b hb => ?_).isInfix
      rcases List.mem_cons.mp hb with rfl | hb
      case inl => exact hle
      case inr => exact hle.trans <| lowercase_le_of_namesLe <| ha b hb

theorem filter_pairwise_compareBytes (form) :
    (names.filter (lowercase · = form)).Pairwise fun a b => compareBytes a b ≠ .gt := by
  refine (hs.filter _).imp_of_mem fun {a b} ha hb h => ?_
  have ha : lowercase a = form := by simpa using (List.mem_filter.mp ha).2
  have hb : lowercase b = form := by simpa using (List.mem_filter.mp hb).2
  rw [← compareNames_of_lowercase_eq (ha.trans hb.symm)]
  exact namesLe_iff.mp h

end Together

-- The laws of the order of names.
structure NamesOrdered : Prop where
  swap a b : compareNames b a = (compareNames a b).swap
  trans a b c : compareNames a b ≠ .gt → compareNames b c ≠ .gt → compareNames a c ≠ .gt
  strict a b c : compareNames a b = .lt → compareNames b c = .lt → compareNames a c = .lt
  total a b : compareNames a b ≠ .gt ∨ compareNames b a ≠ .gt
  eq_iff a b : compareNames a b = .eq ↔ a = b
  -- Case is only looked at where nothing else tells two names apart.
  folded a b : lowercase a ≠ lowercase b →
    compareNames a b = compareBytes (lowercase a) (lowercase b)
  alike a b : lowercase a = lowercase b → compareNames a b = compareBytes a b
  together names form : names.Pairwise (fun a b => compareNames a b ≠ .gt) →
    names.filter (lowercase · = form) <:+: names ∧
      (names.filter (lowercase · = form)).Pairwise fun a b => compareBytes a b ≠ .gt
  -- And all this though the lower-cased form of a name may be longer, and that of a letter may
  -- depend on those around it.
  length a : (lowercase a).length = a.length + a.toList.count 'İ'
  sigma a b : ∃ before after, lowercase (a ++ "Σ" ++ b) = before ++
      (if Lowercase.meetsCased a.toList.reverse && !Lowercase.meetsCased b.toList then "ς"
        else "σ") ++ after ∧
    before.length = a.length + a.toList.count 'İ'

theorem names_ordered : NamesOrdered where
  swap a b := Std.OrientedCmp.eq_swap
  trans a b c hab hbc := namesLe_iff.mp <| namesLe_trans (namesLe_iff.mpr hab) (namesLe_iff.mpr hbc)
  strict a b c := Std.TransCmp.lt_trans
  total a b := by
    have h : namesLe a b ∨ namesLe b a := by simpa using namesLe_total a b
    exact h.imp namesLe_iff.mp namesLe_iff.mp
  eq_iff a b := Std.LawfulEqCmp.compare_eq_iff_eq
  folded a b := compareNames_of_lowercase_ne
  alike a b := compareNames_of_lowercase_eq
  together names form h := by
    have hs : names.Pairwise fun a b => namesLe a b := h.imp namesLe_iff.mpr
    exact ⟨filter_infix_of_pairwise hs form, filter_pairwise_compareBytes hs form⟩
  length := length_lowercase
  sigma := lowercase_sigma

end ApiLens
