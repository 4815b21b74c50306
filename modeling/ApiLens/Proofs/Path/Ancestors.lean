import ApiLens.Proofs.Path.Components
import Mathlib.Logic.Relation

/-!
The directories above a path.

Each step up takes one component away. So every path has finitely many directories above it, and of
two of them the nearer one has more components.
-/

namespace ApiLens.Path

variable {p q d r : Path} {cs names : List Component}

theorem components_of_parent? (h : p.parent? = some d) :
    ∃ c, p.components = d.components ++ [c] := by
  obtain ⟨hn, -⟩ | ⟨d', c, hd, hc⟩ := parent?_cases p
  case inl => rw [hn] at h; cases h
  case inr =>
    rw [hd] at h
    cases h
    exact ⟨c, hc⟩

theorem length_of_parent? (h : p.parent? = some d) :
    d.components.length < p.components.length := by
  have ⟨c, hc⟩ := components_of_parent? h
  simp [hc]

theorem component?_ne_root : component? s ≠ some .root := by
  unfold component?
  split
  · nofun
  · split <;> nofun

theorem parent?_of_components_eq_root (h : p.components = [.root]) : p.parent? = none := by
  obtain ha | hd | ⟨ha, hd⟩ := start_cases p
  case inl =>
    rw [components_root ha] at h
    have hi : inner p.rest = [] := (List.cons.inj h).2
    obtain ⟨hs, -⟩ | ⟨kept, c, -, -, hc⟩ := shorten?_cases p.rest
    case inl => simp [parent?, ha, hs]
    case inr => simp [hi] at hc
  case inr.inl => rw [components_current hd] at h; cases h
  case inr.inr =>
    rw [components_plain ha hd] at h
    have hm : .root ∈ inner p.segments := h ▸ List.mem_singleton_self _
    obtain ⟨s, -, hs⟩ := List.mem_filterMap.mp hm
    exact absurd hs component?_ne_root

-- The components of a path say whether there is a directory above it, and with which.
theorem map_components_parent? (p : Path) : p.parent?.map components =
    if p.components = [] ∨ p.components = [.root] then none else some p.components.dropLast := by
  obtain ⟨hn, hc⟩ | ⟨d, c, hd, hc⟩ := parent?_cases p
  case inl => rw [if_pos hc, hn]; rfl
  case inr =>
    have hr : p.components ≠ [.root] := fun hr => by
      rw [parent?_of_components_eq_root hr] at hd
      cases hd
    rw [if_neg (not_or.mpr ⟨by simp [hc], hr⟩), hd, hc, List.dropLast_concat]
    rfl

theorem parent?_congr (h : p.Same q) : p.parent?.map components = q.parent?.map components := by
  rw [map_components_parent?, map_components_parent?, h]

theorem exists_parent?_of_components (h : p.components = cs ++ [c]) (hc : c ≠ .root) :
    ∃ d, p.parent? = some d ∧ d.components = cs := by
  have hp := map_components_parent? p
  rw [if_neg (by simp [h, List.append_eq_singleton_iff, hc]), h, List.dropLast_concat] at hp
  exact Option.map_eq_some_iff.mp hp

-- What a path has if the directory above it has it, every path has.
@[elab_as_elim]
theorem induct {motive : Path → Prop}
    (step : ∀ p, (∀ d, p.parent? = some d → motive d) → motive p) (p) : motive p :=
  step p fun d _ => induct step d
termination_by p.components.length
decreasing_by exact length_of_parent? ‹_›

-- Up from `p`, in no steps or in some, is `d`.
def LiesIn : Path → Path → Prop := Relation.ReflTransGen fun p d => p.parent? = some d

theorem liesIn_iff : p.LiesIn r ↔ p = r ∨ ∃ d, p.parent? = some d ∧ d.LiesIn r :=
  Relation.ReflTransGen.cases_head_iff

theorem LiesIn.prefix (h : p.LiesIn d) : d.components <+: p.components := by
  induction p using Path.induct
  case step p ih =>
    obtain rfl | ⟨q, hq, h⟩ := liesIn_iff.mp h
    case inl => exact List.prefix_rfl
    case inr =>
      have ⟨c, hc⟩ := components_of_parent? hq
      exact (ih q hq h).trans ⟨[c], hc.symm⟩

-- Further up there are fewer components.
theorem LiesIn.eq_of_length_le (h : p.LiesIn d)
    (hl : p.components.length ≤ d.components.length) : p = d := by
  obtain rfl | ⟨q, hq, hd⟩ := liesIn_iff.mp h
  case inl => rfl
  case inr =>
    have hq := length_of_parent? hq
    have hd := hd.prefix.length_le
    omega

section Ancestors

theorem length_components_le (p : Path) : p.components.length ≤ p.segments.length := by
  have hl rest : (inner rest).length ≤ rest.length := List.length_filterMap_le ..
  obtain ha | hd | ⟨ha, hd⟩ := start_cases p
  case inl     => rw [components_root ha, segments_eq]; exact Nat.succ_le_succ (hl _)
  case inr.inl => rw [components_current hd, segments_eq]; exact Nat.succ_le_succ (hl _)
  case inr.inr => rw [components_plain ha hd]; exact hl _

theorem above_of_parent?_eq_none (h : p.parent? = none) : ancestors.above n p = [] := by
  cases n <;> simp [ancestors.above, h]

-- There are as many steps as components at most, and more fuel than that changes nothing.
theorem above_eq_of_le (hm : p.components.length ≤ m) (hn : p.components.length ≤ n) :
    ancestors.above m p = ancestors.above n p := by
  induction p using Path.induct generalizing m n
  case step p ih =>
    cases hp : p.parent?
    case none => rw [above_of_parent?_eq_none hp, above_of_parent?_eq_none hp]
    case some d =>
      have hd := length_of_parent? hp
      obtain ⟨m, rfl⟩ := Nat.exists_eq_add_one_of_ne_zero (by omega : m ≠ 0)
      obtain ⟨n, rfl⟩ := Nat.exists_eq_add_one_of_ne_zero (by omega : n ≠ 0)
      simp only [ancestors.above, hp]
      exact congrArg (d :: ·) <| ih d hp (by omega) (by omega)

theorem ancestors_eq (p : Path) : p.ancestors = p :: p.parent?.elim [] ancestors := by
  cases h : p.parent?
  case none => rw [ancestors, above_of_parent?_eq_none h]; rfl
  case some d =>
    have hl := length_of_parent? h
    have hp := length_components_le p
    obtain ⟨n, hn⟩ := Nat.exists_eq_add_one_of_ne_zero (by omega : p.segments.length ≠ 0)
    rw [ancestors, hn]
    simp only [ancestors.above, h]
    rw [above_eq_of_le (by omega) (length_components_le d)]
    rfl

theorem mem_ancestors_iff : r ∈ p.ancestors ↔ p.LiesIn r := by
  induction p using Path.induct
  case step p ih =>
    rw [liesIn_iff, ancestors_eq]
    cases hp : p.parent?
    case none   => simp [eq_comm]
    case some d => simp [ih d hp, eq_comm]

end Ancestors

-- All that a relative path starts with lies above it, the empty path too.
theorem exists_liesIn_of_prefix (hp : ∀ c ∈ p.components, ∃ s, c = .normal s)
    (h : cs <+: p.components) : ∃ d, p.LiesIn d ∧ d.components = cs := by
  induction p using Path.induct
  case step p ih =>
    by_cases he : cs = p.components
    case pos => exact ⟨p, Relation.ReflTransGen.refl, he.symm⟩
    case neg =>
      obtain ⟨-, hc | hc⟩ | ⟨d, c, hd, hc⟩ := parent?_cases p
      case inl.inl => rw [hc, List.prefix_nil] at h; exact absurd (h.trans hc.symm) he
      case inl.inr => simp [hc] at hp
      case inr =>
        rw [hc, List.prefix_concat_iff] at h
        have hd' : ∀ c ∈ d.components, ∃ s, c = .normal s := fun c hm => hp c <| by simp [hc, hm]
        obtain ⟨q, hq, he⟩ := ih d hd hd' <| h.resolve_left (hc ▸ he)
        exact ⟨q, liesIn_iff.mpr <| .inr ⟨d, hd, hq⟩, he⟩

end ApiLens.Path
