import ApiLens.Path.Basic
import Mathlib.Data.List.DropRight

/-!
The components of a path, of the directory above it and of what is joined to it.
-/

namespace ApiLens

namespace Path

variable {p q : Path} {s t first : Segment} {rest more segments : List Segment}

theorem component?_eq_none_iff : component? s = none ↔ s.isTrivial := by
  unfold component?
  split <;> simp_all
  split <;> simp

theorem eq_of_component?_eq_normal (h : component? s = some (.normal t)) : s = t := by
  unfold component? at h
  split at h
  · cases h
  · split at h <;> cases h
    rfl

-- The components of pieces that do not start a path.
def inner (segments : List Segment) : List Component := segments.filterMap component?

theorem inner_cons : inner (s :: rest) = (component? s).toList ++ inner rest := by
  cases h : component? s <;> simp [inner, h]

theorem inner_append : inner (segments ++ more) = inner segments ++ inner more :=
  List.filterMap_append

theorem inner_eq_nil_iff : inner segments = [] ↔ ∀ s ∈ segments, s.isTrivial := by
  simp [inner, component?_eq_none_iff]

-- A path starts at the root, or with a dot, or else as it goes on.

theorem segments_eq (p : Path) : p.segments = p.first :: p.rest :=
  (List.cons_head_tail p.nonempty).symm

theorem first_eq (h : p.segments = s :: more) : p.first = s := by
  simpa [segments_eq p] using congrArg List.head? h

theorem rest_eq (h : p.segments = s :: more) : p.rest = more := by
  simpa [segments_eq p] using congrArg List.tail h

theorem isAbsolute_iff : p.isAbsolute ↔ p.first = .empty ∧ p.rest ≠ [] := by
  simp [isAbsolute]

theorem components_root (h : p.isAbsolute) : p.components = .root :: inner p.rest := if_pos h

theorem components_current (h : p.first = .dot) : p.components = .current :: inner p.rest := by
  have ha : ¬p.isAbsolute := fun ha => by
    exact absurd ((isAbsolute_iff.mp ha).1.symm.trans h) (by decide)
  rw [components, if_neg ha, if_pos h]
  rfl

theorem components_plain (ha : ¬p.isAbsolute) (hd : p.first ≠ .dot) :
    p.components = inner p.segments := by
  rw [components, if_neg ha, if_neg hd]
  rfl

theorem start_cases (p : Path) :
    p.isAbsolute ∨ p.first = .dot ∨ (¬p.isAbsolute ∧ p.first ≠ .dot) := by
  by_cases h : p.isAbsolute <;> by_cases hd : p.first = .dot <;> simp [h, hd]

-- A path goes on with more pieces, which take the place of what counted for nothing at its end.
theorem components_append (hp : p.segments = first :: (segments ++ gone)) (hg : inner gone = [])
    (hq : q.segments = first :: (segments ++ more)) (ha : q.isAbsolute ↔ p.isAbsolute) :
    q.components = p.components ++ inner more := by
  have hi : inner (segments ++ more) = inner (segments ++ gone) ++ inner more := by
    rw [inner_append, inner_append, hg, List.append_nil]
  obtain h | hd | ⟨h, hd⟩ := start_cases p
  case inl =>
    rw [components_root h, components_root (ha.mpr h), rest_eq hp, rest_eq hq, hi, List.cons_append]
  case inr.inl =>
    have hqd : q.first = .dot := (first_eq hq).trans <| (first_eq hp).symm.trans hd
    rw [components_current hd, components_current hqd, rest_eq hp, rest_eq hq, hi, List.cons_append]
  case inr.inr =>
    have hqd : q.first ≠ .dot := by rwa [first_eq hq, ← first_eq hp]
    rw [components_plain h hd, components_plain (mt ha.mp h) hqd, hp, hq, inner_cons, inner_cons,
      hi, List.append_assoc]

-- What is joined takes the place of an empty piece at the end.
theorem join_cases (p : Path) (ha : ¬q.isAbsolute) : ∃ init gone, (gone = [] ∨ gone = [.empty]) ∧
    p.segments = init ++ gone ∧ (p.join q).segments = init ++ q.segments := by
  rw [join, if_neg ha]
  split
  case isTrue h =>
    have ⟨init, hs⟩ := List.getLast?_eq_some_iff.mp h
    exact ⟨init, _, .inr rfl, hs, by simp [hs]⟩
  case isFalse => exact ⟨_, _, .inl rfl, (List.append_nil _).symm, rfl⟩

-- A relative path goes on where another ends. The empty path is no start for it.
theorem components_join (hp : p.components ≠ []) (ha : ¬q.isAbsolute) :
    (p.join q).components = p.components ++ inner q.segments := by
  have hne : p.segments ≠ [.empty] := fun hs => by
    have he : p.components = inner [.empty] :=
      hs ▸ components_plain (by simp [isAbsolute, rest_eq hs]) (by rw [first_eq hs]; decide)
    exact hp he
  obtain ⟨init, gone, hg, hs, hj⟩ := join_cases p ha
  cases init
  case nil =>
    obtain rfl | rfl := hg
    case inl => exact absurd hs p.nonempty
    case inr => exact absurd hs hne
  case cons first init =>
    have hi : inner gone = [] := by obtain rfl | rfl := hg <;> rfl
    refine components_append hs hi hj ?_
    rw [isAbsolute_iff, isAbsolute_iff, first_eq hs, first_eq hj, rest_eq hs, rest_eq hj]
    have hr : init ++ q.segments ≠ [] := by simp [q.nonempty]
    refine and_congr_right fun he => iff_of_true hr fun hn => hne ?_
    exact hs.trans <| congrArg₂ List.cons he hn

theorem segments_of_components_eq_nil (h : p.components = []) : p.segments = [.empty] := by
  obtain ha | hd | ⟨ha, hd⟩ := start_cases p
  case inl     => rw [components_root ha] at h; cases h
  case inr.inl => rw [components_current hd] at h; cases h
  case inr.inr =>
    rw [components_plain ha hd] at h
    have ht : p.first.isTrivial := inner_eq_nil_iff.mp h _ <| segments_eq p ▸ List.mem_cons_self
    have he : p.first = .empty := by simpa [Segment.isTrivial, hd] using ht
    have hr : p.rest = [] := by simpa [isAbsolute, he] using ha
    rw [segments_eq, he, hr]

-- Names go on where a path ends, be it the empty one.
theorem components_join_of_normal (hq : ∀ c ∈ q.components, ∃ s, c = .normal s) :
    (p.join q).components = p.components ++ q.components := by
  have ha : ¬q.isAbsolute := fun ha => by simp [components_root ha] at hq
  have hd : q.first ≠ .dot := fun hd => by simp [components_current hd] at hq
  by_cases hp : p.components = []
  case pos =>
    have hj : p.join q = q := by simp [join, ha, segments_of_components_eq_nil hp]
    rw [hj, hp, List.nil_append]
  case neg => rw [components_join hp ha, components_plain ha hd]

-- A path of one name starts with it, and what comes after counts for nothing.
theorem segments_of_components_eq_normal (h : q.components = [.normal s]) :
    ∃ rest, q.segments = s :: rest ∧ component? s = some (.normal s) ∧ ∀ t ∈ rest, t.isTrivial := by
  obtain ha | hd | ⟨ha, hd⟩ := start_cases q
  case inl     => rw [components_root ha] at h; cases h
  case inr.inl => rw [components_current hd] at h; cases h
  case inr.inr =>
    rw [components_plain ha hd, segments_eq, inner_cons] at h
    cases hc : component? q.first
    case none =>
      have ht := component?_eq_none_iff.mp hc
      have he : q.first = .empty := by simpa [Segment.isTrivial, hd] using ht
      have hr : q.rest = [] := by simpa [isAbsolute, he] using ha
      rw [hc, hr] at h
      cases h
    case some c =>
      obtain ⟨rfl, hr⟩ : c = .normal s ∧ inner q.rest = [] := by simpa [hc] using h
      have he : q.first = s := eq_of_component?_eq_normal hc
      exact ⟨q.rest, he ▸ segments_eq q, he ▸ hc, inner_eq_nil_iff.mp hr⟩

theorem trimEnd_append (segments : List Segment) :
    ∃ tail, segments = trimEnd segments ++ tail ∧ ∀ s ∈ tail, s.isTrivial :=
  ⟨segments.rtakeWhile Segment.isTrivial, List.rdropWhile_append_rtakeWhile.symm,
    fun _ => List.mem_rtakeWhile_imp⟩

theorem inner_trimEnd : inner (trimEnd segments) = inner segments := by
  have ⟨tail, hs, ht⟩ := trimEnd_append segments
  conv => rhs; rw [hs, inner_append, inner_eq_nil_iff.mpr ht, List.append_nil]

theorem prefix_trimEnd : trimEnd segments <+: segments :=
  have ⟨tail, hs, _⟩ := trimEnd_append segments
  ⟨tail, hs.symm⟩

-- One component less, unless there is none.
theorem shorten?_cases (segments : List Segment) :
    (shorten? segments = none ∧ inner segments = []) ∨ ∃ kept c, shorten? segments = some kept ∧
      kept <+: segments ∧ inner segments = inner kept ++ [c] := by
  unfold shorten?
  split
  case h_1 h => exact .inl ⟨rfl, by rw [← inner_trimEnd, h]; rfl⟩
  case h_2 hn =>
    have hl : ¬((trimEnd segments).getLast hn).isTrivial := List.rdropWhile_last_not _ _ hn
    obtain ⟨c, hc⟩ := Option.ne_none_iff_exists'.mp <| mt component?_eq_none_iff.mp hl
    refine .inr ⟨_, c, rfl, ?_, ?_⟩
    case refine_1 => exact (prefix_trimEnd.trans <| List.dropLast_prefix _).trans prefix_trimEnd
    case refine_2 =>
      rw [inner_trimEnd, ← inner_trimEnd]
      conv => lhs; rw [← List.dropLast_concat_getLast hn, inner_append, inner_cons, hc]
      rfl

-- A path has a directory above it, unless it is empty or the root.
theorem parent?_cases (p : Path) :
    (p.parent? = none ∧ (p.components = [] ∨ p.components = [.root])) ∨
    ∃ d c, p.parent? = some d ∧ p.components = d.components ++ [c] := by
  obtain ha | hd | ⟨ha, hd⟩ := start_cases p
  case inl =>
    rw [parent?, if_pos ha, components_root ha]
    obtain ⟨hs, hi⟩ | ⟨kept, c, hs, -, hi⟩ := shorten?_cases p.rest
    case inl => exact .inl ⟨by rw [hs]; rfl, .inr <| by rw [hi]⟩
    case inr =>
      refine .inr ⟨_, c, by rw [hs]; rfl, ?_⟩
      rw [components_root (by cases kept <;> rfl), hi]
      cases kept <;> rfl
  case inr.inl =>
    have ha : ¬p.isAbsolute := by simp [isAbsolute, hd, Segment.dot, Segment.empty]
    rw [parent?, if_neg ha, if_pos hd, components_current hd]
    obtain ⟨hs, hi⟩ | ⟨kept, c, hs, -, hi⟩ := shorten?_cases p.rest
    case inl => exact .inr ⟨_, .current, by rw [hs], by rw [hi]; rfl⟩
    case inr => exact .inr ⟨_, c, by rw [hs], by rw [components_current rfl, hi]; rfl⟩
  case inr.inr =>
    rw [parent?, if_neg ha, if_neg hd, components_plain ha hd]
    obtain ⟨hs, hi⟩ | ⟨kept, c, hs, hp, hi⟩ := shorten?_cases p.segments
    case inl => exact .inl ⟨by rw [hs]; rfl, .inl hi⟩
    case inr =>
      refine .inr ⟨_, c, by rw [hs]; rfl, ?_⟩
      rw [hi]
      cases kept
      case nil => rfl
      case cons k ks =>
        -- What is kept starts as the path does.
        obtain ⟨hk, hks⟩ := List.cons_prefix_cons.mp (segments_eq p ▸ hp)
        congr 1
        refine (components_plain (p := ⟨k :: ks, List.cons_ne_nil _ _⟩) ?_ (hk ▸ hd)).symm
        refine fun hka => ha <| isAbsolute_iff.mpr ?_
        obtain ⟨he, hr⟩ := isAbsolute_iff.mp hka
        exact ⟨hk.symm.trans he, fun hn => hr <| List.prefix_nil.mp <| hn ▸ hks⟩

theorem fileName?_eq_some_iff :
    p.fileName? = some s ↔ p.components.getLast? = some (.normal s) := by
  unfold fileName?
  split <;> simp_all

theorem parent?_of_fileName? (h : p.fileName? = some s) :
    ∃ d, p.parent? = some d ∧ p.components = d.components ++ [.normal s] := by
  have hl := fileName?_eq_some_iff.mp h
  obtain ⟨-, hc | hc⟩ | ⟨d, c, hd, hc⟩ := parent?_cases p
  case inl.inl => rw [hc] at hl; cases hl
  case inl.inr => rw [hc] at hl; cases hl
  case inr =>
    rw [hc, List.getLast?_concat] at hl
    cases hl
    exact ⟨d, hd, hc⟩

theorem afterBase?_append (base rest : List Component) :
    afterBase? base (base ++ rest) = some rest := by
  induction base
  case nil => rfl
  case cons b base ih => simp [afterBase?, ih]

theorem text_of_mem_ofString (h : s ∈ (ofString text).segments) : ∃ t ht, s = .text t ht := by
  have ⟨piece, _, hs⟩ := List.mem_map.mp h
  exact ⟨_, _, hs.symm⟩

theorem text_of_components (h : (ofString text).components = [.normal s]) :
    ∃ t ht, s = .text t ht := by
  have ⟨_, hs, _, _⟩ := segments_of_components_eq_normal h
  exact text_of_mem_ofString <| hs ▸ List.mem_cons_self

theorem components_join_ofString (h : (ofString text).components = [.normal s]) :
    (p.join (ofString text)).components = p.components ++ [.normal s] := by
  rw [components_join_of_normal (by simp [h]), h]

end Path
end ApiLens
