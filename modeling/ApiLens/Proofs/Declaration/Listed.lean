import ApiLens.Proofs.Declaration.Harvest

/-!
Which containers are listed, told by the tree alone.

A container owns what lies in it and in no other container in between. It is listed for its own
documentation or for that of something it owns, which may be a listed container in turn.
-/

namespace ApiLens

-- The category under which a container of a kind is listed.
inductive Category.Holds : Category → NodeKind → Prop
  | record : Holds record (.typeDefinition .record)
  | abstractObject : shape ≠ .record → Holds abstractObject (.typeDefinition shape)
  | classDefinition : Holds classDefinition .classDefinition

theorem Category.Holds.ne_function : Category.Holds category kind → category ≠ .function
  | .record | .abstractObject _ | .classDefinition => by simp

theorem Category.holds_iff : Holds category kind ↔ ofContainer? kind = some category := by
  constructor
  case mp =>
    rintro (_ | h | _)
    case abstractObject shape => cases shape <;> first | rfl | contradiction
    all_goals rfl
  case mpr =>
    intro h
    cases kind
    case typeDefinition shape =>
      cases shape <;> cases h
      case record => exact .record
      all_goals exact .abstractObject (by simp)
    case classDefinition => cases h; exact .classDefinition
    all_goals cases h

namespace Node

-- The container `c` is the innermost one around the node `m` at the address `p` in it.
def Owns (c : Node) (p : Address) (m : Node) : Prop :=
  p ≠ [] ∧ c.at? p = some m ∧
    ∀ q k, q ≠ [] → Above q p → c.at? q = some k → k.kind.isContainer = false

variable (policy : Policy)

mutual

-- What counts as a documented member of the container that owns it.
inductive Qualifies : Node → Prop
  | function :
    n.kind = .functionDefinition → n.label.documented →
    (policy.innerFunctionsRequirePublic → n.label.isPublic) → Qualifies n
  | method :
    n.kind = .methodDeclaration ∨ n.kind = .objectMethodDefinition → n.label.isApi → Qualifies n
  | container : Listed n → Qualifies n

-- The containers with a record of their own.
inductive Listed : Node → Prop
  | api : n.kind.isContainer → n.name.isSome → n.label.isApi → Listed n
  | member : n.kind.isContainer → n.name.isSome → n.Owns p m → Qualifies m → Listed n

end

section Membership

variable {policy} {n : Node}

theorem forall_above_iff {P : Node → Prop} :
    (∀ q k, Above q (i :: p) → n.at? q = some k → P k) ↔
      P n ∧ ∀ q k, q ≠ [] → Above q (i :: p) → n.at? q = some k → P k := by
  constructor
  case mp  => exact fun h => ⟨h [] n above_nil_cons rfl, fun q k _ => h q k⟩
  case mpr =>
    intro ⟨hn, h⟩ q k hq hk
    by_cases he : q = []
    case pos => subst he; cases hk; exact hn
    case neg => exact h q k he hq hk

theorem forall_between_cons_iff {c : Node} {P : Node → Prop} (hc : n.children[i]? = some c) :
    (∀ q k, q ≠ [] → Above q (i :: p) → n.at? q = some k → P k) ↔
      ∀ q k, Above q p → c.at? q = some k → P k := by
  constructor
  case mp =>
    intro h q k hq hk
    have ha : Above (i :: q) (i :: p) := above_cons_cons_iff.mpr ⟨rfl, hq⟩
    exact h (i :: q) k (by simp) ha <| at?_cons_eq_some_iff.mpr ⟨c, hc, hk⟩
  case mpr =>
    intro h q k hn hq hk
    obtain rfl | ⟨r, rfl, hr⟩ := above_cons_iff.mp hq
    · contradiction
    · have ⟨c', hc', hk⟩ := at?_cons_eq_some_iff.mp hk
      cases hc.symm.trans hc'
      exact h r k hr hk

theorem owns_cons_iff_at? {c m : Node} (hc : n.children[i]? = some c) :
    n.Owns (i :: p) m ↔ c.at? p = some m ∧
      ∀ q k, Above q p → c.at? q = some k → k.kind.isContainer = false := by
  simp [Owns, forall_between_cons_iff hc, hc]

theorem owns_cons_iff {m : Node} :
    n.Owns (i :: p) m ↔ ∃ c, n.children[i]? = some c ∧
      ((p = [] ∧ c = m) ∨ (c.kind.isContainer = false ∧ c.Owns p m)) := by
  cases hc : n.children[i]?
  case none => simp [Owns, hc]
  case some c =>
    rw [owns_cons_iff_at? hc]
    cases p
    case nil      => simp [Owns, not_above_nil]
    case cons j p => simp [Owns, forall_above_iff (n := c), and_left_comm]

-- A member is one of the children of its owner, or the member of a child that owns nothing.
theorem exists_owns_iff {P : Node → Prop} :
    (∃ p m, n.Owns p m ∧ P m) ↔
      ∃ c ∈ n.children, P c ∨ (c.kind.isContainer = false ∧ ∃ p m, c.Owns p m ∧ P m) := by
  constructor
  case mp =>
    rintro ⟨_ | ⟨i, p⟩, m, ho, hm⟩
    case nil => exact absurd rfl ho.1
    case cons =>
      have ⟨c, hc, h⟩ := owns_cons_iff.mp ho
      refine ⟨c, List.mem_of_getElem? hc, ?_⟩
      obtain ⟨rfl, rfl⟩ | ⟨hk, ho⟩ := h
      · exact .inl hm
      · exact .inr ⟨hk, p, m, ho, hm⟩
  case mpr =>
    intro ⟨c, hc, h⟩
    have ⟨i, hi⟩ := List.mem_iff_getElem?.mp hc
    obtain hp | ⟨hk, p, m, ho, hm⟩ := h
    · exact ⟨[i], c, owns_cons_iff.mpr ⟨c, hi, .inl ⟨rfl, rfl⟩⟩, hp⟩
    · exact ⟨i :: p, m, owns_cons_iff.mpr ⟨c, hi, .inr ⟨hk, ho⟩⟩, hm⟩

theorem listed_iff : n.Listed policy ↔
    n.kind.isContainer ∧ n.name.isSome ∧
      (n.label.isApi ∨ ∃ p m, n.Owns p m ∧ m.Qualifies policy) := by
  constructor
  case mp =>
    rintro (⟨hk, hn, ha⟩ | ⟨hk, hn, ho, hq⟩)
    · exact ⟨hk, hn, .inl ha⟩
    · exact ⟨hk, hn, .inr ⟨_, _, ho, hq⟩⟩
  case mpr =>
    rintro ⟨hk, hn, ha | ⟨p, m, ho, hq⟩⟩
    · exact .api hk hn ha
    · exact .member hk hn ho hq

theorem Listed.isContainer : n.Listed policy → n.kind.isContainer
  | .api h .. | .member h .. => h

theorem qualifies_iff_listed (h : n.kind.isContainer) : n.Qualifies policy ↔ n.Listed policy := by
  constructor
  case mp =>
    rintro (⟨hk, _⟩ | ⟨hk | hk, _⟩ | hl)
    case container => exact hl
    all_goals simp [hk, NodeKind.isContainer] at h
  case mpr => exact .container

theorem qualifies_iff_isMember (h : n.kind.isContainer = false) :
    n.Qualifies policy ↔ n.isMember policy := by
  constructor
  case mp =>
    rintro (⟨hk, hd, hp⟩ | ⟨hk | hk, ha⟩ | hl)
    case function => cases hs : policy.innerFunctionsRequirePublic <;> simp_all [isMember]
    case container => simp [hl.isContainer] at h
    all_goals simp [isMember, hk, ha]
  case mpr =>
    intro hm
    cases hk : n.kind <;> simp [isMember, hk] at hm
    case functionDefinition => exact .function hk hm.1 fun hs => by simpa [hs] using hm.2
    all_goals exact .method (by simp [hk]) hm

theorem anyCounts_iff_of_counts_iff
    (h : ∀ c ∈ n.children, c.counts policy ↔ c.Qualifies policy ∨
      (c.kind.isContainer = false ∧ ∃ p m, c.Owns p m ∧ m.Qualifies policy)) :
    anyCounts policy n.children ↔ ∃ p m, n.Owns p m ∧ m.Qualifies policy := by
  rw [exists_owns_iff, anyCounts_eq_any, List.any_eq_true]
  exact exists_congr fun c => and_congr_right (h c)

-- The flag of the walk means what it is meant to.
theorem counts_iff (n : Node) :
    n.counts policy ↔ n.Qualifies policy ∨
      (n.kind.isContainer = false ∧ ∃ p m, n.Owns p m ∧ m.Qualifies policy) := by
  induction n
  case mk l cs ih =>
    rw [← anyCounts_iff_of_counts_iff (n := mk l cs) ih]
    cases hk : (mk l cs).kind.isContainer
    case false =>
      rw [qualifies_iff_isMember hk]
      rw [kind_mk] at hk
      simp [counts, hk]
    case true =>
      rw [qualifies_iff_listed hk, listed_iff, ← anyCounts_iff_of_counts_iff (n := mk l cs) ih]
      rw [kind_mk] at hk
      simp [counts, hk, and_comm, or_comm]

theorem anyCounts_iff : anyCounts policy n.children ↔ ∃ p m, n.Owns p m ∧ m.Qualifies policy :=
  anyCounts_iff_of_counts_iff fun c _ => counts_iff c

theorem listed_iff_anyCounts : n.Listed policy ↔
    n.kind.isContainer ∧ n.name.isSome ∧ (n.label.isApi ∨ anyCounts policy n.children) := by
  rw [listed_iff, anyCounts_iff]

theorem counts_iff_listed (h : n.kind.isContainer) : n.counts policy ↔ n.Listed policy := by
  rw [counts_iff, qualifies_iff_listed h]
  simp [h]

theorem counts_iff_isMember (h : n.kind.isContainer = false) :
    n.counts policy ↔ n.isMember policy ∨ anyCounts policy n.children := by
  rw [counts_iff, qualifies_iff_isMember h, anyCounts_iff]
  simp [h]

section Imp

variable {policy' : Policy} {m : Node}

theorem anyCounts_imp (hc : ∀ c ∈ cs, counts policy c → ∃ c' ∈ cs', counts policy' c')
    (h : anyCounts policy cs) : anyCounts policy' cs' := by
  rw [anyCounts_eq_any, List.any_eq_true] at h ⊢
  have ⟨c, hm, h⟩ := h
  exact hc c hm h

theorem Listed.imp (hk : m.kind = n.kind) (hn : n.name.isSome → m.name.isSome)
    (ha : n.label.isApi → m.label.isApi)
    (hc : anyCounts policy n.children → anyCounts policy' m.children) (h : n.Listed policy) :
    m.Listed policy' := by
  rw [listed_iff_anyCounts, hk] at *
  exact ⟨h.1, hn h.2.1, h.2.2.imp ha hc⟩

theorem counts_imp (hk : m.kind = n.kind) (hn : n.name.isSome → m.name.isSome)
    (ha : n.label.isApi → m.label.isApi) (hm : n.isMember policy → m.isMember policy')
    (hc : anyCounts policy n.children → anyCounts policy' m.children) (h : n.counts policy) :
    m.counts policy' := by
  cases hn' : n.kind.isContainer
  case false =>
    rw [counts_iff_isMember hn'] at h
    exact (counts_iff_isMember (hk ▸ hn')).mpr (h.imp hm hc)
  case true =>
    rw [counts_iff_listed hn'] at h
    exact (counts_iff_listed (hk ▸ hn')).mpr (h.imp hk hn ha hc)

end Imp

variable {moduleName : String} {d : Declaration}

theorem functionRecord?_eq_some_iff :
    n.functionRecord? moduleName inside = some d ↔
      n.kind = .functionDefinition ∧ inside = false ∧ n.label.isApi ∧
        ∃ name, n.name = some name ∧ ⟨n.label.span, name, moduleName, .function⟩ = d := by
  simp [functionRecord?, Outline.declare?, and_assoc]

theorem containerRecord?_eq_some_iff :
    n.containerRecord? moduleName policy = some d ↔
      n.Listed policy ∧ ∃ name category, n.name = some name ∧ category.Holds n.kind ∧
        ⟨n.label.span, name, moduleName, category⟩ = d := by
  simp only [containerRecord?, Outline.declare?, listed_iff, ← anyCounts_iff, Category.holds_iff,
    ite_eq_iff, Option.bind_eq_some_iff, Option.map_eq_some_iff, Bool.or_eq_true]
  constructor
  case mp =>
    rintro (⟨h, category, hc, name, hn, rfl⟩ | ⟨-, ⟨⟩⟩)
    have hk : n.kind.isContainer := by simp [← Category.isSome_ofContainer?, hc]
    exact ⟨⟨hk, by simp [hn], h.symm⟩, name, category, hn, hc, rfl⟩
  case mpr =>
    rintro ⟨⟨-, -, h⟩, name, category, hn, hc, rfl⟩
    exact .inl ⟨h.symm, category, hc, name, hn, rfl⟩

-- Whatever has to be listed can be.
theorem exists_containerRecord?_iff :
    (∃ d, n.containerRecord? moduleName policy = some d) ↔ n.Listed policy := by
  simp only [containerRecord?_eq_some_iff]
  constructor
  case mp => exact fun ⟨d, hl, _⟩ => hl
  case mpr =>
    intro hl
    have ⟨hk, hname, _⟩ := listed_iff.mp hl
    have ⟨name, hname⟩ := Option.isSome_iff_exists.mp hname
    have ⟨category, hc⟩ := Option.isSome_iff_exists.mp <| Category.isSome_ofContainer?.trans hk
    exact ⟨_, hl, name, category, hname, Category.holds_iff.mpr hc, rfl⟩

theorem functionRecord?_eq_some_iff_outside :
    n.functionRecord? moduleName inside = some d ↔
      n.functionRecord? moduleName false = some d ∧ (inside → d.category ≠ .function) := by
  simp only [functionRecord?_eq_some_iff]
  constructor
  case mp  => exact fun ⟨hk, hi, h⟩ => ⟨⟨hk, trivial, h⟩, by simp [hi]⟩
  case mpr =>
    rintro ⟨⟨hk, -, ha, name, hn, rfl⟩, hi⟩
    exact ⟨hk, by simpa using hi, ha, name, hn, rfl⟩

theorem ne_function_of_containerRecord? (h : n.containerRecord? moduleName policy = some d) :
    d.category ≠ .function := by
  have ⟨_, _, _, _, hk, hd⟩ := containerRecord?_eq_some_iff.mp h
  exact hd ▸ hk.ne_function

end Membership

end Node
end ApiLens
