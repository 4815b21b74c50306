import ApiLens.Proofs.Tree.Mark

/-!
What a visitor hears of a tree: one list of calls, which is the same for every visitor.
-/

namespace ApiLens

-- The hook for a moment at a node of a known kind.
def Visitor.hook (v : Visitor σ) : Moment → Landmark → Hook σ
  | .entered, .modulePart             => v.enterModulePart
  | .left,    .modulePart             => v.leaveModulePart
  | .entered, .functionDefinition     => v.enterFunctionDefinition
  | .left,    .functionDefinition     => v.leaveFunctionDefinition
  | .entered, .typeDefinition         => v.enterTypeDefinition
  | .left,    .typeDefinition         => v.leaveTypeDefinition
  | .entered, .classDefinition        => v.enterClassDefinition
  | .left,    .classDefinition        => v.leaveClassDefinition
  | .entered, .methodDeclaration      => v.enterMethodDeclaration
  | .left,    .methodDeclaration      => v.leaveMethodDeclaration
  | .entered, .objectMethodDefinition => v.enterObjectMethodDefinition
  | .left,    .objectMethodDefinition => v.leaveObjectMethodDefinition

-- What a visitor does on a call.
def Visitor.hear (v : Visitor σ) (s : σ) (e : Event) : σ :=
  v.hook e.moment e.landmark e.node e.parent s

namespace NodeKind

-- The kinds that a visitor has hooks for. There are none for other kinds.
inductive Known : NodeKind → Landmark → Prop
  | modulePart             : Known .modulePart .modulePart
  | functionDefinition     : Known .functionDefinition .functionDefinition
  | typeDefinition         : Known (.typeDefinition shape) .typeDefinition
  | classDefinition        : Known .classDefinition .classDefinition
  | methodDeclaration      : Known .methodDeclaration .methodDeclaration
  | objectMethodDefinition : Known .objectMethodDefinition .objectMethodDefinition

def landmark? : NodeKind → Option Landmark
  | modulePart             => some .modulePart
  | functionDefinition     => some .functionDefinition
  | typeDefinition _       => some .typeDefinition
  | classDefinition        => some .classDefinition
  | methodDeclaration      => some .methodDeclaration
  | objectMethodDefinition => some .objectMethodDefinition
  | other _                => none

variable {kind : NodeKind}

theorem landmark?_eq_some_iff : kind.landmark? = some l ↔ kind.Known l := by
  constructor
  case mp =>
    intro h
    cases kind <;> cases h <;> constructor
  case mpr =>
    intro h
    cases h <;> rfl

theorem exists_known_iff : (∃ l, kind.Known l) ↔ ∀ tag, kind ≠ .other tag := by
  simp only [← landmark?_eq_some_iff]
  cases kind <;> simp [landmark?]

theorem Known.ne_other (h : kind.Known l) : ∀ tag, kind ≠ .other tag :=
  exists_known_iff.mp ⟨l, h⟩

end NodeKind

-- Each of the two tables of a walk leads to the hook of the kind.

theorem Visitor.entering_of_known {v : Visitor σ} {n : Node} (h : n.kind.Known l) :
    v.entering n parent s = v.hook .entered l n parent s := by
  generalize hk : n.kind = kind at h
  cases h <;> simp [Visitor.entering, hk, Visitor.hook]

theorem Visitor.leaving_of_known {v : Visitor σ} {n : Node} (h : n.kind.Known l) :
    v.leaving n parent s = v.hook .left l n parent s := by
  generalize hk : n.kind = kind at h
  cases h <;> simp [Visitor.leaving, hk, Visitor.hook]

theorem Visitor.hear_of_entered {v : Visitor σ} (hl : e.node.kind.Known e.landmark)
    (hm : e.moment = .entered) : v.hear s e = v.entering e.node e.parent s := by
  rw [Visitor.hear, hm, Visitor.entering_of_known hl]

theorem Visitor.hear_of_left {v : Visitor σ} (hl : e.node.kind.Known e.landmark)
    (hm : e.moment = .left) : v.hear s e = v.leaving e.node e.parent s := by
  rw [Visitor.hear, hm, Visitor.leaving_of_known hl]

namespace Node

def eventsAt (moment : Moment) (n : Node) (parent : Option Node) : List Event :=
  match n.kind.landmark? with
  | some l => [⟨moment, l, n, parent⟩]
  | none   => []

mutual

def eventsUnder (parent : Option Node) : Node → List Event
  | mk l cs =>
    let n := mk l cs
    eventsAt .entered n parent ++ eventsOfAll n cs ++ eventsAt .left n parent

def eventsOfAll (parent : Node) : List Node → List Event
  | []        => []
  | n :: rest => eventsUnder (some parent) n ++ eventsOfAll parent rest

end

-- The calls of a walk, in order.
def events (root : Node) : List Event := eventsUnder none root

end Node

section Fold

variable {v : Visitor σ} {n : Node}

theorem foldl_eventsAt_entered (s : σ) :
    (Node.eventsAt .entered n parent).foldl v.hear s = v.entering n parent s := by
  cases hk : n.kind <;> simp [Node.eventsAt, hk, NodeKind.landmark?, Visitor.entering,
    Visitor.hear, Visitor.hook]

theorem foldl_eventsAt_left (s : σ) :
    (Node.eventsAt .left n parent).foldl v.hear s = v.leaving n parent s := by
  cases hk : n.kind <;> simp [Node.eventsAt, hk, NodeKind.landmark?, Visitor.leaving,
    Visitor.hear, Visitor.hook]

theorem walkAll_eq_foldl (s : σ)
    (h : ∀ c ∈ cs, ∀ parent s, v.walkUnder parent c s = (c.eventsUnder parent).foldl v.hear s) :
    v.walkAll n cs s = (Node.eventsOfAll n cs).foldl v.hear s := by
  induction cs generalizing s
  case nil => rfl
  case cons c rest ih =>
    have ⟨hc, hr⟩ := List.forall_mem_cons.mp h
    rw [Visitor.walkAll, Node.eventsOfAll, List.foldl_append, hc, ih _ hr]

theorem walkUnder_eq_foldl (n : Node) (parent) (s : σ) :
    v.walkUnder parent n s = (n.eventsUnder parent).foldl v.hear s := by
  induction n generalizing parent s
  case mk l cs ih =>
    rw [Visitor.walkUnder, Node.eventsUnder, List.foldl_append, List.foldl_append,
      foldl_eventsAt_entered, foldl_eventsAt_left, walkAll_eq_foldl _ ih]

end Fold

-- Whatever is entered is left again, and what is entered in between is left before.
inductive Balanced : List Event → Prop
  | nil : Balanced []
  | call : Balanced within → Balanced rest →
    Balanced (⟨.entered, l, n, parent⟩ :: within ++ ⟨.left, l, n, parent⟩ :: rest)

theorem Balanced.append (h : Balanced es) (h' : Balanced es') : Balanced (es ++ es') := by
  induction h
  case nil => exact h'
  case call hw _ _ ih =>
    rw [List.append_assoc, List.cons_append]
    exact .call hw ih

-- In the order in which nodes are left: each comes after all that it holds.
def LeftBefore (p q : Address) : Prop := Above q p ∨ (¬Above p q ∧ p < q)

theorem leftBefore_cons_cons_iff :
    LeftBefore (i :: p) (j :: q) ↔ i < j ∨ (i = j ∧ LeftBefore p q) := by
  simp only [LeftBefore, above_cons_cons_iff, List.cons_lt_cons_iff]
  constructor
  case mp =>
    rintro (⟨rfl, h⟩ | ⟨hn, hlt | ⟨rfl, hlt⟩⟩)
    · exact .inr ⟨rfl, .inl h⟩
    · exact .inl hlt
    · exact .inr ⟨rfl, .inr ⟨fun h => hn ⟨rfl, h⟩, hlt⟩⟩
  case mpr =>
    rintro (hlt | ⟨rfl, h | ⟨hn, hlt⟩⟩)
    · exact .inr ⟨fun h => absurd h.1 hlt.ne, .inl hlt⟩
    · exact .inl ⟨rfl, h⟩
    · exact .inr ⟨fun h => hn h.2, .inr ⟨rfl, hlt⟩⟩

theorem Mark.key_entered_lt_iff : key ⟨.entered, p⟩ < key ⟨.entered, q⟩ ↔ p < q := by
  induction p generalizing q
  case nil => cases q <;> simp [key]
  case cons i p ih =>
    cases q
    case nil => simp [key]
    case cons j q =>
      change key (under i ⟨.entered, p⟩) < key (under j ⟨.entered, q⟩) ↔ _
      simp only [key_under, List.cons_lt_cons_iff, WithTop.coe_lt_coe, WithTop.coe_inj, ih]

theorem Mark.key_left_lt_iff : key ⟨.left, p⟩ < key ⟨.left, q⟩ ↔ LeftBefore p q := by
  induction p generalizing q
  case nil =>
    cases q
    case nil => simp [LeftBefore, not_above_nil]
    case cons j q =>
      have hlt : key (under j ⟨.left, q⟩) < [⊤] := (key_under_between _).2
      exact iff_of_false hlt.asymm (by simp [LeftBefore, not_above_nil, above_nil_cons])
  case cons i p ih =>
    cases q
    case nil => exact iff_of_true (key_under_between ⟨.left, p⟩).2 <| .inl above_nil_cons
    case cons j q =>
      change key (under i ⟨.left, p⟩) < key (under j ⟨.left, q⟩) ↔ _
      rw [leftBefore_cons_cons_iff, ← ih]
      simp only [key_under, List.cons_lt_cons_iff, WithTop.coe_lt_coe, WithTop.coe_inj]

namespace Node

theorem balanced_eventsOfAll {n : Node} (h : ∀ c ∈ cs, ∀ parent, Balanced (c.eventsUnder parent)) :
    Balanced (eventsOfAll n cs) := by
  induction cs
  case nil => exact .nil
  case cons c rest ih =>
    have ⟨hc, hr⟩ := List.forall_mem_cons.mp h
    exact (hc _).append (ih hr)

theorem balanced_eventsUnder (n : Node) (parent) : Balanced (n.eventsUnder parent) := by
  induction n generalizing parent
  case mk l cs ih =>
    have hw : Balanced (eventsOfAll (mk l cs) cs) := balanced_eventsOfAll ih
    simp only [eventsUnder, eventsAt, kind_mk]
    cases l.kind.landmark?
    case none => simpa using hw
    case some => simpa using Balanced.call hw .nil

def event? (moment : Moment) (parent : Option Node) (n : Node) : Option Event :=
  n.kind.landmark?.map fun l => ⟨moment, l, n, parent⟩

-- The calls of a walk, each with the moment that it belongs to.
def callsUnder (parent : Option Node) (n : Node) : List (Mark × Event) :=
  gather (event? .entered) (event? .left) (fun _ n => some n) parent n

theorem toList_event? {n : Node} : (event? moment parent n).toList = eventsAt moment n parent := by
  simp only [event?, eventsAt]
  cases n.kind.landmark? <;> rfl

theorem eventsOfAll_eq_flatMap {n : Node} :
    eventsOfAll n cs = cs.flatMap (eventsUnder (some n)) := by
  induction cs <;> simp_all [eventsOfAll]

theorem map_snd_callsUnder (n : Node) (parent) :
    (n.callsUnder parent).map Prod.snd = n.eventsUnder parent := by
  induction n generalizing parent
  case mk l cs ih =>
    rw [callsUnder, map_snd_gather, eventsUnder, toList_event?, toList_event?,
      eventsOfAll_eq_flatMap, children_mk]
    congr 2
    exact List.flatMap_congr fun c hc => ih c hc (mk l cs)

theorem event?_eq_some_iff {n : Node} : event? moment parent n = some e ↔ n = e.node ∧
    e.node.kind.Known e.landmark ∧ e.moment = moment ∧ e.parent = parent := by
  rcases e with ⟨moment', l, m, parent'⟩
  simp only [event?, Option.map_eq_some_iff, NodeKind.landmark?_eq_some_iff, Event.mk.injEq]
  constructor
  case mp =>
    rintro ⟨l, hl, rfl, rfl, rfl, rfl⟩
    exact ⟨rfl, hl, rfl, rfl⟩
  case mpr =>
    rintro ⟨rfl, hl, rfl, rfl⟩
    exact ⟨l, hl, rfl, rfl, rfl, rfl⟩

-- The node right above the one at an address: in the tree, or else what it hangs from.
def parentAt? (n : Node) (outer : Option Node) (p : Address) : Option Node :=
  if p = [] then outer else n.at? p.dropLast

theorem parentAt?_cons {n c : Node} (h : n.children[i]? = some c) :
    n.parentAt? outer (i :: p) = c.parentAt? (some n) p := by
  cases p
  case nil  => simp [parentAt?]
  case cons => simp [parentAt?, at?, h]

theorem mem_callsUnder_iff {n : Node} {m : Mark} : (m, e) ∈ n.callsUnder parent ↔
    n.at? m.address = some e.node ∧ e.node.kind.Known e.landmark ∧
      e.moment = m.moment ∧ e.parent = n.parentAt? parent m.address := by
  induction n generalizing parent m
  case mk l cs ih =>
    rw [callsUnder]
    obtain rfl | rfl | ⟨i, m, rfl⟩ := m.cases
    case inl     => simp [mem_gather_entered_nil_iff, event?_eq_some_iff, parentAt?]
    case inr.inl => simp [mem_gather_left_nil_iff, event?_eq_some_iff, parentAt?]
    case inr.inr =>
      rw [mem_gather_under_iff, Mark.address_under, at?_cons_eq_some_iff]
      constructor
      case mp =>
        intro ⟨c, hc, hm⟩
        have ⟨hn, hl, he, hp⟩ := (ih c (List.mem_of_getElem? hc)).mp hm
        exact ⟨⟨c, hc, hn⟩, hl, he, hp.trans (parentAt?_cons hc).symm⟩
      case mpr =>
        intro ⟨⟨c, hc, hn⟩, hl, he, hp⟩
        have hm := (ih c (List.mem_of_getElem? hc)).mpr ⟨hn, hl, he, hp.trans (parentAt?_cons hc)⟩
        exact ⟨c, hc, hm⟩

end Node

-- Rows that stand in the order of their moments part at two of them.
theorem exists_between {rows : List (Mark × β)} (hs : rows.Pairwise (·.1.key < ·.1.key))
    (hx : x ∈ rows) (hy : y ∈ rows) (h : x.1.key < y.1.key) : ∃ before within after,
      rows = before ++ x :: within ++ y :: after ∧
      ∀ r ∈ rows, r ∈ within ↔ x.1.key < r.1.key ∧ r.1.key < y.1.key := by
  obtain ⟨before, rest, rfl⟩ := List.append_of_mem hx
  obtain ⟨-, hs, hbefore⟩ := List.pairwise_append.mp hs
  obtain ⟨hafter, hs⟩ := List.pairwise_cons.mp hs
  have hy : y ∈ rest := by
    obtain hy | hy := List.mem_append.mp hy
    case inl => exact absurd h (hbefore y hy x List.mem_cons_self).asymm
    case inr => exact (List.mem_cons.mp hy).resolve_left fun he => absurd h (he ▸ lt_irrefl _)
  obtain ⟨within, after, rfl⟩ := List.append_of_mem hy
  obtain ⟨-, hs, hwithin⟩ := List.pairwise_append.mp hs
  refine ⟨before, within, after, by simp, fun r hr => ⟨fun hr => ?inside, fun ⟨hl, hu⟩ => ?_⟩⟩
  case inside => exact ⟨hafter r (List.mem_append_left _ hr), hwithin r hr y List.mem_cons_self⟩
  simp only [List.mem_append, List.mem_cons] at hr
  obtain hr | rfl | hr | rfl | hr := hr
  · exact absurd hl (hbefore r hr x List.mem_cons_self).asymm
  · exact absurd hl (lt_irrefl _)
  · exact hr
  · exact absurd hu (lt_irrefl _)
  · exact absurd hu ((List.pairwise_cons.mp hs).1 r hr).asymm

-- The calls of a walk of `root`, each with the moment that it belongs to.
structure Walked (root : Node) (calls : List (Mark × Event)) : Prop where
  events : calls.map Prod.snd = root.events
  -- The nodes of known kinds are entered and left, and a visitor is told the node and its parent.
  calls_iff m e : (m, e) ∈ calls ↔ root.at? m.address = some e.node ∧
    e.node.kind.Known e.landmark ∧ e.moment = m.moment ∧
    e.parent = root.parentAt? none m.address
  -- Nothing else is told, and nothing else is passed over than the nodes of other kinds.
  known m e : (m, e) ∈ calls → ∀ tag, e.node.kind ≠ .other tag
  once : (calls.map Prod.fst).Nodup
  balanced : Balanced (calls.map Prod.snd)
  -- All that happens while a node is entered happens to what lies under it.
  nested p n : root.at? p = some n → (∀ tag, n.kind ≠ .other tag) →
    ∃ before e within e' after,
      calls = before ++ (⟨.entered, p⟩, e) :: within ++ (⟨.left, p⟩, e') :: after ∧
      ∀ c ∈ calls, c ∈ within ↔ Above p c.1.address
  preorder : (calls.filter (·.1.moment = .entered)).Pairwise (·.1.address < ·.1.address)
  postorder : (calls.filter (·.1.moment = .left)).Pairwise (LeftBefore ·.1.address ·.1.address)

theorem pairwise_callsUnder (n : Node) :
    (n.callsUnder parent).Pairwise (·.1.key < ·.1.key) :=
  n.gather_pairwise parent

-- The calls of one moment stand in the order in which the addresses are.
theorem filter_callsUnder_pairwise {n : Node} {moment : Moment} {R : Address → Address → Prop}
    (h : ∀ p q, Mark.key ⟨moment, p⟩ < Mark.key ⟨moment, q⟩ → R p q) :
    ((n.callsUnder parent).filter (·.1.moment = moment)).Pairwise (R ·.1.address ·.1.address) := by
  refine ((pairwise_callsUnder n).filter _).imp_of_mem fun {c d} hc hd hlt => ?_
  have hc : c.1.moment = moment := by simpa using (List.mem_filter.mp hc).2
  have hd : d.1.moment = moment := by simpa using (List.mem_filter.mp hd).2
  obtain ⟨⟨_, p⟩, _⟩ := c
  obtain ⟨⟨_, q⟩, _⟩ := d
  cases hc; cases hd
  exact h p q hlt

theorem walked_callsUnder (root : Node) : Walked root (root.callsUnder none) where
  events := root.map_snd_callsUnder none
  calls_iff _ _ := Node.mem_callsUnder_iff
  known _ _ he := (Node.mem_callsUnder_iff.mp he).2.1.ne_other
  once := by
    refine List.pairwise_map.mpr <| (pairwise_callsUnder root).imp fun hlt he => ?_
    exact absurd hlt (he ▸ lt_irrefl _)
  balanced := by
    rw [root.map_snd_callsUnder]
    exact root.balanced_eventsUnder none
  nested p n hn hk := by
    have ⟨l, hl⟩ := NodeKind.exists_known_iff.mpr hk
    have hcall moment : ((⟨moment, p⟩ : Mark), (⟨moment, l, n, root.parentAt? none p⟩ : Event)) ∈
        root.callsUnder none := Node.mem_callsUnder_iff.mpr ⟨hn, hl, rfl, rfl⟩
    have ⟨before, within, after, he, hw⟩ := exists_between (pairwise_callsUnder root)
      (hcall .entered) (hcall .left) Mark.key_entered_lt_left
    refine ⟨before, _, within, _, after, he, fun c hc => ?_⟩
    rw [hw c hc, Mark.between_iff_above]
  preorder := filter_callsUnder_pairwise fun _ _ => Mark.key_entered_lt_iff.mp
  postorder := filter_callsUnder_pairwise fun _ _ => Mark.key_left_lt_iff.mp

theorem walk_folds_calls (root : Node) : ∃ calls, Walked root calls ∧
    ∀ {σ : Type u} (v : Visitor σ) (s : σ), v.walk root s = (calls.map Prod.snd).foldl v.hear s := by
  refine ⟨_, walked_callsUnder root, fun v s => ?_⟩
  rw [root.map_snd_callsUnder]
  exact walkUnder_eq_foldl root none s

end ApiLens
