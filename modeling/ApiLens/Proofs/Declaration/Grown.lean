import ApiLens.Proofs.Declaration.Composed

/-!
What more documentation, visibility, names and members do to the declarations of a tree: nothing to
those that are there.
-/

namespace ApiLens

-- The same place of the source, with at least the documentation, the visibility and the name.
structure Label.Grown (l l' : Label) : Prop where
  kind : l'.kind = l.kind
  span : l'.span = l.span
  name s : l.name = some s → l'.name = some s
  documented : l.documented → l'.documented
  isPublic : l.isPublic → l'.isPublic

namespace Label.Grown

variable {l l' l'' : Label}

theorem refl (l : Label) : l.Grown l := ⟨rfl, rfl, fun _ => id, id, id⟩

theorem trans (h : l.Grown l') (h' : l'.Grown l'') : l.Grown l'' where
  kind := h'.kind.trans h.kind
  span := h'.span.trans h.span
  name s := h'.name s ∘ h.name s
  documented := h'.documented ∘ h.documented
  isPublic := h'.isPublic ∘ h.isPublic

theorem isApi (h : l.Grown l') (ha : l.isApi) : l'.isApi := by
  simp only [Label.isApi, Bool.and_eq_true] at *
  exact ⟨h.isPublic ha.1, h.documented ha.2⟩

theorem isSome_name (h : l.Grown l') (hn : l.name.isSome) : l'.name.isSome := by
  have ⟨s, hs⟩ := Option.isSome_iff_exists.mp hn
  exact Option.isSome_of_eq_some (h.name s hs)

end Label.Grown

-- The moment at which the node is entered or left that a new address is given to.
def Mark.move (f : Address → Address) (m : Mark) : Mark := ⟨m.moment, f m.address⟩

-- New numbers for children, and what lies under each of them is renumbered by itself.
def Address.renumber (g : Nat → Nat) (f : Nat → Address → Address) : Address → Address
  | []     => []
  | i :: p => g i :: f i p

theorem Mark.move_renumber_under {m : Mark} :
    (m.under i).move (Address.renumber g f) = (m.move (f i)).under (g i) := rfl

-- New addresses that keep how deep nodes lie, and the order of all moments of a walk.
structure Renumbers (f : Address → Address) : Prop where
  depth p : (f p).length = p.length
  ordered m m' : Mark.key m < Mark.key m' → (m.move f).key < (m'.move f).key

theorem renumbers_id : Renumbers id := ⟨fun _ => rfl, fun _ _ => id⟩

theorem Renumbers.comp (h' : Renumbers f') (h : Renumbers f) : Renumbers (f' ∘ f) where
  depth p := (h'.depth _).trans (h.depth p)
  ordered m m' := h'.ordered _ _ ∘ h.ordered m m'

theorem renumbers_renumber (hg : StrictMono g) (hf : ∀ i, Renumbers (f i)) :
    Renumbers (Address.renumber g f) where
  depth
    | []     => rfl
    | i :: p => congrArg (· + 1) ((hf i).depth p)
  ordered m m' h := by
    obtain rfl | rfl | ⟨i, m, rfl⟩ := m.cases <;> obtain rfl | rfl | ⟨j, m', rfl⟩ := m'.cases
    case inr.inr.inr.inr =>
      simp only [Mark.move_renumber_under, Mark.key_under, List.cons_lt_cons_iff,
        WithTop.coe_lt_coe, WithTop.coe_inj] at h ⊢
      obtain h | ⟨rfl, h⟩ := h
      · exact .inl (hg h)
      · exact .inr ⟨rfl, (hf i).ordered _ _ h⟩
    case inl.inr.inr => exact ((m'.move (f j)).key_under_between (i := g j)).1
    case inr.inr.inr.inl => exact ((m.move (f i)).key_under_between (i := g i)).2
    case inr.inr.inl => exact absurd (Mark.key_under_between _).1 h.asymm
    case inr.inl.inr.inr => exact absurd (Mark.key_under_between _).2 h.asymm
    all_goals exact h

theorem Renumbers.above (h : Renumbers f) (ha : Above p q) : Above (f p) (f q) := by
  have ⟨hl, hr⟩ := (Mark.between_iff_above (m := ⟨.entered, q⟩)).mpr ha
  exact (Mark.between_iff_above (m := ⟨.entered, f q⟩)).mp ⟨h.ordered _ _ hl, h.ordered _ _ hr⟩

namespace Node

-- A tree after labels have grown and children have been added, at any depth.
inductive Grown : Node → Node → Prop
  | refl : Grown n n
  | trans : Grown n m → Grown m k → Grown n k
  | label : l.Grown l' → Grown (mk l cs) (mk l' cs)
  | insert before : Grown (mk l (before ++ after)) (mk l (before ++ c :: after))
  | child before : Grown c d → Grown (mk l (before ++ c :: after)) (mk l (before ++ d :: after))

-- The nodes of `n` are in `n'`, where `f` tells. Each has what it had, lies directly in the same one
-- and is entered and left in the same order.
structure Embeds (f : Address → Address) (n n' : Node) : Prop where
  label p k : n.at? p = some k → ∃ k', n'.at? (f p) = some k' ∧ k.label.Grown k'.label
  depth p : (f p).length = p.length
  above p q : Above p q → Above (f p) (f q)
  ordered m m' : Mark.key m < Mark.key m' → (m.move f).key < (m'.move f).key

-- The nodes of `n` are in `n'`, and the walk finds there what it found.
structure Keeps (f : Address → Address) (n n' : Node) : Prop where
  renumbers : Renumbers f
  label p k : n.at? p = some k → ∃ k', n'.at? (f p) = some k' ∧ k.label.Grown k'.label
  counts policy : n.counts policy → n'.counts policy
  recorded moduleName policy inside m d :
    (m, d) ∈ n.rows moduleName policy inside → (m.move f, d) ∈ n'.rows moduleName policy inside

variable {n n' n'' : Node}

theorem Keeps.embeds (h : Keeps f n n') : Embeds f n n' where
  label := h.label
  depth := h.renumbers.depth
  above _ _ := h.renumbers.above
  ordered := h.renumbers.ordered

theorem keeps_id : Keeps id n n where
  renumbers := renumbers_id
  label _ k hk := ⟨k, hk, .refl _⟩
  counts _ := id
  recorded _ _ _ _ _ := id

theorem Keeps.trans (h : Keeps f n n') (h' : Keeps f' n' n'') : Keeps (f' ∘ f) n n'' where
  renumbers := h'.renumbers.comp h.renumbers
  label p a ha := by
    have ⟨b, hb, hab⟩ := h.label p a ha
    have ⟨c, hc, hbc⟩ := h'.label _ b hb
    exact ⟨c, hc, hab.trans hbc⟩
  counts policy := h'.counts policy ∘ h.counts policy
  recorded _ _ _ _ _ := h'.recorded _ _ _ _ _ ∘ h.recorded _ _ _ _ _

section Mk

variable {l l' : Label} {cs cs' : List Node} {g : Nat → Nat}

theorem isMember_mk (hl : l.Grown l') (h : isMember policy (mk l cs)) :
    isMember policy (mk l' cs') := by
  have ha := hl.isApi
  have hd := hl.documented
  have hp := hl.isPublic
  simp only [isMember, kind_mk, hl.kind, label_mk] at h ⊢
  cases hk : l.kind <;> simp_all
  case functionDefinition => exact h.2.imp hp id

theorem functionRecord?_mk (hl : l.Grown l')
    (h : functionRecord? moduleName inside (mk l cs) = some d) :
    functionRecord? moduleName inside (mk l' cs') = some d := by
  rw [functionRecord?_eq_some_iff] at h ⊢
  obtain ⟨hk, hi, ha, name, hn, rfl⟩ := h
  exact ⟨hl.kind.trans hk, hi, hl.isApi ha, name, hl.name _ hn, by rw [label_mk, hl.span]; rfl⟩

theorem containerRecord?_mk (hl : l.Grown l') (hc : anyCounts policy cs → anyCounts policy cs')
    (h : containerRecord? moduleName policy (mk l cs) = some d) :
    containerRecord? moduleName policy (mk l' cs') = some d := by
  rw [containerRecord?_eq_some_iff] at h ⊢
  obtain ⟨hlist, name, category, hn, hk, rfl⟩ := h
  have he : (mk l' cs').kind = (mk l cs).kind := hl.kind
  have hlist' : Listed policy (mk l' cs') := hlist.imp he hl.isSome_name hl.isApi hc
  exact ⟨hlist', name, category, hl.name _ hn, he ▸ hk, by rw [label_mk, hl.span]; rfl⟩

-- A node keeps what it has if its label does and each of its children, under a new number.
theorem keeps_mk (hl : l.Grown l') (hg : StrictMono g) (hf : ∀ i, Renumbers (f i))
    (hc : ∀ i c, cs[i]? = some c → ∃ c', cs'[g i]? = some c' ∧ Keeps (f i) c c') :
    Keeps (Address.renumber g f) (mk l cs) (mk l' cs') := by
  have hcs policy : anyCounts policy cs → anyCounts policy cs' := by
    refine anyCounts_imp fun c hm h => ?_
    have ⟨i, hi⟩ := List.mem_iff_getElem?.mp hm
    have ⟨c', hi', hk⟩ := hc i c hi
    exact ⟨c', List.mem_of_getElem? hi', hk.counts policy h⟩
  refine ⟨renumbers_renumber hg hf, fun p k hp => ?label, fun policy => ?counts,
    fun moduleName policy inside m d hm => ?recorded⟩
  case label =>
    cases p
    case nil => cases hp; exact ⟨mk l' cs', rfl, hl⟩
    case cons i p =>
      have ⟨c, hi, hp⟩ := at?_cons_eq_some_iff.mp hp
      have ⟨c', hi', hk⟩ := hc i c hi
      have ⟨k', hp', hkk'⟩ := hk.label p k hp
      exact ⟨k', at?_cons_eq_some_iff.mpr ⟨c', hi', hp'⟩, hkk'⟩
  case counts =>
    exact counts_imp hl.kind hl.isSome_name hl.isApi (isMember_mk hl) (hcs policy)
  case recorded =>
    obtain rfl | rfl | ⟨i, m, rfl⟩ := m.cases
    case inl =>
      rw [mem_rows_entered_nil_iff] at hm
      exact mem_rows_entered_nil_iff.mpr <| functionRecord?_mk hl hm
    case inr.inl =>
      rw [mem_rows_left_nil_iff] at hm
      exact mem_rows_left_nil_iff.mpr <| containerRecord?_mk hl (hcs policy) hm
    case inr.inr =>
      have ⟨c, hi, hm⟩ := mem_rows_under_iff.mp hm
      have ⟨c', hi', hk⟩ := hc i c hi
      rw [Mark.move_renumber_under, mem_rows_under_iff, kind_mk, hl.kind]
      exact ⟨c', hi', hk.recorded _ _ _ _ _ hm⟩

theorem exists_keeps_mk (hl : l.Grown l') (hg : StrictMono g)
    (hc : ∀ i c, cs[i]? = some c → ∃ c', cs'[g i]? = some c' ∧ ∃ f, Keeps f c c') :
    ∃ f, Keeps f (mk l cs) (mk l' cs') := by
  have hf i : ∃ f, Renumbers f ∧
      ∀ c, cs[i]? = some c → ∃ c', cs'[g i]? = some c' ∧ Keeps f c c' := by
    cases hi : cs[i]?
    case none => exact ⟨id, renumbers_id, by simp⟩
    case some c =>
      have ⟨c', hi', f, hk⟩ := hc i c hi
      exact ⟨f, hk.renumbers, fun _ he => ⟨c', hi', by cases he; exact hk⟩⟩
  choose f hf using hf
  exact ⟨_, keeps_mk hl hg (fun i => (hf i).1) fun i => (hf i).2⟩

end Mk

theorem Grown.exists_keeps (h : n.Grown n') : ∃ f, Keeps f n n' := by
  induction h
  case refl => exact ⟨id, keeps_id⟩
  case trans ih₁ ih₂ =>
    have ⟨_, h₁⟩ := ih₁
    have ⟨_, h₂⟩ := ih₂
    exact ⟨_, h₁.trans h₂⟩
  case label hl => exact exists_keeps_mk hl strictMono_id fun _ c hi => ⟨c, hi, id, keeps_id⟩
  case insert after c before =>
    let g (i : Nat) := if i < before.length then i else i + 1
    have hg : StrictMono g := fun i j (h : i < j) => by grind
    exact exists_keeps_mk (.refl _) hg fun i e hi => ⟨e, by grind, id, keeps_id⟩
  case child d l after before _ ih =>
    have ⟨f, hk⟩ := ih
    refine exists_keeps_mk (.refl _) strictMono_id fun i e hi => ?_
    by_cases h : i = before.length
    case neg => exact ⟨e, by grind, id, keeps_id⟩
    case pos =>
      subst h
      rw [List.getElem?_append_right le_rfl, Nat.sub_self] at hi
      cases hi
      exact ⟨d, by simp, f, hk⟩

end Node

-- What was declared still is, for the nodes that were there and in the same order.
theorem growth_keeps_declarations {n n' : Node} (h : n.Grown n') : ∃ f, Node.Embeds f n n' ∧
    ∀ moduleName policy, ∃ rows rows', Timeline moduleName policy n rows ∧
      Timeline moduleName policy n' rows' ∧
      (rows.map fun r => (r.1.move f, r.2)).Sublist rows' ∧
      (declarations moduleName policy n).Sublist (declarations moduleName policy n') := by
  have ⟨f, hk⟩ := h.exists_keeps
  refine ⟨f, hk.embeds, fun moduleName policy => ?_⟩
  have hn := timeline_rows moduleName policy n
  have hn' := timeline_rows moduleName policy n'
  have hs : ((n.rows moduleName policy false).map fun r => (r.1.move f, r.2)).Sublist
      (n'.rows moduleName policy false) := by
    refine sublist_of_subset ?ordered hn'.ordered fun _ hr => ?subset
    case ordered =>
      exact List.pairwise_map.mpr <| hn.ordered.imp fun hlt => hk.renumbers.ordered _ _ hlt
    case subset =>
      have ⟨r, hr, he⟩ := List.mem_map.mp hr
      exact he ▸ hk.recorded _ _ _ _ _ hr
  refine ⟨_, _, hn, hn', hs, ?_⟩
  rw [← hn.declarations, ← hn'.declarations]
  simpa [Function.comp_def] using hs.map Prod.snd

-- A class with a record in it that has no name, and a function.
def seedling : Node :=
  .mk (publicLabel .modulePart "p") [
    .mk { publicLabel .classDefinition "c" with documented := false }
      [.mk { publicLabel (.typeDefinition .record) "r" with name := none } []],
    .mk (publicLabel .functionDefinition "f") []]

-- The record has a name, so that the class is listed too, and there is one more function.
def sapling : Node :=
  .mk (publicLabel .modulePart "p") [
    .mk (publicLabel .functionDefinition "g") [],
    .mk { publicLabel .classDefinition "c" with documented := false }
      [.mk (publicLabel (.typeDefinition .record) "r") []],
    .mk (publicLabel .functionDefinition "f") []]

theorem grown_sapling : seedling.Grown sapling := by
  refine .trans (.child [] <| .child [] <| .label ?_) (.insert [])
  exact ⟨rfl, rfl, by simp, id, id⟩

theorem growth_keeps_declarations_sapling : seedling.Grown sapling ∧
    (declarations "m" {} seedling).map (·.displayName) = ["f"] ∧
    (declarations "m" {} sapling).map (·.displayName) = ["g", "r", "c", "f"] ∧
    (declarations "m" {} seedling).Sublist (declarations "m" {} sapling) := by
  have ⟨_, _, h⟩ := growth_keeps_declarations grown_sapling
  have ⟨_, _, _, _, _, hs⟩ := h "m" {}
  exact ⟨grown_sapling, by decide, by decide, hs⟩

end ApiLens
