import ApiLens.Proofs.Tree.Edited

/-!
Fields that the tree of a value does not depend on.

A field whose key is never read matters only for the nodes in its value. With none in it, the field
may as well be missing, or hold another such value.
-/

namespace ApiLens

namespace Json

open Node (within withinItems)

-- No node is found in the value. An object without a tag may hold what it likes, it hides it all.
inductive Inert : Json → Prop
  | null : Inert null
  | bool : Inert (bool b)
  | num  : Inert (num n)
  | str  : Inert (str s)
  | obj  : ¬(obj fields).Tagged → Inert (obj fields)
  | arr  : (∀ v ∈ vs, Inert v) → Inert (arr vs)

theorem Inert.within_eq_nil (h : Inert v) : within v = [] := by
  induction h
  case obj ht => exact within_of_untagged ⟨_, rfl⟩ ht
  case arr ih =>
    rw [within, withinItems_eq_flatMap]
    exact List.flatMap_eq_nil_iff.mpr ih
  all_goals rfl

namespace Fields

-- One field that no label is read from is new, has gone or has another value.
inductive Varied : Fields → Fields → Prop
  | add before after : key ∉ Label.keys → v.Inert →
    Varied (before ++ after) (before ++ (key, v) :: after)
  | remove before after : key ∉ Label.keys → v.Inert →
    Varied (before ++ (key, v) :: after) (before ++ after)
  | replace before after : key ∉ Label.keys → v.Inert → w.Inert →
    Varied (before ++ (key, v) :: after) (before ++ (key, w) :: after)

-- A label is read alike from both, and the same nodes are found in both.
structure Agree (fields fields' : Fields) : Prop where
  read : ∀ key ∈ Label.keys, fields.Match fields' key
  nodes : withinItems (fields.map Prod.snd) = withinItems (fields'.map Prod.snd)

variable {fields fields' fields'' before after : Fields}

theorem Agree.symm (h : fields.Agree fields') : fields'.Agree fields where
  read key hk := (h.read key hk).symm
  nodes := h.nodes.symm

theorem Agree.trans (h : fields.Agree fields') (h' : fields'.Agree fields'') :
    fields.Agree fields'' where
  read key hk := (h.read key hk).trans (h'.read key hk)
  nodes := h.nodes.trans h'.nodes

theorem agree_insert (hk : key ∉ Label.keys) (hv : v.Inert) :
    (before ++ (key, v) :: after).Agree (before ++ after) where
  read key' hk' := by
    have hne : key' ≠ key := fun he => hk (he ▸ hk')
    rw [Match, get?_insert_of_ne hne]
  nodes := by simp [withinItems_eq_flatMap, hv.within_eq_nil]

theorem Varied.agree (h : fields.Varied fields') : fields.Agree fields' := by
  cases h
  case add hk hv        => exact (agree_insert hk hv).symm
  case remove hk hv     => exact agree_insert hk hv
  case replace hk hv hw => exact (agree_insert hk hv).trans (agree_insert hk hw).symm

theorem Agree.ofFields_eq (h : fields.Agree fields') (tag) :
    Node.ofFields tag fields = Node.ofFields tag fields' := by
  simp only [Node.ofFields, Label.ofFields_eq h.read, Node.withinFields_eq, h.nodes]

end Fields

-- Objects of a value have other fields that are not read. They may have a tag or not.
def Varied : Json → Json → Prop := Edited Fields.Varied

theorem Varied.reading {v w : Json} (h : v.Varied w) :
    v.traits = w.traits ∧ List.Forall₂ Eq (within v) (within w) := by
  refine Edited.reading h (fun l cs ds hc => ?node) fun fields fields' hf => ?edit
  case node =>
    rw [List.forall₂_eq_eq_eq] at hc
    rw [hc]
  case edit =>
    have ha := hf.agree
    refine ⟨traits_obj_eq fun key hk _ => ha.read key hk, ?_⟩
    exact forall₂_within_obj (tag?_eq <| ha.read _ (by decide)) ha.ofFields_eq

end Json

theorem unread_fields {v w : Json} (h : v.Varied w) : Node.ofJson v = Node.ofJson w := by
  have ⟨ht, hw⟩ := h.reading
  obtain ⟨e, hv, hw⟩ | ⟨n, m, hv, hw, rfl⟩ := Json.ofJson_rel (congrArg Json.Traits.found ht) hw
  all_goals rw [hv, hw]

-- A class that is hidden by an object without a tag.
def hiddenClass : Json := .obj [("inside", .obj [("kind", .str "ClassDefinition")])]

theorem inert_hiddenClass : hiddenClass.Inert := by
  refine .obj fun h => ?_
  simp [Json.tagged_obj_iff, tag?, Json.Fields.get?, List.lookup_cons] at h

-- A function with a note, and again with marks on its documentation and a comment on its name.
def notedFunction : Json :=
  .obj [("kind", .str "FunctionDefinition"), ("note", hiddenClass),
    ("metadata", .obj [("kind", .str "Metadata")]),
    ("functionName", .obj [("kind", .str "IdentifierToken"), ("value", .str "f"),
      ("comment", .null)])]

def markedFunction : Json :=
  .obj [("kind", .str "FunctionDefinition"),
    ("metadata", .obj [("kind", .str "Metadata"),
      ("marks", .arr [.bool true, .arr [hiddenClass]])]),
    ("functionName", .obj [("kind", .str "IdentifierToken"), ("value", .str "f"),
      ("comment", hiddenClass)])]

theorem varied_notedFunction : notedFunction.Varied markedFunction := by
  have hm : (Json.arr [.bool true, .arr [hiddenClass]]).Inert :=
    .arr <| by simp [Json.Inert.bool, Json.Inert.arr, inert_hiddenClass]
  refine .trans (.here <| .remove [("kind", _)] _ ?_ inert_hiddenClass) <|
    .trans (.field [("kind", _)] "metadata" _ <| .here <| .add [("kind", _)] [] ?_ hm) <|
      .field [("kind", _), ("metadata", _)] "functionName" [] <| .here <|
        .replace [("kind", _), ("value", _)] [] ?_ .null inert_hiddenClass
  all_goals decide

theorem unread_fields_notedFunction : notedFunction.Varied markedFunction ∧
    ∃ root, Node.ofJson notedFunction = .ok root ∧ Node.ofJson markedFunction = .ok root ∧
      root.children.map (·.kind) = [.other "Metadata", .other "IdentifierToken"] := by
  refine ⟨varied_notedFunction, _, rfl, ?_, rfl⟩
  rw [← unread_fields varied_notedFunction]
  rfl

end ApiLens
