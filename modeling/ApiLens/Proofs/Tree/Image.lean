import ApiLens.Declaration.Wire
import ApiLens.Proofs.Json.Decode
import ApiLens.Proofs.Tree.Mirrored
import ApiLens.Proofs.Tree.Edited

/-!
The trees that are the tree of some JSON value.

Every tree can be written as a value that it is read from again, unless a node in it has a kind that
no object gives it: a known tag for an unknown one, or a shape without the descriptor that tells it.
-/

namespace ApiLens

open Json (Fields)

-- The tag of the descriptor that makes a type definition one of the shape.
def TypeShape.descriptor? : TypeShape → Option String
  | record => some "RecordTypeDesc"
  | object => some "ObjectTypeDesc"
  | other  => none

namespace NodeKind

def toTag : NodeKind → String
  | modulePart             => "ModulePart"
  | functionDefinition     => "FunctionDefinition"
  | typeDefinition _       => "TypeDefinition"
  | classDefinition        => "ClassDefinition"
  | methodDeclaration      => "MethodDeclaration"
  | objectMethodDefinition => "ObjectMethodDefinition"
  | other tag              => tag

def knownTags : List String :=
  ["ModulePart", "FunctionDefinition", "TypeDefinition", "ClassDefinition", "MethodDeclaration",
    "ObjectMethodDefinition"]

-- What a node may be above children of these kinds.
structure Fits (kind : NodeKind) (children : List NodeKind) : Prop where
  unknown tag : kind = .other tag → tag ∉ knownTags
  described shape word : kind = .typeDefinition shape → shape.descriptor? = some word →
    .other word ∈ children

-- Whether a child tells the shape of its parent.
def describes (child parent : NodeKind) : Bool :=
  match parent with
  | typeDefinition shape => shape.descriptor?.any (child = .other ·)
  | _                    => false

end NodeKind

def Json.token (text : String) : Json := .obj [("value", .str text)]

-- None of the values has a tag, so that none of them is a child.
def Label.toFields (l : Label) : Fields :=
  [("kind", .str l.kind.toTag), ("position", l.span.toJson),
    ("metadata", if l.documented then .bool true else .null),
    ("qualifierList", .arr (l.qualifiers.map Json.token)),
    ("visibilityQualifier", .ofOption Json.token l.visibility),
    ("functionName", .ofOption Json.token l.name)]

namespace Node

-- The `i`th child stands where a descriptor does, and those around it keep their order.
def childFields (i : Nat) (children : List Json) : Fields :=
  [("leading", .arr (children.take i)), ("typeDescriptor", children[i]?.getD .null),
    ("following", .arr (children.drop (i + 1)))]

mutual

def toJson : Node → Json
  | mk l cs =>
    .obj (l.toFields ++ childFields (cs.findIdx (·.kind.describes l.kind)) (toJsonAll cs))

def toJsonAll : List Node → List Json
  | []        => []
  | n :: rest => toJson n :: toJsonAll rest

end

theorem toJsonAll_eq_map : toJsonAll cs = cs.map toJson := by
  induction cs <;> simp_all [toJsonAll]

end Node

section Read

variable {fields : Fields}

theorem Json.Fields.mem_of_get?_eq_some (h : fields.get? key = some v) : (key, v) ∈ fields := by
  have ⟨before, after, hf, _⟩ := List.lookup_eq_some_iff.mp h
  simp [hf]

theorem TypeShape.ofFields_eq_iff (h : shape.descriptor? = some word) :
    ofFields fields = shape ↔
      ((fields.get? "typeDescriptor").bind (·.get? "kind")).bind Json.text? = some word := by
  cases shape <;> cases h
  all_goals
    unfold ofFields
    split <;> simp_all

namespace NodeKind

theorem ofTag_toTag (hu : ∀ tag, kind = .other tag → tag ∉ knownTags)
    (hs : ∀ shape, kind = .typeDefinition shape → TypeShape.ofFields fields = shape) :
    ofTag kind.toTag fields = kind := by
  cases kind
  case typeDefinition shape => exact congrArg _ <| hs shape rfl
  case other tag =>
    have hu := hu tag rfl
    unfold ofTag toTag
    split <;> simp_all [knownTags]
  all_goals rfl

theorem not_mem_knownTags (h : ofTag tag fields = .other word) : word ∉ knownTags := by
  unfold ofTag at h
  split at h <;> cases h
  simp_all [knownTags]

theorem shape_of_ofTag (h : ofTag tag fields = .typeDefinition shape) :
    TypeShape.ofFields fields = shape := by
  unfold ofTag at h
  split at h <;> cases h
  rfl

-- A descriptor tells the shape by its tag, and for its tag it is a child itself.
theorem fits_ofTag : (ofTag tag fields).Fits ((Node.withinFields fields).map Node.kind) where
  unknown _ := not_mem_knownTags
  described shape word hk hw := by
    have hs := (TypeShape.ofFields_eq_iff hw).mp <| shape_of_ofTag hk
    obtain ⟨t, hs, ht⟩ := Option.bind_eq_some_iff.mp hs
    obtain ⟨v, hv, hs⟩ := Option.bind_eq_some_iff.mp hs
    obtain ⟨fields', hf, hs⟩ := Option.bind_eq_some_iff.mp hs
    cases v <;> cases hf
    have htag : tag? fields' = some word := Option.bind_eq_some_iff.mpr ⟨t, hs, ht⟩
    have hc : Node.ofFields word fields' ∈ Node.within (.obj fields') := by
      simp [Node.within, htag, Node.ofFields]
    have hm : .obj fields' ∈ fields.map Prod.snd :=
      List.mem_map.mpr ⟨_, Json.Fields.mem_of_get?_eq_some hv, rfl⟩
    rw [Node.withinFields_eq, Json.withinItems_eq_flatMap]
    refine List.mem_map.mpr ⟨.ofFields word fields', List.mem_flatMap.mpr ⟨_, hm, hc⟩, ?_⟩
    cases shape <;> cases hw <;> rfl

end NodeKind

theorem Node.exists_ofFields_of_at? (h : ofJson v = .ok root) (hp : root.at? p = some n) :
    ∃ tag fields, n = .ofFields tag fields := by
  obtain ⟨fields, tag, rfl, ht, rfl⟩ := Json.exists_of_ofJson h
  have ⟨j, hj⟩ := (Json.mirrors_treeRows ht).nodes p |>.mpr <| Option.isSome_of_eq_some hp
  have ⟨fields', tag', hn, _, _⟩ := Json.at?_of_mem_treeRows ht hj
  exact ⟨tag', fields', Option.some.inj <| hp.symm.trans hn⟩

end Read

section Written

theorem tokenText?_ofOption (o : Option String) : tokenText? (.ofOption Json.token o) = o := by
  cases o <;> rfl

theorem Json.word?_ofOption (o : Option UInt32) : (ofOption ofWord o).word? = o := by
  cases o
  case none   => rfl
  case some n => exact word?_eq_some_iff.mpr rfl

theorem Span.ofJson_toJson (s : Span) : ofJson s.toJson = s := by
  have hr (f : String) (o : Option UInt32) (h : s.toJson.get? f = some (.ofOption .ofWord o)) :
      (s.toJson.get? f).bind Json.word? = o := by
    rw [h, Option.bind_some, Json.word?_ofOption]
  rw [ofJson, hr _ s.startLine rfl, hr _ s.startColumn rfl, hr _ s.endLine rfl,
    hr _ s.endColumn rfl]

theorem Json.neat_ofOption {f : α → Json} (h : ∀ a, (f a).Neat) (o : Option α) :
    (ofOption f o).Neat := by
  cases o
  case none   => exact .null
  case some a => exact h a

theorem Json.neat_token : (Json.token text).Neat :=
  .obj (List.nodup_cons.mpr ⟨List.not_mem_nil, List.nodup_nil⟩) <|
    List.forall_mem_singleton.mpr .str

theorem Span.neat_toJson (s : Span) : s.toJson.Neat := by
  have hd : ["startLine", "startColumn", "endLine", "endColumn"].Nodup := by decide
  have ho (o : Option UInt32) : (Json.ofOption .ofWord o).Neat :=
    Json.neat_ofOption (fun _ => .num) o
  refine .obj hd ?_
  simp [ho]

namespace Node

variable {l : Label} {cs : List Node} {vs : List Json} {i : Nat}

theorem withinFields_append {fields fields' : Fields} :
    withinFields (fields ++ fields') = withinFields fields ++ withinFields fields' := by
  simp only [withinFields_eq, Json.withinItems_eq_flatMap, List.map_append, List.flatMap_append]

theorem withinFields_toFields : withinFields l.toFields = [] := by
  have ho o : within (.ofOption Json.token o) = [] := by cases o <;> rfl
  have hm : within (if l.documented then .bool true else .null) = [] := by split <;> rfl
  have hq : withinItems (l.qualifiers.map Json.token) = [] := by
    rw [Json.withinItems_eq_flatMap, List.flatMap_eq_nil_iff]
    exact List.forall_mem_map.mpr fun _ _ => rfl
  have hs : within l.span.toJson = [] := rfl
  simp [Label.toFields, withinFields, within, ho, hm, hq, hs]

theorem withinFields_childFields : withinFields (childFields i vs) = withinItems vs := by
  have hd : withinItems (vs.drop i) =
      within (vs[i]?.getD .null) ++ withinItems (vs.drop (i + 1)) := by
    cases hv : vs[i]?
    case none =>
      have hi := List.getElem?_eq_none_iff.mp hv
      rw [List.drop_eq_nil_of_le hi, List.drop_eq_nil_of_le (Nat.le_succ_of_le hi)]
      rfl
    case some v =>
      obtain ⟨hi, rfl⟩ := List.getElem?_eq_some_iff.mp hv
      rw [List.drop_eq_getElem_cons hi]
      rfl
  calc
    withinFields (childFields i vs) = withinItems (vs.take i) ++ withinItems (vs.drop i) := by
      simp [childFields, withinFields, within, hd]
    _ = withinItems vs := by
      simp only [Json.withinItems_eq_flatMap, ← List.flatMap_append, List.take_append_drop]

theorem get?_kind_toJson (n : Node) : n.toJson.get? "kind" = some (.str n.kind.toTag) := by
  cases n
  rfl

-- A descriptor is found where it is written, and nothing else is ever written there.
theorem shape_toFields (h : ∀ word, shape.descriptor? = some word → .other word ∈ cs.map kind) :
    TypeShape.ofFields (l.toFields ++
      childFields (cs.findIdx (·.kind.describes (.typeDefinition shape))) (cs.map toJson)) =
        shape := by
  set i := cs.findIdx (·.kind.describes (.typeDefinition shape)) with hi
  have hg : (l.toFields ++ childFields i (cs.map toJson)).get? "typeDescriptor" =
      some ((cs[i]?.map toJson).getD .null) := by
    rw [← List.getElem?_map]
    rfl
  cases hs : shape.descriptor?
  case none =>
    have hn : cs[i]? = none := by
      refine List.getElem?_eq_none_iff.mpr <| (List.findIdx_eq_length.mpr ?_).ge
      simp [NodeKind.describes, hs]
    cases shape <;> cases hs
    simp [TypeShape.ofFields, hg, hn, Json.get?, Json.fields?]
  case some word =>
    obtain ⟨c, hc, hk⟩ := List.mem_map.mp (h word hs)
    have hlt : i < cs.length :=
      List.findIdx_lt_length.mpr ⟨c, hc, by simp [NodeKind.describes, hs, hk]⟩
    have hd : cs[i].kind.describes (.typeDefinition shape) := List.findIdx_getElem (w := hlt)
    have hd : cs[i].kind = .other word := by simpa [NodeKind.describes, hs] using hd
    rw [TypeShape.ofFields_eq_iff hs, hg, List.getElem?_eq_getElem hlt]
    simp [get?_kind_toJson, hd, NodeKind.toTag, Json.text?]

theorem ofFields_toFields
    (h : NodeKind.ofTag l.kind.toTag (l.toFields ++ childFields i vs) = l.kind) :
    Label.ofFields l.kind.toTag (l.toFields ++ childFields i vs) = l := by
  set fields := l.toFields ++ childFields i vs
  have hs : ((fields.get? "position").map Span.ofJson).getD .unknown = l.span :=
    Span.ofJson_toJson l.span
  have hd : ((fields.get? "metadata").map fun v => !v.isNull).getD false = l.documented := by
    change (!(if l.documented then Json.bool true else .null).isNull) = l.documented
    cases l.documented <;> rfl
  have hq : (((fields.get? "qualifierList").bind Json.items?).getD []).filterMap tokenText? =
      l.qualifiers := by
    change (l.qualifiers.map Json.token).filterMap tokenText? = l.qualifiers
    rw [List.filterMap_map]
    exact List.filterMap_some
  have hv : (fields.get? "visibilityQualifier").bind tokenText? = l.visibility :=
    tokenText?_ofOption l.visibility
  have hn : Label.nameFields.findSome? (fun field => (fields.get? field).bind tokenText?) =
      l.name := by
    have hf : (fields.get? "functionName").bind tokenText? = l.name := tokenText?_ofOption l.name
    have hr : ["typeName", "className", "methodName"].findSome?
        (fun field => (fields.get? field).bind tokenText?) = none := rfl
    rw [Label.nameFields, List.findSome?_cons, hf, hr]
    cases l.name <;> rfl
  rw [Label.ofFields, h, hs, hd, hq, hv, hn]

theorem ofJson_toJson (n : Node)
    (h : ∀ p m, n.at? p = some m → m.kind.Fits (m.children.map Node.kind)) :
    ofJson n.toJson = .ok n := by
  induction n
  case mk l cs ih =>
    have ⟨hl, hc⟩ := forall_at?_mk_iff.mp h
    let fields := l.toFields ++ childFields (cs.findIdx (·.kind.describes l.kind)) (cs.map toJson)
    have hk : NodeKind.ofTag l.kind.toTag fields = l.kind :=
      NodeKind.ofTag_toTag hl.unknown fun shape hs => by
        have hd word : shape.descriptor? = some word → .other word ∈ cs.map kind :=
          hl.described shape word hs
        simpa only [fields, hs] using shape_toFields hd
    have hw : withinFields fields = cs := by
      have hw c (hm : c ∈ cs) : within c.toJson = [c] := Json.within_of_ofJson <| ih c hm <| hc c hm
      rw [withinFields_append, withinFields_toFields, withinFields_childFields, List.nil_append,
        Json.withinItems_eq_flatMap, List.flatMap_map, List.flatMap_congr hw,
        List.flatMap_singleton']
    have ht : tag? fields = some l.kind.toTag := rfl
    rw [toJson, toJsonAll_eq_map]
    simp only [ofJson, ht, ofFields, hw, fields, ofFields_toFields hk]

theorem neat_toJson (n : Node) : n.toJson.Neat := by
  induction n
  case mk l cs ih =>
    have hv : ∀ v ∈ toJsonAll cs, v.Neat := toJsonAll_eq_map ▸ List.forall_mem_map.mpr ih
    have hd : ["kind", "position", "metadata", "qualifierList", "visibilityQualifier",
      "functionName", "leading", "typeDescriptor", "following"].Nodup := by decide
    refine .obj hd <| List.forall_mem_append.mpr ⟨?label, ?children⟩
    case label =>
      have ho (o : Option String) : (Json.ofOption Json.token o).Neat :=
        Json.neat_ofOption (fun _ => Json.neat_token) o
      have hm : (if l.documented then Json.bool true else .null).Neat := by
        split
        case isTrue  => exact .bool
        case isFalse => exact .null
      have hq : ∀ v ∈ l.qualifiers.map Json.token, v.Neat :=
        List.forall_mem_map.mpr fun _ _ => Json.neat_token
      simp [Label.toFields, Span.neat_toJson, ho, hm, Json.Neat.str, Json.Neat.arr hq]
    case children =>
      have ht (i : Nat) : (Json.arr ((toJsonAll cs).take i)).Neat :=
        .arr fun v h => hv v <| List.mem_of_mem_take h
      have hr (i : Nat) : (Json.arr ((toJsonAll cs).drop i)).Neat :=
        .arr fun v h => hv v <| List.mem_of_mem_drop h
      have hg (i : Nat) : ((toJsonAll cs)[i]?.getD Json.null).Neat := by
        cases hi : (toJsonAll cs)[i]?
        case none   => exact .null
        case some v => exact hv v <| List.mem_of_getElem? hi
      simp only [childFields, List.forall_mem_cons]
      exact ⟨ht _, hg _, hr _, List.forall_mem_nil _⟩

end Node
end Written

theorem ofJson_image (root : Node) : (∃ v : Json, v.Neat ∧ Node.ofJson v = .ok root) ↔
    ∀ p n, root.at? p = some n → n.kind.Fits (n.children.map Node.kind) := by
  constructor
  case mp =>
    intro ⟨v, _, hv⟩ p n hn
    obtain ⟨tag, fields, rfl⟩ := Node.exists_ofFields_of_at? hv hn
    exact NodeKind.fits_ofTag
  case mpr => exact fun h => ⟨root.toJson, root.neat_toJson, root.ofJson_toJson h⟩

end ApiLens
