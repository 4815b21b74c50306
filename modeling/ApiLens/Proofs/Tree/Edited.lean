import ApiLens.Proofs.Json.Keys
import ApiLens.Proofs.Tree.Rows
import Mathlib.Data.List.Forall2

/-!
What becomes of the tree in a value when objects in the value are edited.

Of the value of a field a label takes only a few traits, and these lie so close to the surface that
an edit further down leaves them alone. So an edit reaches the tree at the node of its own object.
-/

namespace ApiLens

namespace Json

-- Objects of `v`, at any depth and as many as there are steps, have other fields in `w`. What one
-- object may have instead is for `R` to say.
inductive Edited (R : Fields → Fields → Prop) : Json → Json → Prop
  | refl : Edited R v v
  | trans : Edited R u v → Edited R v w → Edited R u w
  | here : R fields fields' → Edited R (obj fields) (obj fields')
  | field before key after : Edited R v w →
    Edited R (obj (before ++ (key, v) :: after)) (obj (before ++ (key, w) :: after))
  | item before after : Edited R v w →
    Edited R (arr (before ++ v :: after)) (arr (before ++ w :: after))

-- What is found where a node should be.
def found? (v : Json) : Option Found :=
  match Node.ofJson v with
  | .ok _ => none
  | .error e => some e.found

-- All that the label of an object takes from the value of a field of its.
structure Traits where
  found : Option Found
  text : Option String
  word : Option UInt32
  tag : Option String
  token : Option String
  tokens : List String
  span : Span

def traits (v : Json) : Traits where
  found := v.found?
  text := v.text?
  word := v.word?
  tag := (v.get? "kind").bind text?
  token := tokenText? v
  tokens := (v.items?.getD []).filterMap tokenText?
  span := Span.ofJson v

theorem isNull_eq (v : Json) : v.isNull = (v.traits.found == some .null) := by
  cases v
  case obj fields => simp only [traits, found?, Node.ofJson]; cases tag? fields <;> rfl
  all_goals rfl

-- Whatever is read from the value of the field looks the same in both.
def Fields.Match (fields fields' : Fields) (key : String) : Prop :=
  (fields.get? key).map traits = (fields'.get? key).map traits

namespace Fields

variable {fields fields' before after : Fields}

theorem Match.bind_eq (h : fields.Match fields' key) (f : Traits → Option α) :
    (fields.get? key).bind (f ∘ traits) = (fields'.get? key).bind (f ∘ traits) := by
  simpa [Option.bind_map] using congrArg (·.bind f) h

theorem Match.map_eq (h : fields.Match fields' key) (f : Traits → α) :
    (fields.get? key).map (f ∘ traits) = (fields'.get? key).map (f ∘ traits) := by
  simpa using congrArg (·.map f) h

theorem match_field (h : key = k → v.traits = w.traits) :
    Match (before ++ (k, v) :: after) (before ++ (k, w) :: after) key := by
  induction before
  case nil =>
    rw [Match, List.nil_append, List.nil_append, get?_cons, get?_cons]
    split
    case isTrue hk => simp [h hk]
    case isFalse   => rfl
  case cons f before ih =>
    rw [Match, List.cons_append, List.cons_append, get?_cons, get?_cons]
    split
    case isTrue  => rfl
    case isFalse => exact ih

end Fields

end Json

open Json (Fields)

section Label

variable {fields fields' : Fields}

theorem tag?_eq (h : fields.Match fields' "kind") : tag? fields = tag? fields' :=
  h.bind_eq Json.Traits.text

theorem TypeShape.ofFields_eq (h : fields.Match fields' "typeDescriptor") :
    ofFields fields = ofFields fields' := by
  have ht : (fields.get? "typeDescriptor").bind (fun v => (v.get? "kind").bind Json.text?) =
      (fields'.get? "typeDescriptor").bind (fun v => (v.get? "kind").bind Json.text?) :=
    h.bind_eq Json.Traits.tag
  simp only [ofFields, Option.bind_assoc, ht]

theorem NodeKind.ofTag_eq (h : fields.Match fields' "typeDescriptor") :
    ofTag tag fields = ofTag tag fields' := by
  simp only [ofTag, TypeShape.ofFields_eq h]

namespace Label

-- The keys of all fields that are read for a label, in the object of its node or in what the object
-- has under another of these keys.
def keys : List String :=
  ["kind", "position", "qualifierList", "visibilityQualifier", "metadata", "typeDescriptor",
    "functionName", "typeName", "className", "methodName", "value", "startLine", "startColumn",
    "endLine", "endColumn"]

-- A label that does not tell where its node stands.
def unplaced (l : Label) : Label := { l with span := .unknown }

theorem eq_of_unplaced_eq {l l' : Label} (h : l.unplaced = l'.unplaced) (hs : l.span = l'.span) :
    l = l' := by
  cases l; cases l'
  simp_all [unplaced]

theorem span_ofFields_eq (h : fields.Match fields' "position") :
    (ofFields tag fields).span = (ofFields tag fields').span :=
  congrArg (·.getD .unknown) (h.map_eq Json.Traits.span)

theorem unplaced_ofFields_eq (h : ∀ key ∈ keys, key ≠ "position" → fields.Match fields' key) :
    (ofFields tag fields).unplaced = (ofFields tag fields').unplaced := by
  have hd : ((fields.get? "metadata").map fun v => !v.isNull) =
      (fields'.get? "metadata").map fun v => !v.isNull := by
    simp only [Json.isNull_eq]
    exact (h _ (by decide) (by decide)).map_eq fun t => !(t.found == some .null)
  have hq : (((fields.get? "qualifierList").bind Json.items?).getD []).filterMap tokenText? =
      (((fields'.get? "qualifierList").bind Json.items?).getD []).filterMap tokenText? := by
    have ht (o : Option Json) : ((o.bind Json.items?).getD []).filterMap tokenText? =
        (o.map (Json.Traits.tokens ∘ Json.traits)).getD [] := by
      cases o <;> rfl
    rw [ht, ht, (h _ (by decide) (by decide)).map_eq]
  have ht key (hk : key ∈ keys ∧ key ≠ "position") :
      (fields.get? key).bind tokenText? = (fields'.get? key).bind tokenText? :=
    (h key hk.1 hk.2).bind_eq Json.Traits.token
  have hn : nameFields.findSome? (fun field => (fields.get? field).bind tokenText?) =
      nameFields.findSome? fun field => (fields'.get? field).bind tokenText? := by
    simp [nameFields, List.findSome?_cons, ht, keys]
  simp only [unplaced, ofFields, NodeKind.ofTag_eq (h _ (by decide) (by decide)), hd, hq, hn,
    ht "visibilityQualifier" (by decide)]

theorem ofFields_eq (h : ∀ key ∈ keys, fields.Match fields' key) :
    ofFields tag fields = ofFields tag fields' :=
  eq_of_unplaced_eq (unplaced_ofFields_eq fun key hk _ => h key hk)
    (span_ofFields_eq (h _ (by decide)))

end Label

end Label

namespace Json

open Node (within withinItems withinFields)

variable {fields fields' : Fields} {v w : Json}

theorem found?_obj_eq (h : fields.Match fields' "kind") :
    (obj fields).found? = (obj fields').found? := by
  simp only [found?, Node.ofJson, tag?_eq h]
  cases tag? fields' <;> rfl

theorem traits_obj_eq
    (h : ∀ key ∈ Label.keys, key ≠ "position" → fields.Match fields' key) :
    (obj fields).traits = (obj fields').traits := by
  have hk : fields.Match fields' "kind" := h _ (by decide) (by decide)
  have ht : ((obj fields).get? "kind").bind text? = ((obj fields').get? "kind").bind text? :=
    tag?_eq hk
  have hv : tokenText? (obj fields) = tokenText? (obj fields') :=
    (h "value" (by decide) (by decide)).bind_eq Traits.text
  have hn key (hk : key ∈ Label.keys ∧ key ≠ "position") :
      ((obj fields).get? key).bind word? = ((obj fields').get? key).bind word? :=
    (h key hk.1 hk.2).bind_eq Traits.word
  have hs : Span.ofJson (obj fields) = Span.ofJson (obj fields') := by
    simp [Span.ofJson, hn, Label.keys]
  simp only [traits, found?_obj_eq hk, ht, hv, hs, text?, word?, items?]

theorem traits_arr_eq (h : v.traits = w.traits) :
    (arr (before ++ v :: after)).traits = (arr (before ++ w :: after)).traits := by
  have ht : tokenText? v = tokenText? w := congrArg Traits.token h
  have hs : (before ++ v :: after).filterMap tokenText? =
      (before ++ w :: after).filterMap tokenText? := by
    simp [List.filterMap_cons, ht]
  simp only [traits, items?, Option.getD_some, hs]
  rfl

theorem withinItems_eq_flatMap : withinItems vs = vs.flatMap within := by
  induction vs <;> simp_all [withinItems]

theorem forall₂_trans {S : α → α → Prop} [IsTrans α S] (h₁ : List.Forall₂ S as bs)
    (h₂ : List.Forall₂ S bs cs) : List.Forall₂ S as cs := by
  induction h₁ generalizing cs
  case nil => exact h₂
  case cons hab _ ih =>
    cases h₂ with | cons hbc h₂ => exact .cons (IsTrans.trans _ _ _ hab hbc) (ih h₂)

section Edited

variable {S : Node → Node → Prop}

theorem forall₂_within_obj (ht : tag? fields = tag? fields')
    (h : ∀ tag, S (.ofFields tag fields) (.ofFields tag fields')) :
    List.Forall₂ S (within (obj fields)) (within (obj fields')) := by
  cases hf : tag? fields'
  case none => simp [within, ht, hf]
  case some tag =>
    simp only [within, ht, hf]
    exact .cons (h tag) .nil

theorem exists_of_ofJson (h : Node.ofJson v = .ok n) :
    ∃ fields tag, v = obj fields ∧ tag? fields = some tag ∧ n = .ofFields tag fields := by
  cases v
  case obj fields =>
    simp only [Node.ofJson] at h
    split at h
    case h_1 tag ht => cases h; exact ⟨fields, tag, rfl, ht, rfl⟩
    case h_2 => cases h
  all_goals cases h

theorem within_of_ofJson (h : Node.ofJson v = .ok n) : within v = [n] := by
  obtain ⟨fields, tag, rfl, ht, rfl⟩ := exists_of_ofJson h
  simp [within, ht, Node.ofFields]

theorem ofJson_rel (hf : v.found? = w.found?) (h : List.Forall₂ S (within v) (within w)) :
    (∃ e, Node.ofJson v = .error e ∧ Node.ofJson w = .error e) ∨
      ∃ n m, Node.ofJson v = .ok n ∧ Node.ofJson w = .ok m ∧ S n m := by
  cases hv : Node.ofJson v <;> cases hw : Node.ofJson w <;> simp [found?, hv, hw] at hf
  case error e e' =>
    have he : e = e' := by cases e; cases e'; simpa using hf
    exact .inl ⟨e, rfl, by rw [he]⟩
  case ok n m =>
    rw [within_of_ofJson hv, within_of_ofJson hw] at h
    exact .inr ⟨n, m, rfl, rfl, (List.forall₂_cons.mp h).1⟩

variable [Std.Refl S]

theorem forall₂_withinItems (h : List.Forall₂ S (within v) (within w)) :
    List.Forall₂ S (withinItems (before ++ v :: after)) (withinItems (before ++ w :: after)) := by
  simp only [withinItems_eq_flatMap, List.flatMap_append, List.flatMap_cons]
  exact List.rel_append (List.forall₂_refl _) <| List.rel_append h <| List.forall₂_refl _

variable [IsTrans Node S] {R : Fields → Fields → Prop}

-- What holds between the nodes of an object before and after it is edited holds between all nodes
-- of the value, if it passes from the children of a node to the node.
theorem Edited.reading (h : Edited R v w)
    (hnode : ∀ l cs ds, List.Forall₂ S cs ds → S (.mk l cs) (.mk l ds))
    (hedit : ∀ fields fields', R fields fields' →
      (obj fields).traits = (obj fields').traits ∧
        List.Forall₂ S (within (obj fields)) (within (obj fields'))) :
    v.traits = w.traits ∧ List.Forall₂ S (within v) (within w) := by
  induction h
  case refl  => exact ⟨rfl, List.forall₂_refl _⟩
  case trans ih₁ ih₂ => exact ⟨ih₁.1.trans ih₂.1, forall₂_trans ih₁.2 ih₂.2⟩
  case here hr => exact hedit _ _ hr
  case item ih => exact ⟨traits_arr_eq ih.1, forall₂_withinItems ih.2⟩
  case field v w before key after _ ih =>
    have hm key' : Fields.Match (before ++ (key, v) :: after) (before ++ (key, w) :: after) key' :=
      Fields.match_field fun _ => ih.1
    refine ⟨traits_obj_eq fun key' _ _ => hm key', forall₂_within_obj (tag?_eq (hm _)) fun tag => ?_⟩
    simp only [Node.ofFields, Label.ofFields_eq fun key' _ => hm key', Node.withinFields_eq,
      List.map_append, List.map_cons]
    exact hnode _ _ _ <| forall₂_withinItems ih.2

end Edited

end Json
end ApiLens
