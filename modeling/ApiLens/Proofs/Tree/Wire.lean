import ApiLens.Proofs.Tree.Response

/-!
Trees and the documents that they are of come back as they were sent.

Only a tree that is null is lost on the way, and that was none to begin with.
-/

namespace ApiLens

open Json (Fields)

-- The URI is read again from its text.
def Uri.IsStable (u : Uri) : Prop := Uri.parse u.text = .ok u

namespace TreeResponse

variable {r s : TreeResponse}

-- The response as it comes back.
def received (r : TreeResponse) : TreeResponse := { r with tree := r.tree.filter (!·.isNull) }

theorem received_eq (h : r.tree ≠ some .null) : r.received = r := by
  obtain ⟨success, _ | tree⟩ := r
  case none => rfl
  case some =>
    cases tree
    case null => exact absurd rfl h
    all_goals rfl

theorem root_received : r.received.root = r.root := by
  obtain ⟨success, _ | tree⟩ := r
  case none => rfl
  case some => cases tree <;> rfl

theorem fields_received : r.received.fields = r.fields := by
  obtain ⟨success, _ | tree⟩ := r
  case none => rfl
  case some => cases tree <;> rfl

theorem decode_fields :
    r.fields.foldlM (fun r (key, v) => r.step key v) ({} : TreeResponse) = .ok r.received := by
  obtain ⟨success, tree⟩ := r
  have hs : Decoder.option .bool (.ofOption .bool success) = .ok success :=
    Decoder.option_ofOption (fun _ _ => rfl) (by simp)
  have ht : Decoder.option .any (.ofOption id tree) = .ok (tree.filter (!·.isNull)) := by
    cases tree
    case none => rfl
    case some v => cases v <;> rfl
  simp only [fields, List.foldlM_cons, List.foldlM_nil, step, hs, ht]
  rfl

-- Null is read as none.
theorem tree_step (h : r.step key v = .ok s) (hr : r.tree ≠ some .null) : s.tree ≠ some .null := by
  by_cases ht : key = "syntaxTree"
  case pos =>
    obtain ⟨hv, -⟩ := step_syntaxTree_iff.mp (ht ▸ h)
    intro hn
    rw [hn] at hv
    cases v <;> cases hv
  case neg =>
    by_cases hp : key = "parseSuccess"
    case pos => rwa [(step_parseSuccess_iff.mp (hp ▸ h)).2]
    case neg =>
      cases (step_of_other hp ht).symm.trans h
      exact hr

end TreeResponse

namespace TreeParams

variable {p : TreeParams} {before after : Fields}

theorem decode_toJson (h : p.uri.IsStable) :
    decode p.toJson = .ok ⟨p.uri, p.response.received⟩ := by
  have hu : Decoder.uri (.str p.uri.text) = .ok p.uri := by rw [Decoder.uri, h]
  exact decode_obj_eq_ok_iff.mpr ⟨_, rfl, hu, TreeResponse.decode_fields⟩

theorem tree_of_decode (h : decode v = .ok p) : p.response.tree ≠ some .null := by
  cases v
  case obj fields =>
    obtain ⟨_, -, -, hr⟩ := decode_obj_eq_ok_iff.mp h
    have h0 : ({} : TreeResponse).tree ≠ some .null := nofun
    exact preserved_of_foldlM (P := fun r : TreeResponse => r.tree ≠ some .null)
      (fun r key v s (h : r.step key v = .ok s) => TreeResponse.tree_step h) h0 hr
  all_goals cases h

theorem decode_insert (hk : key ∉ ["uri", "parseSuccess", "syntaxTree"]) :
    decode (.obj (before ++ (key, v) :: after)) = decode (.obj (before ++ after)) := by
  obtain ⟨hu, hp, ht⟩ : key ≠ "uri" ∧ key ≠ "parseSuccess" ∧ key ≠ "syntaxTree" := by
    simpa using hk
  have hs (r : TreeResponse) : r.step key v = .ok r := TreeResponse.step_of_other hp ht
  simp only [decode, Fields.get?_insert_of_ne hu.symm, List.foldlM_append, List.foldlM_cons, hs]
  rfl

theorem toJson_received : toJson ⟨p.uri, p.response.received⟩ = p.toJson := by
  rw [toJson, TreeResponse.fields_received, toJson]

-- What was read comes back as it is, and all else with the same meaning, written alike from there
-- on. What stands beside the three fields does not count.
theorem params_restored :
    (∀ v p, decode v = .ok p → p.uri.IsStable → decode p.toJson = .ok p) ∧
    (∀ p : TreeParams, p.uri.IsStable → ∃ q, decode p.toJson = .ok q ∧ q.uri = p.uri ∧
      q.response.parseSuccess = p.response.parseSuccess ∧ q.response.root = p.response.root ∧
      q.toJson = p.toJson) ∧
    ∀ before after key v, key ∉ ["uri", "parseSuccess", "syntaxTree"] →
      decode (.obj (before ++ (key, v) :: after)) = decode (.obj (before ++ after)) := by
  refine ⟨fun v p hv hu => ?read, fun p hu => ?made, fun _ _ _ _ => decode_insert⟩
  case read => rw [decode_toJson hu, TreeResponse.received_eq (tree_of_decode hv)]
  case made => exact ⟨_, decode_toJson hu, rfl, rfl, TreeResponse.root_received, toJson_received⟩

-- What an editor sends of the document `/w/a b`, with a note of its own.
def noted : Fields := [("uri", .str "file:///w/a b")] ++ ("note", .arr []) ::
  [("syntaxTree", .obj [("kind", .str "ModulePart")]), ("parseSuccess", .null)]

-- Of the same document a tree that is null.
def blank : TreeParams where
  uri := ⟨"file", some ⟨"", .absent, none⟩, .segments ["w", "a%20b"], none, none⟩
  response := { parseSuccess := some true, tree := some .null }

theorem params_restored_noted : ∃ p q, decode (.obj noted) = .ok p ∧ p.response.tree.isSome ∧
    decode p.toJson = .ok p ∧ p.uri = blank.uri ∧
    decode blank.toJson = .ok q ∧ q.uri = blank.uri ∧ q.response.root = .ok none := by
  have ⟨read, made, unread⟩ := params_restored
  have hu : blank.uri.IsStable := by with_unfolding_all rfl
  have ⟨q, hq, he, _, hr, _⟩ := made blank hu
  have ⟨p, hp, ht, hpu⟩ : ∃ p, decode (.obj ([("uri", .str "file:///w/a b")] ++
      [("syntaxTree", .obj [("kind", .str "ModulePart")]), ("parseSuccess", .null)])) = .ok p ∧
      p.response.tree.isSome ∧ p.uri = blank.uri :=
    ⟨⟨blank.uri, none, some (.obj [("kind", .str "ModulePart")])⟩,
      by with_unfolding_all rfl, rfl, rfl⟩
  have hn : decode (.obj noted) = .ok p := (unread _ _ _ _ (by decide)).trans hp
  exact ⟨p, q, hn, ht, read _ p hn (hpu ▸ hu), hpu, hq, he, hr.trans rfl⟩

end TreeParams

end ApiLens
