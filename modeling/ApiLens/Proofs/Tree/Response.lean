import ApiLens.Proofs.Json.Decode
import ApiLens.Proofs.Json.Keys
import ApiLens.Tree.Response

/-!
What a response says, told by two of its fields alone.
-/

namespace ApiLens

open Json (Fields)

namespace Json.Fields

variable {fields rest : Fields} {d : Decoder α}

-- A field stands for `a`, and a missing one for `e`.
def Reads (fields : Fields) (key : String) (d : Decoder α) (e a : α) : Prop :=
  match fields.get? key with
  | some v => d v = .ok a
  | none   => a = e

theorem reads_of_get?_eq_none (h : fields.get? key = none) :
    fields.Reads key d e a ↔ a = e := by
  simp [Reads, h]

theorem reads_cons_self : Reads ((key, v) :: rest) key d e a ↔ d v = .ok a := by
  simp [Reads, get?_cons]

theorem reads_cons_of_ne (h : key ≠ k) :
    Reads ((k, v) :: rest) key d e a ↔ rest.Reads key d e a := by
  simp [Reads, get?_cons, h]

end Json.Fields

namespace TreeResponse

variable {fields : Fields} {r s : TreeResponse}

theorem decode_obj : decode (.obj fields) =
    fields.foldlM (fun r (key, v) => r.step key v) ({} : TreeResponse) :=
  bind_pure (fields.foldlM (fun r (key, v) => r.step key v) ({} : TreeResponse))

theorem step_parseSuccess_iff : r.step "parseSuccess" v = .ok s ↔
    Decoder.option .bool v = .ok s.parseSuccess ∧ s.tree = r.tree := by
  cases s
  simp only [step]
  cases Decoder.option .bool v <;> simp [bind, Except.bind, pure, Except.pure, eq_comm]

theorem step_syntaxTree_iff : r.step "syntaxTree" v = .ok s ↔
    Decoder.option .any v = .ok s.tree ∧ s.parseSuccess = r.parseSuccess := by
  cases s
  simp only [step]
  cases Decoder.option .any v <;> simp [bind, Except.bind, pure, Except.pure, eq_comm, and_comm]

theorem step_of_other (hp : key ≠ "parseSuccess") (ht : key ≠ "syntaxTree") :
    r.step key v = .ok r := by
  simp [step]

-- Of distinct fields each is met once, so it does not matter when.
theorem foldlM_step_eq_ok_iff (h : fields.Distinct) :
    fields.foldlM (fun r (key, v) => r.step key v) r = .ok s ↔
      fields.Reads "parseSuccess" (.option .bool) r.parseSuccess s.parseSuccess ∧
      fields.Reads "syntaxTree" (.option .any) r.tree s.tree := by
  induction fields generalizing r
  case nil =>
    cases r; cases s
    simp [Fields.Reads, Fields.get?, pure, Except.pure, eq_comm]
  case cons f rest ih =>
    cases f with | mk key v =>
    obtain ⟨hk, hr⟩ := Fields.distinct_cons_iff.mp h
    simp only [List.foldlM_cons, DecodeError.bind_eq_ok_iff, ih hr]
    by_cases hp : key = "parseSuccess"
    case pos =>
      subst hp
      have hne : "syntaxTree" ≠ "parseSuccess" := by decide
      simp only [step_parseSuccess_iff, Fields.reads_of_get?_eq_none hk, Fields.reads_cons_self,
        Fields.reads_cons_of_ne hne]
      constructor
      case mp =>
        rintro ⟨_, ⟨hv, ht⟩, hs, hr⟩
        exact ⟨hs ▸ hv, ht ▸ hr⟩
      case mpr =>
        rintro ⟨hv, hr⟩
        exact ⟨⟨s.parseSuccess, r.tree⟩, ⟨hv, rfl⟩, rfl, hr⟩
    case neg =>
      rw [Fields.reads_cons_of_ne (Ne.symm hp)]
      by_cases ht : key = "syntaxTree"
      case pos =>
        subst ht
        simp only [step_syntaxTree_iff, Fields.reads_of_get?_eq_none hk, Fields.reads_cons_self]
        constructor
        case mp =>
          rintro ⟨_, ⟨hv, hp⟩, hr, hs⟩
          exact ⟨hp ▸ hr, hs ▸ hv⟩
        case mpr =>
          rintro ⟨hr, hv⟩
          exact ⟨⟨r.parseSuccess, s.tree⟩, ⟨hv, rfl⟩, hr, rfl⟩
      case neg => simp [Fields.reads_cons_of_ne (Ne.symm ht), step_of_other hp ht]

theorem decode_obj_eq_ok_iff (h : fields.Distinct) :
    decode (.obj fields) = .ok r ↔
      fields.Reads "parseSuccess" (.option .bool) none r.parseSuccess ∧
      fields.Reads "syntaxTree" (.option .any) none r.tree := by
  rw [decode_obj, foldlM_step_eq_ok_iff h]

theorem tree_of_reads (h : fields.Reads "syntaxTree" (.option .any) none r.tree)
    (ht : fields.get? "syntaxTree" = some v) (hv : v ≠ .null) : r.tree = some v := by
  rw [Fields.Reads, ht] at h
  cases v
  case null => contradiction
  all_goals exact (Except.ok.inj h).symm

theorem tree_of_reads_null (h : fields.Reads "syntaxTree" (.option .any) none r.tree)
    (ht : fields.get? "syntaxTree" = some .null) : r.tree = none := by
  rw [Fields.Reads, ht] at h
  exact (Except.ok.inj h).symm

theorem root_of_silent (h : r.parseSuccess = some false ∨ r.tree = none) : r.root = .ok none := by
  obtain h | h := h <;> simp [root, h]

theorem root_of_tree (hs : r.parseSuccess ≠ some false) (ht : r.tree = some v) (hv : v ≠ .null) :
    r.root = (Node.ofJson v).map some := by
  simp only [root, hs, if_false, ht]

end TreeResponse

namespace TreeParams

theorem decode_obj_eq_ok_iff {fields : Fields} {p : TreeParams} : decode (.obj fields) = .ok p ↔
    ∃ v, fields.get? "uri" = some v ∧ Decoder.uri v = .ok p.uri ∧
      fields.foldlM (fun r (key, v) => r.step key v) ({} : TreeResponse) = .ok p.response := by
  simp only [decode]
  cases fields.get? "uri"
  case none => exact ⟨nofun, nofun⟩
  case some v =>
    simp only [DecodeError.bind_eq_ok_iff, Option.some.injEq, exists_eq_left']
    constructor
    case mp  => rintro ⟨u, hu, r, hr, ⟨⟩⟩; exact ⟨hu, hr⟩
    case mpr => exact fun ⟨hu, hr⟩ => ⟨p.uri, hu, p.response, hr, rfl⟩

-- Whatever stands beside the two fields, in whatever order, the same response is read.
theorem decode_of_response {fields params : Fields} {r : TreeResponse}
    (hf : fields.Distinct) (hp : params.Distinct)
    (ha : ∀ key, key ≠ "uri" → params.get? key = fields.get? key)
    (hr : TreeResponse.decode (.obj fields) = .ok r)
    (hu : params.get? "uri" = some w) (hw : Decoder.uri w = .ok u) :
    decode (.obj params) = .ok ⟨u, r⟩ := by
  have ⟨hs, ht⟩ := (TreeResponse.decode_obj_eq_ok_iff hf).mp hr
  refine decode_obj_eq_ok_iff.mpr ⟨w, hu, hw, (TreeResponse.foldlM_step_eq_ok_iff hp).mpr ⟨?_, ?_⟩⟩
  · rwa [Fields.Reads, ha _ (by decide)]
  · rwa [Fields.Reads, ha _ (by decide)]

end TreeParams

end ApiLens
