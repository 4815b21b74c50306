import ApiLens.Proofs.Session.Handle
import ApiLens.Proofs.Session.Run

/-!
What a session keeps of each document, and what it answers from it.
-/

namespace ApiLens

namespace Message

-- The messages that change what is kept of a document.
def concerns (document : Uri) : Message → Bool
  | treeArrived p => p.uri = document
  | closed d => d = document
  | _ => false

-- What is kept then.
def tree? : Message → Option Node
  | treeArrived p => p.response.tree?
  | _ => none

theorem tree?_eq_some_iff {m : Message} :
    m.tree? = some t ↔ ∃ p, m = treeArrived p ∧ p.response.root = .ok (some t) := by
  cases m
  case treeArrived p =>
    simp only [tree?, TreeResponse.tree?, treeArrived.injEq, exists_eq_left']
    cases p.response.root <;> simp [Except.toOption]
  all_goals simp [tree?]

end Message

namespace Session

variable {s : Session}

theorem get?_trees_handle : (s.handle d).session.trees.get? u =
    if d.message.concerns u then d.message.tree? else s.trees.get? u := by
  rw [session_handle]
  cases d with | mk message env accepts =>
  cases message
  case treeArrived | closed =>
    simp [Message.concerns, Message.tree?, TreeCache.get?_settle, eq_comm]
  all_goals rfl

theorem get?_trees_after : (s.after ds).trees.get? u =
    (((ds.map Delivery.message).filter (·.concerns u)).getLast?.map Message.tree?).getD
      (s.trees.get? u) := by
  -- What concerns the document settles its tree, so the last message to do either does both.
  let kept (d : Delivery) := if d.message.concerns u then some d.message.tree? else none
  have h : ds.filterMap kept =
      ((ds.map Delivery.message).filter (·.concerns u)).map Message.tree? := by
    rw [List.filter_map, List.map_map, ← List.filterMap_eq_map, List.filterMap_filter]
    rfl
  rw [← List.getLast?_map, ← h]
  refine eq_last_after (f := (·.trees.get? u)) fun t d _ => ?_
  rw [get?_trees_handle]
  cases hc : d.message.concerns u <;> simp [kept, hc]

end Session

namespace Lifecycle

variable {s : Session}

theorem exists_after_of_running (h : fresh.after run = running s) : ∃ env o ds,
    fresh.handled run = ds.map Delivery.message ∧ s = (Session.start env o).session.after ds := by
  have ⟨env, o, ds, hi, hs⟩ := intakes_fresh h
  refine ⟨env, o, ds, ?_, hs⟩
  rw [handled, hi, List.filterMap_cons_none rfl, Intake.filterMap_message?_delivered]

theorem get?_trees_eq_some_iff (h : fresh.after run = running s) :
    s.trees.get? u = some t ↔ ∃ p, p.response.root = .ok (some t) ∧
      ((fresh.handled run).filter (·.concerns u)).getLast? = some (.treeArrived p) := by
  have ⟨env, o, ds, hm, hs⟩ := exists_after_of_running h
  have h0 : (Session.start env o).session.trees.get? u = none := by rw [Session.session_start]; rfl
  rw [hs, Session.get?_trees_after, hm, h0]
  cases ((ds.map Delivery.message).filter (·.concerns u)).getLast?
  case none   => simp
  case some m => simp [Message.tree?_eq_some_iff, and_comm]

theorem method_codeLens : Method.of? "textDocument/codeLens" =
    some (.request (Method.fitting Message.decodeLensesAsked)) := rfl

theorem handle_codeLens {id : Json} (h : Message.decodeLensesAsked params = .ok (.lensesAsked u)) :
    (running s).handle env accepts ⟨"textDocument/codeLens", some params, some id⟩ =
      some ⟨running s, some ⟨id, .ok (Reply.lenses (s.lenses? u)).toJson⟩, []⟩ :=
  handle_of_message? <| Arrival.message?_of_request method_codeLens h

theorem cache_refines_history (h : fresh.after run = running s) (u : Uri) :
    (∀ t, s.trees.get? u = some t ↔ ∃ p, p.response.root = .ok (some t) ∧
      ((fresh.handled run).filter (·.concerns u)).getLast? = some (.treeArrived p)) ∧
    ∀ env accepts id params, Message.decodeLensesAsked params = .ok (.lensesAsked u) → ∃ answer,
      (running s).handle env accepts ⟨"textDocument/codeLens", some params, some id⟩ =
        some ⟨running s, some ⟨id, .ok answer⟩, []⟩ ∧
      (answer = .null ↔ u.filePath? = none ∨ s.workspaceRoot = none) ∧
      ∀ file root, u.filePath? = some file → s.workspaceRoot = some root →
        answer = .arr
          ((documentLenses (s.trees.get? u) root file s.settings).map CodeLens.toJson) := by
  refine ⟨fun t => get?_trees_eq_some_iff h, fun env accepts id params hp => ?_⟩
  refine ⟨_, handle_codeLens hp, ?_, ?_⟩
  case refine_1 =>
    cases hf : u.filePath? <;> cases hr : s.workspaceRoot
    all_goals simp [Session.lenses?, hf, hr, Reply.toJson, Json.ofOption]
  case refine_2 =>
    intro file root hf hr
    simp [Session.lenses?, hf, hr, Reply.toJson, Json.ofOption]

-- A machine without files, and a document at `/w/a` of which the editor shows a tree.
def bare : Environment := ⟨.bare [], .ofString ""⟩

def lone : Uri := ⟨"file", some ⟨"", .absent, none⟩, .segments ["w", "a"], none, none⟩

def loneRun : List Arrival :=
  [.opens "file:///w" bare, ⟨⟨"doclens/syntaxTree", some (.obj [("uri", .str "file:///w/a"),
    ("syntaxTree", .obj [("kind", .str "ModulePart")])]), none⟩, bare, true⟩]

theorem cache_refines_history_lone : ∃ s tree answer, fresh.after loneRun = running s ∧
    s.trees.get? lone = some tree ∧ answer ≠ .null ∧
    (running s).handle bare true ⟨"textDocument/codeLens",
        some (.obj [("textDocument", .obj [("uri", .str "file:///w/a")])]), some .null⟩ =
      some ⟨running s, some ⟨.null, .ok answer⟩, []⟩ := by
  have ⟨s, h, hr⟩ : ∃ s, fresh.after loneRun = running s ∧ s.workspaceRoot.isSome = true :=
    ⟨_, rfl, by with_unfolding_all rfl⟩
  have hf : lone.filePath?.isSome = true := by with_unfolding_all rfl
  have hd : Message.decodeLensesAsked
      (.obj [("textDocument", .obj [("uri", .str "file:///w/a")])]) = .ok (.lensesAsked lone) := by
    with_unfolding_all rfl
  have ⟨hc, ha⟩ := cache_refines_history h lone
  have ⟨answer, hq, hn, _⟩ := ha bare true .null _ hd
  have ht := (hc _).mpr ⟨_, rfl, by with_unfolding_all rfl⟩
  refine ⟨s, _, answer, h, ht, fun hnull => ?_, hq⟩
  obtain hnone | hnone := hn.mp hnull
  · simp [hnone] at hf
  · simp [hnone] at hr

end Lifecycle
end ApiLens
