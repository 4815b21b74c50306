import ApiLens.Proofs.Lens.Placed
import ApiLens.Proofs.Session.Cache
import ApiLens.Proofs.Session.InForce
import ApiLens.Proofs.Session.Method

/-!
What is asked about a document is answered without regard to other documents.

To a session that only knows the document nothing else can make a difference, and whatever a session
answers about the document, it would answer if it knew no other one.
-/

namespace ApiLens

namespace Session

variable {s : Session}

-- The session as if the editor had shown it a single document.
def only (u : Uri) (s : Session) : Session :=
  { s with trees := ({} : TreeCache).settle u (s.trees.get? u) }

theorem get?_trees_only : (s.only u).trees.get? u = s.trees.get? u := by
  simp [only, TreeCache.get?_settle]

theorem only_only : (s.only u).only u = s.only u := by
  rw [only, get?_trees_only]
  rfl

theorem only_eq_of {t : Session} (hs : s.settings = t.settings)
    (hr : s.workspaceRoot = t.workspaceRoot) (ht : s.trees.get? u = t.trees.get? u) :
    s.only u = t.only u := by
  cases s; cases t
  simp_all [only]

-- Each message does to what is known of the document the same in both.
theorem only_handle_only (d : Delivery) :
    ((s.only u).handle d).session.only u = (s.handle d).session.only u := by
  refine only_eq_of ?_ ?_ ?_
  · rw [settings_handle, settings_handle]
    rfl
  · rw [workspaceRoot_handle, workspaceRoot_handle]
    rfl
  · rw [get?_trees_handle, get?_trees_handle, get?_trees_only]

theorem only_handle_of_not_concerns {d : Delivery} (h : d.message.concerns u = false)
    (hc : d.message ≠ .configurationChanged) : (s.handle d).session.only u = s.only u := by
  refine only_eq_of ?_ (workspaceRoot_handle d) ?_
  · cases d with | mk message env accepts =>
    rw [settings_handle]
    cases message
    case configurationChanged => contradiction
    all_goals rfl
  · rw [get?_trees_handle, h]
    rfl

theorem lenses?_only : (s.only u).lenses? u = s.lenses? u := by
  rw [lenses?, get?_trees_only]
  rfl

-- The editor may only ask for the lenses of the one document.
theorem reply_only (h : ∀ w, m = .lensesAsked w → w = u) :
    ((s.only u).handle ⟨m, env, accepts⟩).reply = (s.handle ⟨m, env, accepts⟩).reply := by
  cases m
  case lensesAsked w =>
    cases h w rfl
    exact congrArg (some <| Reply.lenses ·) lenses?_only
  all_goals rfl

end Session

-- The same request, at a time when the same is to be seen.
structure Arrival.Alike (a b : Arrival) : Prop where
  request : a.request = b.request
  environment : a.environment = b.environment

-- The request either asks for something or is about another document.
def Arrival.IsApart (u : Uri) (a : Arrival) : Prop :=
  a.request.method ∈ ["textDocument/codeLens", "codeLens/resolve", "doclens/projectOverview",
    "doclens/projectRoots"] ∨
  a.request.method ∈ ["doclens/syntaxTree", "textDocument/didClose"] ∧
    ∀ m, a.message? = some m → m.concerns u = false

-- Of a run, some requests are left out, and the editor may give other answers meanwhile.
inductive Thinned (u : Uri) : List Arrival → List Arrival → Prop
  | nil : Thinned u [] []
  | keep : a.Alike b → Thinned u run run' → Thinned u (a :: run) (b :: run')
  | leave : a.IsApart u → Thinned u run run' → Thinned u (a :: run) run'

namespace Lifecycle

variable {k l : Lifecycle} {a b : Arrival}

def only (u : Uri) : Lifecycle → Lifecycle
  | running s => running (s.only u)
  | l         => l

-- What the editor answers to the server makes no difference at all.
theorem handle_eq_of_alike (h : a.Alike b) :
    l.handle a.environment a.accepts a.request = l.handle b.environment b.accepts b.request := by
  rw [h.request, h.environment]
  rfl

theorem next_eq_of_alike (h : a.Alike b) : l.next a = l.next b := by
  rw [next, next, handle_eq_of_alike h]

theorem only_next_only : ((l.only u).next a).only u = (l.next a).only u := by
  cases l
  case running s =>
    cases hm : a.message?
    case some m =>
      rw [only, next_of_message? hm, next_of_message? hm, only, only, Session.only_handle_only]
    case none =>
      obtain hn | ⟨-, l, -, hn⟩ := next_of_message?_eq_none hm
      · rw [only, hn, hn, only, only, Session.only_only]
      · rw [only, hn, hn]
  all_goals rfl

theorem exists_of?_of_isApart (h : a.IsApart u) : ∃ read,
    Method.of? a.request.method = some (.request read) ∨
      Method.of? a.request.method = some (.notice read) := by
  simp only [Arrival.IsApart, List.mem_cons, List.not_mem_nil, or_false] at h
  obtain (hm | hm | hm | hm) | ⟨hm | hm, -⟩ := h <;> rw [hm]
  case inr.inl | inr.inr => exact ⟨_, .inr rfl⟩
  all_goals exact ⟨_, .inl rfl⟩

theorem not_ends_of_isApart (h : a.IsApart u) : ¬a.Ends := by
  obtain ⟨read, hm | hm⟩ := exists_of?_of_isApart h <;> simp [Arrival.Ends, hm]

theorem concerns_of_isApart (h : a.IsApart u) (hm : a.message? = some m) :
    m.concerns u = false ∧ m ≠ .configurationChanged := by
  rw [Arrival.IsApart, Arrival.method_eq_of_message? hm] at h
  obtain hq | ⟨hs, hc⟩ := h
  case inl =>
    cases m
    case lensesAsked | lensChosen | overviewAsked | rootsAsked => exact ⟨rfl, by simp⟩
    all_goals simp [Message.method] at hq
  case inr =>
    refine ⟨hc m hm, ?_⟩
    rintro rfl
    simp [Message.method] at hs

-- The message of a request that is apart changes nothing that is known of the document.
theorem only_next_of_isApart (h : a.IsApart u) : (l.next a).only u = l.only u := by
  cases l
  case running s =>
    cases hm : a.message?
    case some m =>
      have ⟨hu, hc⟩ := concerns_of_isApart h hm
      rw [next_of_message? hm, only, only, Session.only_handle_of_not_concerns hu hc]
    case none =>
      obtain hn | ⟨he, -⟩ := next_of_message?_eq_none hm
      · rw [hn]
      · exact absurd he <| not_ends_of_isApart h
  case exited => rfl
  all_goals
    obtain ⟨read, hm | hm⟩ := exists_of?_of_isApart h <;>
      simp [next, handle, turn, hm, request, notice]

-- Only lenses are read off the trees, and of the one document they are the same.
theorem response_only (h : a.request.method = "textDocument/codeLens" →
    ∀ w, a.message? = some (.lensesAsked w) → w = u) :
    ((l.only u).handle a.environment a.accepts a.request).map Turn.response =
      (l.handle a.environment a.accepts a.request).map Turn.response := by
  cases l
  case running s =>
    cases hm : a.message?
    case some m =>
      have hu w (hw : m = .lensesAsked w) : w = u :=
        h (by rw [Arrival.method_eq_of_message? hm, hw]; rfl) w (by rw [hm, hw])
      rw [only, handle_of_message? hm, handle_of_message? hm]
      simp only [Option.map_some, Session.reply_only hu]
    case none =>
      have ⟨_, _, _, ht⟩ := heedless_turn hm
      simp [only, handle, ht]
  all_goals rfl

-- Two runs that differ in what is left out alone agree on what is known of the document.
theorem only_after_eq (h : l.only u = k.only u) (ht : Thinned u run run') :
    (l.after run).only u = (k.after run').only u := by
  induction ht generalizing l k
  case nil => exact h
  case keep ha _ ih =>
    rw [after_cons, after_cons]
    refine ih ?_
    rw [← only_next_only, h, only_next_only, next_eq_of_alike ha]
  case leave ha _ ih =>
    rw [after_cons]
    exact ih <| (only_next_of_isApart ha).trans h

theorem answers_isolated (ht : Thinned u run run') (ha : a.Alike b)
    (hu : a.request.method = "textDocument/codeLens" →
      ∀ w, a.message? = some (.lensesAsked w) → w = u) :
    ((l.after run).handle a.environment a.accepts a.request).map Turn.response =
      ((l.after run').handle b.environment b.accepts b.request).map Turn.response := by
  calc ((l.after run).handle a.environment a.accepts a.request).map Turn.response
    _ = (((l.after run).only u).handle a.environment a.accepts a.request).map Turn.response :=
      (response_only hu).symm
    _ = (((l.after run').only u).handle a.environment a.accepts a.request).map Turn.response := by
      rw [only_after_eq rfl ht]
    _ = ((l.after run').handle a.environment a.accepts a.request).map Turn.response :=
      response_only hu
    _ = ((l.after run').handle b.environment b.accepts b.request).map Turn.response := by
      rw [handle_eq_of_alike ha]

-- The editor shows two documents, asks for the lenses of one of them and closes it again.
def shows (document : String) : Arrival where
  request := ⟨"doclens/syntaxTree", some (.obj [("uri", .str document),
    ("syntaxTree", .obj (("position", position 1 3) :: publicFunction "f"))]), none⟩
  environment := bare

def identifying (document : String) : Json :=
  .obj [("textDocument", .obj [("uri", .str document)])]

def asks (document : String) : Arrival where
  request := ⟨"textDocument/codeLens", some (identifying document), some .null⟩
  environment := bare

def closes (document : String) : Arrival where
  request := ⟨"textDocument/didClose", some (identifying document), none⟩
  environment := bare

def crowdedRun : List Arrival :=
  [.opens "file:///w" bare, shows "file:///w/b", shows "file:///w/a", asks "file:///w/b",
    closes "file:///w/b"]

def quietRun : List Arrival :=
  [.opens "file:///w" bare, { shows "file:///w/a" with accepts := false }]

theorem thinned_crowdedRun : Thinned lone crowdedRun quietRun := by
  have hs : Arrival.IsApart lone (shows "file:///w/b") := by
    refine .inr ⟨by simp [shows], fun m hm => ?_⟩
    obtain ⟨p, hp, hu⟩ : ∃ p, (shows "file:///w/b").message? = some (.treeArrived p) ∧
      p.uri ≠ lone := ⟨_, rfl, by decide +kernel⟩
    cases hp.symm.trans hm
    simp [Message.concerns, hu]
  have hc : Arrival.IsApart lone (closes "file:///w/b") := by
    refine .inr ⟨by simp [closes], fun m hm => ?_⟩
    obtain ⟨d, hd, hu⟩ : ∃ d, (closes "file:///w/b").message? = some (.closed d) ∧ d ≠ lone :=
      ⟨_, rfl, by decide +kernel⟩
    cases hd.symm.trans hm
    simp [Message.concerns, hu]
  have ha : Arrival.IsApart lone (asks "file:///w/b") := .inl (by simp [asks])
  exact .keep ⟨rfl, rfl⟩ <| .leave hs <| .keep ⟨rfl, rfl⟩ <| .leave ha <| .leave hc .nil

theorem answers_isolated_crowdedRun : ∃ lenses, List.length lenses = 1 ∧
    ((fresh.after crowdedRun).handle bare true (asks "file:///w/a").request).map Turn.response =
      some (some ⟨.null, .ok (.arr lenses)⟩) := by
  have hd : Message.decodeLensesAsked (identifying "file:///w/a") = .ok (.lensesAsked lone) := by
    with_unfolding_all rfl
  have ⟨s, hs, hl⟩ : ∃ s, fresh.after quietRun = running s ∧
      (s.lenses? lone).map List.length = some 1 := ⟨_, rfl, by decide +kernel⟩
  have ⟨lenses, hl, hone⟩ := Option.map_eq_some_iff.mp hl
  refine ⟨lenses.map CodeLens.toJson, by simpa using hone, ?_⟩
  have hu w (hw : (asks "file:///w/a").message? = some (.lensesAsked w)) : w = lone := by
    cases (Arrival.message?_of_request method_codeLens hd).symm.trans hw
    rfl
  have h := answers_isolated (l := fresh) (a := asks "file:///w/a") thinned_crowdedRun ⟨rfl, rfl⟩
    fun _ => hu
  rw [hs] at h
  refine h.trans ?_
  rw [asks, handle_codeLens hd, hl]
  rfl

end Lifecycle
end ApiLens
