import ApiLens.CommandLine
import ApiLens.Proofs.Declaration.Wire
import ApiLens.Proofs.Lens
import ApiLens.Proofs.Session.Cache
import ApiLens.Proofs.Tree.Response
import ApiLens.Proofs.Tree.Visible

/-!
The command line and a session, given the same tree.

Both read it out of a response, by ways of their own, and list the declarations in it.
-/

namespace ApiLens

open Json (Fields)

-- The arguments ask for the declarations in a file, which holds `v`.
def AsksFor (module : String) (policy : Policy) (v : Json) (read : Path → Option String)
    (args : List String) : Prop :=
  ∃ file text, Invocation.ofArguments args = .ok (.lens file module policy) ∧
    read file = some text ∧ Json.parse text = .ok v

namespace ExitReport

def listing (ds : List Declaration) : ExitReport :=
  { code := 0, output := (Json.arr (ds.map Declaration.toJson)).pretty ++ "\n" }

-- The output tells the declarations: it is a text from which they are decoded.
theorem declarations_of_listing (ds : List Declaration) : ∃ v,
    Json.parse (listing ds).output = .ok v ∧ Decoder.list Declaration.decode v = .ok ds :=
  ⟨_, Declaration.parse_pretty ds, Decoder.list_map fun d _ => d.decode_toJson⟩

theorem listing_injective (h : listing ds = listing ds') : ds = ds' := by
  have ⟨v, hv, hd⟩ := declarations_of_listing ds
  have ⟨v', hv', hd'⟩ := declarations_of_listing ds'
  rw [← h, hv] at hv'
  cases hv'
  rw [hd] at hd'
  cases hd'
  rfl

def misfit (cause : NotANode) : ExitReport :=
  { code := 1, complaint := "Error: " ++ cause.message ++ "\n" }

end ExitReport

-- A response that has `v` for its tree, and does not say that its source has failed.
structure Json.Fields.Wraps (fields : Fields) (v : Json) : Prop where
  tree : fields.get? "syntaxTree" = some v
  success : fields.get? "parseSuccess" = none ∨ fields.get? "parseSuccess" = some .null ∨
    fields.get? "parseSuccess" = some (.bool true)

theorem Json.Fields.Wraps.decode_eq {fields : Fields} {v : Json} (h : fields.Wraps v)
    (hd : fields.Distinct) (hv : v ≠ .null) : ∃ success,
      success ≠ some false ∧ TreeResponse.decode (.obj fields) = .ok ⟨success, some v⟩ := by
  have ⟨success, hn, hr⟩ : ∃ success, success ≠ some false ∧
      fields.Reads "parseSuccess" (.option .bool) none success := by
    obtain hs | hs | hs := h.success
    case inl     => exact ⟨none, by simp, by simp [Fields.Reads, hs]⟩
    case inr.inl => exact ⟨none, by simp, by simp [Fields.Reads, hs, Decoder.option]⟩
    case inr.inr => exact ⟨some true, by simp, by rw [Fields.Reads, hs]; rfl⟩
  refine ⟨success, hn, (TreeResponse.decode_obj_eq_ok_iff hd).mpr ⟨hr, ?_⟩⟩
  rw [Fields.Reads, h.tree]
  cases v
  case null => contradiction
  all_goals rfl

namespace AsksFor

variable {v : Json} {fields : Fields} {module : String} {policy : Policy}
  {read : Path → Option String}

theorem distinct (h : AsksFor module policy (.obj fields) read args) : fields.Distinct :=
  have ⟨_, _, _, _, hp⟩ := h
  Json.distinct_of_parse hp

theorem report_eq (h : AsksFor module policy v read args) :
    ExitReport.ofArguments read args = ExitReport.ofPrinted
      ((Invocation.printedDeclarations module policy v).map
        fun ds => some (.arr (ds.map Declaration.toJson))) := by
  have ⟨file, text, ha, hr, hp⟩ := h
  have hv : Invocation.readJson read file = .ok v := by
    simp [Invocation.readJson, hr, hp, pure, Except.pure]
  simp only [ExitReport.ofArguments, ha, Invocation.printed, hv, bind, Except.bind]
  cases Invocation.printedDeclarations module policy v <;> rfl

theorem report_of_root (h : AsksFor module policy v read args)
    (ht : Invocation.treeOf v = .ok (some root)) :
    ExitReport.ofArguments read args = .listing (declarations module policy root) := by
  rw [h.report_eq, Invocation.printedDeclarations, ht]
  rfl

theorem report_of_none (h : AsksFor module policy v read args)
    (ht : Invocation.treeOf v = .ok none) : ExitReport.ofArguments read args = .listing [] := by
  rw [h.report_eq, Invocation.printedDeclarations, ht]
  rfl

theorem report_of_misfit (h : AsksFor module policy v read args)
    (ht : Invocation.treeOf v = .error (.notANode cause)) :
    ExitReport.ofArguments read args = .misfit cause := by
  rw [h.report_eq, Invocation.printedDeclarations, ht]
  rfl

end AsksFor

namespace Invocation

variable {fields : Fields} {r : TreeResponse}

theorem treeOf_of_bare {v : Json} (h : v.get? "syntaxTree" = none) :
    treeOf v = ((Node.ofJson v).mapError .notANode).map some := by
  simp [treeOf, h]
  rfl

theorem treeOf_of_response (ht : fields.get? "syntaxTree" = some tree)
    (hr : TreeResponse.decode (.obj fields) = .ok r) :
    treeOf (.obj fields) = r.root.mapError .notANode := by
  simp [treeOf, Json.get?, Json.fields?, ht, hr]

theorem treeOf_of_wraps {v : Json} (hd : fields.Distinct) (hw : fields.Wraps v)
    (hv : v ≠ .null) : treeOf (.obj fields) = ((Node.ofJson v).mapError .notANode).map some := by
  have ⟨success, hn, hr⟩ := hw.decode_eq hd hv
  rw [treeOf_of_response hw.tree hr, TreeResponse.root_of_tree hn rfl hv]
  cases Node.ofJson v <;> rfl

end Invocation

namespace Lifecycle

variable {s s' : Session} {a : Arrival} {p : TreeParams} {params : Json}

theorem method_syntaxTree : Method.of? "doclens/syntaxTree" =
    some (.notice (Method.fitting Message.decodeTreeArrived)) := rfl

theorem message?_syntaxTree (hq : a.request = ⟨"doclens/syntaxTree", some params, none⟩)
    (h : TreeParams.decode params = .ok p) : a.message? = some (.treeArrived p) := by
  simp [Arrival.message?, Arrival.reader?, hq, method_syntaxTree, Request.message, Method.fitting,
    Message.decodeTreeArrived, h, Except.toOption]

theorem handled_running (h : (running s).after run = running s') : ∃ ds : List Delivery,
    (running s).handled run = ds.map Delivery.message ∧ s' = s.after ds := by
  have ⟨ds, hi, hs⟩ := intakes_running h
  exact ⟨ds, by rw [handled, hi, Intake.filterMap_message?_delivered], hs⟩

-- The tree of a response stays until something else comes that concerns its document.
theorem get?_trees_of_message? (hm : a.message? = some (.treeArrived p))
    (h : (running s).after (a :: later) = running s')
    (hl : ∀ m ∈ ((running s).next a).handled later, m.concerns p.uri = false) :
    s'.trees.get? p.uri = p.response.tree? := by
  rw [after_cons, next_of_message? hm] at h
  rw [next_of_message? hm] at hl
  obtain ⟨ds, hh, hs⟩ := handled_running h
  have hn : (ds.map Delivery.message).filter (·.concerns p.uri) = [] := by
    rw [← hh]
    simpa using hl
  rw [hs, Session.get?_trees_after, hn, List.getLast?_nil, Session.get?_trees_handle]
  simp [Message.concerns, Message.tree?]

end Lifecycle

-- From one session to the other, the latest that the editor tells of a document is a response.
def Tells (fields : Fields) (u : Uri) (s s' : Session) : Prop :=
  ∃ (a : Arrival) (params : Fields) (w : Json) (later : List Arrival),
    a.request = ⟨"doclens/syntaxTree", some (.obj params), none⟩ ∧ params.Distinct ∧
    (∀ key, key ≠ "uri" → params.get? key = fields.get? key) ∧
    params.get? "uri" = some w ∧ Decoder.uri w = .ok u ∧
    (Lifecycle.running s).after (a :: later) = .running s' ∧
    ∀ m ∈ ((Lifecycle.running s).next a).handled later, m.concerns u = false

-- The lenses of a document are enabled, and are those of a module under a policy.
structure Offers (s : Session) (u : Uri) (module : String) (policy : Policy) : Prop where
  enabled : s.settings.enableCodeLens
  policy : s.settings.policy = policy
  place : ∃ file root, u.filePath? = some file ∧ s.workspaceRoot = some root ∧
    moduleName? root file = some module

section Agreement

variable {s s' : Session} {fields : Fields} {r : TreeResponse} {read : Path → Option String}
  {module : String} {policy : Policy}

theorem Tells.get?_trees (h : Tells fields u s s') (hd : fields.Distinct)
    (hr : TreeResponse.decode (.obj fields) = .ok r) : s'.trees.get? u = r.tree? := by
  have ⟨a, params, w, later, hq, hp, ha, hw, hu, hs, hl⟩ := h
  have ht := TreeParams.decode_of_response hd hp ha hr hw hu
  exact Lifecycle.get?_trees_of_message? (Lifecycle.message?_syntaxTree hq ht) hs hl

theorem Offers.lenses?_eq (h : Offers s u module policy) : s.lenses? u = some
    (((s.trees.get? u).map fun root =>
      lenses s.settings (declarations module policy root)).getD []) := by
  have ⟨file, root, hf, hr, hm⟩ := h.place
  simp [Session.lenses?, hf, hr, documentLenses_eq h.enabled hm, h.policy]

theorem ofJson_of_tagged {v : Json} (h : v.Tagged) : ∃ root, Node.ofJson v = .ok root := by
  obtain ⟨fields, tag, rfl, ht⟩ := h
  exact ⟨.ofFields tag fields, by simp [Node.ofJson, tag?_eq_some_iff.mpr ht]⟩

theorem tagged_of_ofJson {v : Json} (h : Node.ofJson v = .ok root) : v.Tagged := by
  cases v
  case obj fields =>
    cases ht : tag? fields
    case none   => simp [Node.ofJson, ht] at h
    case some t => exact Json.tagged_obj_iff.mpr ⟨t, ht⟩
  all_goals simp [Node.ofJson] at h

theorem report_of_bare_or_wrapped {v w : Json} (hv : v.Tagged) (hs : v.get? "syntaxTree" = none)
    (hw : w = v ∨ ∃ fields : Fields, w = .obj fields ∧ fields.Wraps v)
    (h : AsksFor module policy w read args) (hr : Node.ofJson v = .ok root) :
    ExitReport.ofArguments read args = .listing (declarations module policy root) := by
  refine h.report_of_root ?_
  obtain rfl | ⟨fields, rfl, hw⟩ := hw
  case inl => rw [Invocation.treeOf_of_bare hs, hr]; rfl
  case inr =>
    have hn : v ≠ .null := by rintro rfl; exact nomatch hv
    rw [Invocation.treeOf_of_wraps h.distinct hw hn, hr]
    rfl

theorem silent_of_reads (hr : TreeResponse.decode (.obj fields) = .ok r) (hd : fields.Distinct)
    (ht : fields.get? "syntaxTree" = some tree) (h : r.parseSuccess = some false ∨ tree = .null) :
    r.root = .ok none := by
  refine TreeResponse.root_of_silent <| h.imp_right ?_
  rintro rfl
  exact TreeResponse.tree_of_reads_null ((TreeResponse.decode_obj_eq_ok_iff hd).mp hr).2 ht

theorem root_of_reads (hr : TreeResponse.decode (.obj fields) = .ok r) (hd : fields.Distinct)
    (ht : fields.get? "syntaxTree" = some tree) (hs : r.parseSuccess ≠ some false)
    (hn : tree ≠ .null) : r.root = (Node.ofJson tree).map some := by
  refine TreeResponse.root_of_tree hs ?_ hn
  exact TreeResponse.tree_of_reads ((TreeResponse.decode_obj_eq_ok_iff hd).mp hr).2 ht hn

-- What the command line leaves of a response, and the lenses that a session answers after it.
structure Agree (r : TreeResponse) (tree : Json) (module : String) (policy : Policy)
    (settings : Settings) (report : ExitReport) (answer : List CodeLens) : Prop where
  silent : r.parseSuccess = some false ∨ tree = .null → report = .listing [] ∧ answer = []
  misfit : r.parseSuccess ≠ some false → tree ≠ .null → ∀ cause, Node.ofJson tree = .error cause →
    report = .misfit cause ∧ answer = []
  shown : r.parseSuccess ≠ some false → tree ≠ .null → ∀ root, Node.ofJson tree = .ok root →
    report = .listing (declarations module policy root) ∧
      List.Forall₂ (fun d l => d.lens? settings = some l)
        ((declarations module policy root).filter (·.span.isComplete)) answer

theorem agree (ht : fields.get? "syntaxTree" = some tree)
    (hr : TreeResponse.decode (.obj fields) = .ok r)
    (ha : AsksFor module policy (.obj fields) read args) (hs : Tells fields u s s')
    (ho : Offers s' u module policy) : ∃ answer, s'.lenses? u = some answer ∧
      Agree r tree module policy s'.settings (ExitReport.ofArguments read args) answer := by
  have hd := ha.distinct
  have htree := Invocation.treeOf_of_response ht hr
  refine ⟨_, ho.lenses?_eq, ?_⟩
  rw [hs.get?_trees hd hr, TreeResponse.tree?]
  constructor
  case silent =>
    intro h
    rw [silent_of_reads hr hd ht h] at htree ⊢
    exact ⟨ha.report_of_none htree, rfl⟩
  case misfit =>
    intro h hn cause hc
    rw [root_of_reads hr hd ht h hn, hc] at htree ⊢
    exact ⟨ha.report_of_misfit htree, rfl⟩
  case shown =>
    intro h hn root hc
    rw [root_of_reads hr hd ht h hn, hc] at htree ⊢
    exact ⟨ha.report_of_root htree, forall₂_lenses _⟩

end Agreement

theorem command_line_agrees_with_session :
    (∀ v, v.Tagged → v.get? "syntaxTree" = none → ∃ root, Node.ofJson v = .ok root ∧
      ∀ w module policy read args,
        (w = v ∨ ∃ fields : Fields, w = .obj fields ∧ fields.Wraps v) →
        AsksFor module policy w read args →
        ExitReport.ofArguments read args = .listing (declarations module policy root)) ∧
    ∀ (fields : Fields) tree r module policy read args u s s',
      fields.get? "syntaxTree" = some tree → TreeResponse.decode (.obj fields) = .ok r →
      AsksFor module policy (.obj fields) read args → Tells fields u s s' →
      Offers s' u module policy →
      ∀ env accepts id params, Message.decodeLensesAsked params = .ok (.lensesAsked u) →
      ∃ answer : List CodeLens,
        (Lifecycle.running s').handle env accepts ⟨"textDocument/codeLens", some params, some id⟩ =
          some ⟨.running s', some ⟨id, .ok (.arr (answer.map CodeLens.toJson))⟩, []⟩ ∧
        Agree r tree module policy s'.settings (ExitReport.ofArguments read args) answer := by
  constructor
  case left =>
    intro v hv hs
    have ⟨root, hr⟩ := ofJson_of_tagged hv
    exact ⟨root, hr, fun w module policy read args hw h => report_of_bare_or_wrapped hv hs hw h hr⟩
  case right =>
    intro fields tree r module policy read args u s s' ht hr ha hs ho env accepts id params hp
    have ⟨answer, hl, hagree⟩ := agree ht hr ha hs ho
    refine ⟨answer, ?_, hagree⟩
    rw [Lifecycle.handle_codeLens hp, hl]
    rfl

-- A response with a class that has all it takes to be shown.
def classText : String :=
  "\x7b\"syntaxTree\":\x7b\"kind\":\"ClassDefinition\",\"metadata\":1," ++
    "\"className\":\x7b\"value\":\"C\"\x7d,\"visibilityQualifier\":\x7b\"value\":\"public\"\x7d," ++
    "\"position\":\x7b\"startLine\":1,\"startColumn\":0,\"endLine\":2,\"endColumn\":1\x7d\x7d\x7d"

def classArguments : List String := ["lens", "t.json", "--module", "w"]

def showsOne (tree : Json) : Bool :=
  (Node.ofJson tree).toOption.any fun root =>
    ((declarations "w" {} root).filter (·.span.isComplete)).length = 1

theorem exists_classFields : ∃ (fields : Fields) (tree : Json),
    Json.parse classText = .ok (.obj fields) ∧ fields.get? "uri" = none ∧
    fields.get? "parseSuccess" = none ∧ fields.get? "syntaxTree" = some tree ∧
    tree.get? "syntaxTree" = none ∧ showsOne tree := by
  have h : ((Json.parse classText).toOption.bind Json.fields?).any fun fields =>
      (Fields.get? fields "uri").isNone && (Fields.get? fields "parseSuccess").isNone &&
        (Fields.get? fields "syntaxTree").any fun tree =>
          (tree.get? "syntaxTree").isNone && showsOne tree := by
    decide +kernel
  generalize Json.parse classText = result at h ⊢
  simp only [Option.any_eq_true, Option.bind_eq_some_iff, Bool.and_eq_true,
    Option.isNone_iff_eq_none] at h
  obtain ⟨fields, ⟨v, hv, hf⟩, ⟨hu, hp⟩, tree, ht, hs, ho⟩ := h
  cases result <;> cases hv
  cases v <;> cases hf
  exact ⟨fields, tree, rfl, hu, hp, ht, hs, ho⟩

theorem showsOne_iff {tree : Json} : showsOne tree ↔ ∃ root, Node.ofJson tree = .ok root ∧
    ((declarations "w" {} root).filter (·.span.isComplete)).length = 1 := by
  cases h : Node.ofJson tree <;> simp [showsOne, h, Except.toOption]

-- A session of which a document is the only one.
def alone : Session := { workspaceRoot := some (.ofString "/w") }

theorem tells_alone {fields : Fields} (hd : fields.Distinct) (hu : fields.get? "uri" = none)
    (hr : TreeResponse.decode (.obj fields) = .ok r) : ∃ s : Session,
      Tells fields Lifecycle.lone alone s ∧ s.settings = {} ∧
      s.workspaceRoot = alone.workspaceRoot := by
  let params : Fields := ("uri", .str "file:///w/a") :: fields
  have hp : params.Distinct := Fields.distinct_cons_iff.mpr ⟨hu, hd⟩
  have ha key (h : key ≠ "uri") : params.get? key = fields.get? key := by
    rw [Fields.get?_cons, if_neg h]
  have hg : params.get? "uri" = some (.str "file:///w/a") := by rw [Fields.get?_cons, if_pos rfl]
  have hl : Decoder.uri (.str "file:///w/a") = .ok Lifecycle.lone := by with_unfolding_all rfl
  let a : Arrival := ⟨⟨"doclens/syntaxTree", some (.obj params), none⟩, Lifecycle.bare, true⟩
  have hm : a.message? = some (.treeArrived ⟨Lifecycle.lone, r⟩) :=
    Lifecycle.message?_syntaxTree rfl <| TreeParams.decode_of_response hd hp ha hr hg hl
  refine ⟨_, ⟨a, params, _, [], rfl, hp, ha, hg, hl, Lifecycle.next_of_message? hm, ?_⟩, ?_⟩
  · exact List.forall_mem_nil _
  · rw [Session.session_handle]
    exact ⟨rfl, rfl⟩

theorem command_line_agrees_with_session_class : ∃ s ds answer, List.length answer = 1 ∧
    ExitReport.ofArguments (fun _ => some classText) classArguments = .listing ds ∧
    (Lifecycle.running s).handle Lifecycle.bare true ⟨"textDocument/codeLens",
        some (.obj [("textDocument", .obj [("uri", .str "file:///w/a")])]), some .null⟩ =
      some ⟨.running s, some ⟨.null, .ok (.arr (answer.map CodeLens.toJson))⟩, []⟩ := by
  have ⟨fields, tree, hp, hu, hs, ht, hb, ho⟩ := exists_classFields
  have ⟨root, hr, hl⟩ := showsOne_iff.mp ho
  have ha : AsksFor "w" {} (.obj fields) (fun _ => some classText) classArguments :=
    ⟨.ofString "t.json", _, by decide +kernel, rfl, hp⟩
  have hn : tree ≠ .null := by rintro rfl; cases hr
  have hw : fields.Wraps tree := ⟨ht, .inl hs⟩
  have ⟨success, hsuccess, hd⟩ := hw.decode_eq ha.distinct hn
  have ⟨s, htell, hset, hroot⟩ := tells_alone ha.distinct hu hd
  have hoffer : Offers s Lifecycle.lone "w" {} := by
    refine ⟨by rw [hset], by rw [hset]; rfl, .ofString "/w/a", _, ?_, hroot, ?_⟩
    all_goals with_unfolding_all rfl
  have ⟨hbare, htold⟩ := command_line_agrees_with_session
  have ⟨_, hr', hlist⟩ := hbare tree (tagged_of_ofJson hr) hb
  cases hr.symm.trans hr'
  have ⟨answer, hanswer, hagree⟩ := htold _ _ _ _ _ _ _ _ _ _ ht hd ha htell hoffer Lifecycle.bare
    true .null (.obj [("textDocument", .obj [("uri", .str "file:///w/a")])])
    (by with_unfolding_all rfl)
  have ⟨_, hshown⟩ := hagree.shown hsuccess hn root hr
  refine ⟨s, _, answer, ?_, hlist _ _ _ _ _ (.inr ⟨fields, rfl, hw⟩) ha, hanswer⟩
  rw [← hshown.length_eq, hl]

end ApiLens
