import ApiLens.Proofs.Lens.Wire
import ApiLens.Proofs.Session.Isolated

/-!
Whether lenses do anything is for the settings in force to say, each time that they are asked for.
-/

namespace ApiLens

theorem documentLenses_eq_nil (h : settings.enableCodeLens = false) :
    documentLenses tree workspace file settings = [] := by
  simp [documentLenses, h]

theorem data_of_mem_documentLenses (h : l ∈ documentLenses tree workspace file settings) :
    l.data = none := by
  unfold documentLenses at h
  split at h
  case isTrue => cases h
  case isFalse =>
    split at h
    case h_1 =>
      obtain ⟨d, -, hd⟩ := List.mem_filterMap.mp h
      obtain ⟨range, -, rfl⟩ := Option.map_eq_some_iff.mp hd
      rfl
    case h_2 => cases h

namespace Session

variable {s : Session} {l : CodeLens}

theorem resolve_of_enabled (h : s.settings.enableCodeLens) : s.resolve l = l := by
  simp [resolve, h]

theorem resolve_of_disabled (h : s.settings.enableCodeLens = false) :
    s.resolve l = ⟨l.range, none, l.data⟩ := by
  simp [resolve, h]

theorem data_resolve : (s.resolve l).data = l.data := by
  rw [resolve]
  split <;> rfl

theorem resolve_resolve : s.resolve (s.resolve l) = s.resolve l := by
  cases h : s.settings.enableCodeLens
  case false => rw [resolve_of_disabled h, resolve_of_disabled h]
  case true  => rw [resolve_of_enabled h, resolve_of_enabled h]

end Session

-- What the server answers to a request, whatever is to be seen meanwhile. It stays as it is.
def Lifecycle.Answers (l : Lifecycle) (method : String) (params answer : Json) : Prop :=
  ∀ env accepts id, l.handle env accepts ⟨method, some params, some id⟩ =
    some ⟨l, some ⟨id, .ok answer⟩, []⟩

namespace Lifecycle

variable {s : Session} {params answer : Json}

-- What is answered has been read.
theorem exists_message_of_answers (hm : Method.of? method = some (.request (Method.fitting d)))
    (h : (running s).Answers method params answer) : ∃ m reply, d params = .ok m ∧
      (s.handle ⟨m, bare, true⟩).reply = some reply ∧ reply.toJson = answer := by
  have hb := h bare true .null
  cases hd : d params
  case error =>
    simp [handle, turn, hm, request, deliver, Request.message, Method.fitting, hd, refusing,
      answering] at hb
  case ok m =>
    rw [handle_of_message? <| Arrival.message?_of_request hm hd] at hb
    cases hr : (s.handle ⟨m, bare, true⟩).reply <;> simp [hr] at hb
    case some reply => exact ⟨m, reply, rfl, hr, hb.2.1⟩

theorem answers_codeLens_iff : (running s).Answers "textDocument/codeLens" params answer ↔
    ∃ u, Message.decodeLensesAsked params = .ok (.lensesAsked u) ∧
      answer = (Reply.lenses (s.lenses? u)).toJson := by
  constructor
  case mp =>
    intro h
    obtain ⟨m, reply, hd, hr, rfl⟩ := exists_message_of_answers method_codeLens h
    have hm := Method.reads_lensesAsked _ _ hd
    cases m
    case lensesAsked u =>
      cases hr
      exact ⟨u, hd, rfl⟩
    all_goals simp [Message.method] at hm
  case mpr =>
    rintro ⟨u, hd, rfl⟩ env accepts id
    exact handle_codeLens hd

theorem method_resolve : Method.of? "codeLens/resolve" =
    some (.request (Method.fitting Message.decodeLensChosen)) := rfl

theorem answers_resolve_iff : (running s).Answers "codeLens/resolve" params answer ↔
    ∃ l, CodeLens.decode params = .ok l ∧ answer = (s.resolve l).toJson := by
  constructor
  case mp =>
    intro h
    obtain ⟨m, reply, hd, hr, rfl⟩ := exists_message_of_answers method_resolve h
    simp only [Message.decodeLensChosen] at hd
    cases hl : CodeLens.decode params <;> rw [hl] at hd <;> cases hd
    cases hr
    exact ⟨_, rfl, rfl⟩
  case mpr =>
    rintro ⟨l, hl, rfl⟩ env accepts id
    have hd : Message.decodeLensChosen params = .ok (.lensChosen l) := by
      simp [Message.decodeLensChosen, hl, Functor.map, Except.map]
    exact handle_of_message? <| Arrival.message?_of_request method_resolve hd

end Lifecycle

open Lifecycle (running fresh)

-- Lenses that are asked for and lenses that are chosen both obey the settings in force.
structure Session.Obeys (s : Session) : Prop where
  hidden params u : s.settings.enableCodeLens = false →
    Message.decodeLensesAsked params = .ok (.lensesAsked u) →
    ∃ answer, (running s).Answers "textDocument/codeLens" params answer ∧
      (answer = .null ∨ answer = .arr [])
  stripped params l : s.settings.enableCodeLens = false → CodeLens.decode params = .ok l →
    (running s).Answers "codeLens/resolve" params (CodeLens.toJson ⟨l.range, none, l.data⟩)
  untouched params l : s.settings.enableCodeLens → CodeLens.decode params = .ok l →
    (running s).Answers "codeLens/resolve" params l.toJson
  -- So is each lens that the session has answered with.
  returned params lenses v : s.settings.enableCodeLens →
    (running s).Answers "textDocument/codeLens" params (.arr lenses) → v ∈ lenses →
    (running s).Answers "codeLens/resolve" v v
  -- A lens that is resolved once more stays what it is.
  settled params answer : (running s).Answers "codeLens/resolve" params answer →
    (running s).Answers "codeLens/resolve" answer answer

section Obeys

variable {s s' : Session} {u : Uri}

theorem Session.toJson_lenses?_of_file (hf : u.filePath? = some file)
    (hr : s.workspaceRoot = some root) : (Reply.lenses (s.lenses? u)).toJson =
      .arr ((documentLenses (s.trees.get? u) root file s.settings).map CodeLens.toJson) := by
  simp [lenses?, hf, hr, Reply.toJson, Json.ofOption]

theorem Session.toJson_lenses?_cases : (Reply.lenses (s.lenses? u)).toJson = .null ∨
    ∃ file root, (Reply.lenses (s.lenses? u)).toJson =
      .arr ((documentLenses (s.trees.get? u) root file s.settings).map CodeLens.toJson) := by
  cases hf : u.filePath? <;> cases hr : s.workspaceRoot
  case some.some file root => exact .inr ⟨file, root, toJson_lenses?_of_file hf hr⟩
  all_goals exact .inl (by simp [lenses?, hf, hr, Reply.toJson, Json.ofOption])

theorem Session.toJson_lenses?_of_disabled (h : s.settings.enableCodeLens = false) :
    (Reply.lenses (s.lenses? u)).toJson = .null ∨
      (Reply.lenses (s.lenses? u)).toJson = .arr [] := by
  obtain hn | ⟨file, root, ha⟩ := toJson_lenses?_cases (s := s) (u := u)
  · exact .inl hn
  · exact .inr (by rw [ha, documentLenses_eq_nil h, List.map_nil])

theorem Session.exists_of_mem_lenses (h : Json.arr vs = (Reply.lenses (s.lenses? u)).toJson)
    (hv : v ∈ vs) : ∃ l : CodeLens, v = l.toJson ∧ l.data = none := by
  obtain hn | ⟨file, root, ha⟩ := toJson_lenses?_cases (s := s) (u := u)
  · cases h.trans hn
  · cases h.trans ha
    obtain ⟨l, hl, rfl⟩ := List.mem_map.mp hv
    exact ⟨l, rfl, data_of_mem_documentLenses hl⟩

theorem Session.obeys (s : Session) : s.Obeys where
  hidden params u he hd :=
    ⟨_, Lifecycle.answers_codeLens_iff.mpr ⟨u, hd, rfl⟩, toJson_lenses?_of_disabled he⟩
  stripped params l he hl :=
    Lifecycle.answers_resolve_iff.mpr ⟨l, hl, by rw [resolve_of_disabled he]⟩
  untouched params l he hl :=
    Lifecycle.answers_resolve_iff.mpr ⟨l, hl, by rw [resolve_of_enabled he]⟩
  returned params vs v he ha hv := by
    have ⟨u, _, hu⟩ := Lifecycle.answers_codeLens_iff.mp ha
    obtain ⟨l, rfl, hl⟩ := exists_of_mem_lenses hu hv
    have hd : CodeLens.decode l.toJson = .ok l := CodeLens.decode_toJson (by simp [hl])
    exact Lifecycle.answers_resolve_iff.mpr ⟨l, hd, by rw [resolve_of_enabled he]⟩
  settled params answer ha := by
    obtain ⟨l, hl, rfl⟩ := Lifecycle.answers_resolve_iff.mp ha
    have hd : CodeLens.decode (s.resolve l).toJson = .ok (s.resolve l) :=
      CodeLens.decode_toJson <| by rw [data_resolve]; exact CodeLens.data_of_decode hl
    exact Lifecycle.answers_resolve_iff.mpr ⟨_, hd, by rw [resolve_resolve]⟩

-- The settings are loaded again, and rule from then on over the same trees.
structure Session.Reloads (s : Session) (a : Arrival) (s' : Session) : Prop where
  settings : s'.settings = (a.environment.settings? s.workspaceRoot).getD s.settings
  workspaceRoot : s'.workspaceRoot = s.workspaceRoot
  trees : s'.trees = s.trees
  obeys : s'.Obeys
  -- No tree has to be sent again for its lenses to come and go.
  lenses params u file root : Message.decodeLensesAsked params = .ok (.lensesAsked u) →
    u.filePath? = some file → s.workspaceRoot = some root →
    (running s').Answers "textDocument/codeLens" params
      (.arr ((documentLenses (s.trees.get? u) root file s'.settings).map CodeLens.toJson))

theorem Session.exists_reloads (hm : a.message? = some .configurationChanged) :
    ∃ s', (running s).next a = running s' ∧ s.Reloads a s' := by
  let s' : Session :=
    { s with settings := (a.environment.settings? s.workspaceRoot).getD s.settings }
  have hn : (running s).next a = running s' := by
    rw [Lifecycle.next_of_message? hm, session_handle]
  refine ⟨s', hn, rfl, rfl, rfl, s'.obeys, fun params u file root hd hf hr => ?_⟩
  have ha := toJson_lenses?_of_file (s := s') hf hr
  exact Lifecycle.answers_codeLens_iff.mpr ⟨u, hd, ha.symm⟩

theorem lenses_follow_settings (h : fresh.after run = running s) : s.Obeys ∧
    ∀ a, a.message? = some .configurationChanged →
      ∃ s', fresh.after (run ++ [a]) = running s' ∧ s.Reloads a s' := by
  refine ⟨s.obeys, fun a hm => ?_⟩
  rw [Lifecycle.after_append, h]
  exact Session.exists_reloads hm

end Obeys

namespace Lifecycle

-- Lenses are turned off while the editor shows a document that has one.
def turnsOff : Arrival where
  request := ⟨"workspace/didChangeConfiguration", some (.obj [("settings", .null)]), none⟩
  environment := holding "enable_code_lens=false"

theorem lenses_follow_settings_quietRun : ∃ s s' lenses,
    fresh.after quietRun = running s ∧ List.length lenses = 1 ∧
    (running s).Answers "textDocument/codeLens" (identifying "file:///w/a") (.arr lenses) ∧
    (∀ v ∈ lenses, (running s).Answers "codeLens/resolve" v v) ∧
    fresh.after (quietRun ++ [turnsOff]) = running s' ∧ s'.trees = s.trees ∧
    (running s').Answers "textDocument/codeLens" (identifying "file:///w/a") (.arr []) := by
  have hd : Message.decodeLensesAsked (identifying "file:///w/a") = .ok (.lensesAsked lone) := by
    with_unfolding_all rfl
  have ⟨s, h, he, hr, hl⟩ : ∃ s, fresh.after quietRun = running s ∧ s.settings.enableCodeLens ∧
      s.workspaceRoot = some homeDirectory ∧ (s.lenses? lone).map List.length = some 1 :=
    ⟨_, rfl, by decide +kernel, by decide +kernel, by decide +kernel⟩
  have ⟨lenses, hl, hone⟩ := Option.map_eq_some_iff.mp hl
  have ⟨ho, hreload⟩ := lenses_follow_settings h
  have ⟨s', h', hs⟩ := hreload turnsOff rfl
  have hf : lone.filePath? = some homeFile := by with_unfolding_all rfl
  have hoff : s'.settings.enableCodeLens = false := by
    have hn : turnsOff.environment.settings? (some homeDirectory) =
        some { enableCodeLens := false } := by decide +kernel
    rw [hs.settings, hr, hn]
    rfl
  have ha : (running s).Answers "textDocument/codeLens" (identifying "file:///w/a")
      (.arr (lenses.map CodeLens.toJson)) :=
    answers_codeLens_iff.mpr ⟨lone, hd, by rw [hl]; rfl⟩
  have ha' := hs.lenses _ _ _ _ hd hf hr
  rw [documentLenses_eq_nil hoff] at ha'
  exact ⟨s, s', _, h, by simpa using hone, ha, fun v => ho.returned _ _ v he ha, h', hs.trees, ha'⟩

end Lifecycle
end ApiLens
