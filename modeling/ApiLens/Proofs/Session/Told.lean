import ApiLens.Proofs.Session.Handle
import ApiLens.Proofs.Session.Run
import Mathlib.Data.List.Forall2

/-!
What the editor is told without being asked.

Each message makes a session tell what it has to, in order, and so does its opening. The editor is
asked to ask for its lenses again only when all is as the message leaves it.
-/

namespace ApiLens

-- What a session tells the editor when it loads its settings.
inductive Reports (s : Session) (env : Environment) : List ClientMessage → Prop
  | rootless (h : s.workspaceRoot = none) : Reports s env []
  | loaded (h : s.workspaceRoot = some root)
      (hl : Settings.load env.files env.home root = .ok settings) : Reports s env []
  | failed (h : s.workspaceRoot = some root)
      (hl : Settings.load env.files env.home root = .error cause) :
      Reports s env [.log .warning ("doclens settings: " ++ cause.message)]

-- What a message makes a session tell the editor.
inductive Announces (s : Session) (env : Environment) : Message → List ClientMessage → Prop
  | tree (h : p.response.root = .ok tree) : Announces s env (.treeArrived p) [.refreshLenses]
  | malformed (h : p.response.root = .error cause) : Announces s env (.treeArrived p)
      [.log .error (p.uri.text ++ ": " ++ cause.message), .refreshLenses]
  | reloaded (h : Reports s env ms) :
      Announces s env .configurationChanged (ms ++ [.refreshLenses])
  | ready : Announces s env .ready [.log .info "doclens initialized"]
  | closed : Announces s env (.closed document) []
  | lensesAsked : Announces s env (.lensesAsked document) []
  | lensChosen : Announces s env (.lensChosen lens) []
  | overviewAsked : Announces s env (.overviewAsked query) []
  | rootsAsked : Announces s env (.rootsAsked query') []

namespace Session

variable {s t : Session} {es fs : List Effect} {d : Delivery}

-- What is told while effects are carried out, each time with the session as it is at that moment.
def sent (s : Session) : List Effect → List (Session × ClientMessage)
  | [] => []
  | e :: rest => (e.told?.map (s, ·)).toList ++ (s.apply e).sent rest

-- Each of some messages with the session that it comes to.
def visits (s : Session) : List Delivery → List (Session × Delivery)
  | [] => []
  | d :: rest => (s, d) :: (s.handle d).session.visits rest

theorem map_snd_sent : (s.sent es).map Prod.snd = es.filterMap Effect.told? := by
  induction es generalizing s
  case nil => rfl
  case cons e rest ih => cases h : e.told? <;> simp [sent, h, ih]

theorem sent_append : s.sent (es ++ fs) = s.sent es ++ (s.applyAll es).sent fs := by
  induction es generalizing s
  case nil => rfl
  case cons e rest ih =>
    rw [List.cons_append, sent, sent, ih, List.append_assoc]
    rfl

theorem reports_reload : Reports s env ((s.reload env).filterMap Effect.told?) := by
  simp only [reload]
  cases hw : s.workspaceRoot
  case none => exact .rootless hw
  case some root =>
    simp only []
    cases hl : Settings.load env.files env.home root
    case error cause => exact .failed hw hl
    case ok settings => exact .loaded hw hl

theorem announces_handle : Announces s d.environment d.message (s.handle d).told := by
  obtain ⟨m, env, yes⟩ := d
  cases m
  case treeArrived p =>
    simp only [handle, carryOut, effects, takeTree]
    cases hr : p.response.root
    case error cause => exact .malformed hr
    case ok tree => cases tree <;> exact .tree hr
  case configurationChanged =>
    simp only [handle, carryOut, effects, List.filterMap_append]
    exact .reloaded reports_reload
  all_goals constructor

theorem eq_of_refresh_sent_last (hn : .refreshLenses ∉ es.filterMap Effect.told?)
    (h : (t, .refreshLenses) ∈ s.sent (es ++ [.tell .refreshLenses])) :
    t = s.applyAll (es ++ [.tell .refreshLenses]) := by
  rw [sent_append, List.mem_append] at h
  rw [applyAll_append, applyAll_tell]
  obtain h | h := h
  case inl =>
    have hm := List.mem_map_of_mem (f := Prod.snd) h
    exact absurd (map_snd_sent ▸ hm) hn
  case inr => simpa [sent, Effect.told?] using h

theorem refreshLenses_notMem_takeTree :
    .refreshLenses ∉ (takeTree p).filterMap Effect.told? := by
  simp only [takeTree]
  split <;> simp [Effect.told?]

theorem refreshLenses_notMem_reload :
    .refreshLenses ∉ (s.reload env).filterMap Effect.told? := by
  simp only [reload]
  split
  case h_1 => simp
  case h_2 => split <;> simp [Effect.told?]

-- A refresh is the last thing that a message does.
theorem eq_of_refresh_sent (h : (t, .refreshLenses) ∈ s.sent (s.effects d.environment d.message)) :
    t = (s.handle d).session := by
  obtain ⟨m, env, yes⟩ := d
  cases m
  case treeArrived => exact eq_of_refresh_sent_last refreshLenses_notMem_takeTree h
  case configurationChanged => exact eq_of_refresh_sent_last refreshLenses_notMem_reload h
  all_goals simp [effects, sent, Effect.told?] at h

end Session

namespace Lifecycle

variable {s t : Session} {a : Arrival} {l : Lifecycle}

-- What the editor is told when a request comes, and in a whole run.
def toldAt (l : Lifecycle) (a : Arrival) : List ClientMessage :=
  (l.handle a.environment a.accepts a.request).elim [] Turn.told

def told (l : Lifecycle) : List Arrival → List ClientMessage
  | [] => []
  | a :: run => l.toldAt a ++ (l.next a).told run

theorem toldAt_of_opening? (h : a.opening? = some o) :
    fresh.toldAt a = (Session.start a.environment o).told := by
  have ⟨_, _, hh⟩ := handle_of_opening? h
  simp [toldAt, hh]

theorem toldAt_of_opening?_eq_none (h : a.opening? = none) : fresh.toldAt a = [] := by
  simp only [toldAt, handle, turn]
  split
  case h_1 hm =>
    obtain ⟨_, hs⟩ := start_of_opening?_eq_none hm h
    rw [hs]
    rfl
  case h_7 => split <;> rfl
  all_goals rfl

theorem toldAt_of_delivery? (h : a.delivery? = some d) :
    (running s).toldAt a = (s.handle d).told := by
  obtain ⟨m, hm, rfl⟩ := Option.map_eq_some_iff.mp h
  simp [toldAt, handle_of_message? hm]

theorem toldAt_of_message?_eq_none (h : a.message? = none) : (running s).toldAt a = [] := by
  obtain ⟨state, response, -, ht⟩ := heedless_turn h
  simp [toldAt, handle, ht]

theorem IsOver.toldAt (h : l.IsOver) : l.toldAt a = [] := by
  cases l
  case fresh | running => exact h.elim
  case exited => rfl
  case stopped =>
    simp only [Lifecycle.toldAt, handle, turn]
    split
    case h_7 => split <;> rfl
    all_goals rfl

theorem IsOver.told (h : l.IsOver) : l.told run = [] := by
  induction run generalizing l
  case nil => rfl
  case cons a run ih => rw [Lifecycle.told, h.toldAt, ih h.next, List.append_nil]

theorem IsOver.intakes (h : l.IsOver) : l.intakes run = [] := by
  induction run generalizing l
  case nil => rfl
  case cons a run ih => rw [Lifecycle.intakes, h.intake?_eq_none, ih h.next]; rfl

-- All that is told in a session comes from the messages that it takes in, one after another.
theorem told_running (s : Session) (run : List Arrival) : ∃ ds : List Delivery,
    (running s).intakes run = ds.map .delivered ∧
    (running s).told run = (s.visits ds).flatMap fun x => (x.1.handle x.2).told := by
  induction run generalizing s
  case nil => exists []
  case cons a run ih =>
    rw [told, intakes, intake?]
    cases hd : a.delivery?
    case some d =>
      obtain ⟨ds, hi, ht⟩ := ih (s.handle d).session
      rw [toldAt_of_delivery? hd, next_of_delivery? hd, hi, ht]
      exists d :: ds
    case none =>
      have hm : a.message? = none := Option.map_eq_none_iff.mp hd
      rw [toldAt_of_message?_eq_none hm]
      obtain hn | ⟨-, l, hl, hn⟩ := next_of_message?_eq_none hm
      case inl => rw [hn s]; exact ih s
      case inr => rw [hn s, hl.told, hl.intakes]; exists []

-- Before there is a session nothing is told, and to open one is to load its settings.
theorem told_fresh (run : List Arrival) : fresh.intakes run = [] ∧ fresh.told run = [] ∨
    ∃ (env : Environment) (o : Opening) (ds : List Delivery),
      fresh.intakes run = .opened env o :: ds.map .delivered ∧
      fresh.told run = (Session.start env o).told ++
        ((Session.start env o).session.visits ds).flatMap fun x => (x.1.handle x.2).told := by
  induction run
  case nil => exact .inl ⟨rfl, rfl⟩
  case cons a run ih =>
    rw [told, intakes]
    cases ho : a.opening?
    case some o =>
      obtain ⟨ds, hi, ht⟩ := told_running (Session.start a.environment o).session run
      rw [toldAt_of_opening? ho, next_of_opening? ho, intake?, ho, hi, ht]
      exact .inr ⟨a.environment, o, ds, rfl, rfl⟩
    case none =>
      have hi : fresh.intake? a = none := by simp [intake?, ho]
      rw [toldAt_of_opening?_eq_none ho, hi]
      obtain hn | hn := next_of_intake?_eq_none hi
      case inl => rw [hn]; exact ih
      case inr => rw [hn.told, hn.intakes]; exact .inl ⟨rfl, rfl⟩

theorem handle_lensesAsked {u : Uri} (h : a.message? = some (.lensesAsked u)) :
    (running s).handle a.environment a.accepts a.request = some ⟨running s,
      a.request.id.map (⟨·, .ok (Reply.lenses (s.lenses? u)).toJson⟩), []⟩ :=
  handle_of_message? h

end Lifecycle

open Lifecycle

-- What comes of a message that leaves the session as `s'`.
structure Announced (s : Session) (a : Arrival) (m : Message) (s' : Session) : Prop where
  -- Whatever the editor answers, it is told the same.
  told : ∃ response ms, Announces s a.environment m ms ∧
    (s.sent (s.effects a.environment m)).map Prod.snd = ms ∧
    ∀ accepts, (running s).handle a.environment accepts a.request = some ⟨running s', response, ms⟩
  refreshed t : (t, .refreshLenses) ∈ s.sent (s.effects a.environment m) → t = s'
  -- So lenses that are asked for then are those of the session as the message leaves it.
  answered t (b : Arrival) u : (t, .refreshLenses) ∈ s.sent (s.effects a.environment m) →
    b.message? = some (.lensesAsked u) →
    (running t).handle b.environment b.accepts b.request = some ⟨running s',
      b.request.id.map (⟨·, .ok (Reply.lenses (s'.lenses? u)).toJson⟩), []⟩

theorem announced {a : Arrival} (h : a.message? = some m) :
    Announced s a m (s.handle ⟨m, a.environment, a.accepts⟩).session := by
  let d : Delivery := ⟨m, a.environment, a.accepts⟩
  let response : Option Response :=
    (s.handle d).reply.bind fun r => a.request.id.map (⟨·, .ok r.toJson⟩)
  have hr {t} (ht : (t, .refreshLenses) ∈ s.sent (s.effects a.environment m)) :
      t = (s.handle d).session := Session.eq_of_refresh_sent (d := d) ht
  constructor
  case told =>
    have hs := Session.announces_handle (s := s) (d := d)
    refine ⟨response, (s.handle d).told, hs, Session.map_snd_sent, fun accepts => ?_⟩
    exact handle_of_message? (a := { a with accepts }) h
  case refreshed => exact fun t => hr
  case answered  => exact fun t b u ht hb => hr ht ▸ handle_lensesAsked hb

-- All that the editor is told in a run, from when the server starts.
inductive Heard (run : List Arrival) : Prop
  | unopened (hi : fresh.intakes run = []) (ht : fresh.told run = [])
  | opened (hi : fresh.intakes run = .opened env o :: ds.map .delivered)
      (ho : Reports { workspaceRoot := o.workspaceRoot } env first)
      (hm : List.Forall₂ (fun x ms => Announces x.1 x.2.environment x.2.message ms)
        ((Session.start env o).session.visits ds) rest)
      (ht : fresh.told run = first ++ rest.flatten)

theorem heard (run : List Arrival) : Heard run := by
  obtain ⟨hi, ht⟩ | ⟨env, o, ds, hi, ht⟩ := told_fresh run
  case inl => exact .unopened hi ht
  case inr =>
    refine .opened hi Session.reports_reload ?_ (ht.trans (congrArg _ List.flatMap_def))
    rw [List.forall₂_map_right_iff, List.forall₂_same]
    exact fun x _ => Session.announces_handle

theorem messages_announced :
    (∀ s (a : Arrival) m, a.message? = some m → ∃ s', Announced s a m s') ∧
    ∀ run, Heard run :=
  ⟨fun _ _ _ hm => ⟨_, announced hm⟩, heard⟩

-- A tree that is none, of the document `/w/a`.
def misfit : Arrival where
  request := ⟨"doclens/syntaxTree",
    some (.obj [("uri", .str "file:///w/a"), ("syntaxTree", .arr [])]), none⟩
  environment := ⟨.bare [], .ofString ""⟩

theorem messages_announced_misfit : ∃ s s' response text,
    fresh.after [.opens "file:///w" misfit.environment] = running s ∧
    (running s).handle misfit.environment false misfit.request =
      some ⟨running s', response, [.log .error text, .refreshLenses]⟩ := by
  have ⟨s, h⟩ : ∃ s, fresh.after [.opens "file:///w" misfit.environment] = running s := ⟨_, rfl⟩
  have ⟨p, hm, hr⟩ : ∃ p, misfit.message? = some (.treeArrived p) ∧
      p.response.root = .error ⟨.array⟩ := ⟨_, rfl, by with_unfolding_all rfl⟩
  have ⟨s', hs⟩ := messages_announced.1 s misfit _ hm
  obtain ⟨response, ms, ha, -, ht⟩ := hs.told
  cases ha
  case tree hr'   => cases hr.symm.trans hr'
  case malformed  => exact ⟨s, s', response, _, h, ht false⟩

-- The settings of the workspace `/w` are of no use.
def broken : Environment :=
  ⟨(FileTree.bare []).record (.ofString "/w/.doclens.toml") "= broken", .ofString "/h"⟩

-- A session may have something to tell before it is open.
theorem not_silent_opening :
    ¬∀ (a : Arrival) o, a.opening? = some o → fresh.told [a] = [] := by
  intro h
  have ⟨o, ho, ht⟩ : ∃ o, (Arrival.opens "file:///w" broken).opening? = some o ∧
      (Session.start broken o).told ≠ [] := ⟨_, rfl, by decide +kernel⟩
  have hn := h _ o ho
  rw [told, toldAt_of_opening? ho] at hn
  exact ht (List.append_eq_nil_iff.mp hn).1

end ApiLens
