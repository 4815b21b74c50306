import ApiLens.Session.Lifecycle
import Mathlib.Data.List.Basic

/-!
Runs of a server, and what its session has taken in.

A run that has a session open opened it once, and from then on the session is what the messages that
fit have made of it, one after another.
-/

namespace ApiLens

-- A request, and what the server sees when it comes.
structure Arrival where
  request : Request
  environment : Environment
  accepts : Bool := true

namespace Arrival

variable (a : Arrival)

-- What the request says to a server that has no session yet.
def opening? : Option Opening :=
  match Method.of? a.request.method, a.request.id, a.request.params with
  | some .start, some _, some params => (Opening.decode params).toOption
  | _, _, _ => none

def reader? : Option (Json → Except Refusal Message) :=
  match Method.of? a.request.method with
  | some (.request read) => if a.request.id.isSome then some read else none
  | some (.notice read) => if a.request.id.isSome then none else some read
  | _ => none

-- What the request says to a server that has a session open.
def message? : Option Message :=
  a.reader?.bind fun read => (a.request.message read).toOption

-- Only such a request puts an end to a session.
def Ends : Prop :=
  Method.of? a.request.method = some .shutdown ∨ Method.of? a.request.method = some .exit

def delivery? : Option Delivery :=
  a.message?.map (⟨·, a.environment, a.accepts⟩)

theorem message?_of_request {params id : Json}
    (hm : Method.of? method = some (.request (Method.fitting d))) (h : d params = .ok m) :
    message? ⟨⟨method, some params, some id⟩, env, yes⟩ = some m := by
  simp [message?, reader?, hm, Request.message, Method.fitting, h, Except.toOption]

-- The shortest request that opens a session on a workspace.
def opens (root : String) (env : Environment) : Arrival where
  request :=
    ⟨"initialize", some (.obj [("capabilities", .obj []), ("rootUri", .str root)]), some .null⟩
  environment := env

end Arrival

-- What becomes part of a session.
inductive Intake
  | opened (environment : Environment) (opening : Opening)
  | delivered (delivery : Delivery)

def Intake.message? : Intake → Option Message
  | opened .. => none
  | delivered d => some d.message

theorem Intake.filterMap_message?_delivered (ds : List Delivery) :
    (ds.map delivered).filterMap message? = ds.map Delivery.message := by
  rw [List.filterMap_map]
  exact congrFun List.filterMap_eq_map ds

-- What is seen when it makes the session load its settings.
def Intake.load? : Intake → Option Environment
  | opened env _ => some env
  | delivered ⟨.configurationChanged, env, _⟩ => some env
  | delivered _ => none

namespace Lifecycle

def next (s : Lifecycle) (a : Arrival) : Lifecycle :=
  match s.handle a.environment a.accepts a.request with
  | some turn => turn.state
  | none => s

def after (s : Lifecycle) (run : List Arrival) : Lifecycle := run.foldl next s

def intake? : Lifecycle → Arrival → Option Intake
  | fresh, a => a.opening?.map (.opened a.environment)
  | running _, a => a.delivery?.map .delivered
  | _, _ => none

def intakes (s : Lifecycle) : List Arrival → List Intake
  | [] => []
  | a :: run => (s.intake? a).toList ++ (s.next a).intakes run

-- The messages that a session has handled.
def handled (s : Lifecycle) (run : List Arrival) : List Message :=
  (s.intakes run).filterMap Intake.message?

-- What is seen each time that settings are loaded.
def loads (s : Lifecycle) (run : List Arrival) : List Environment :=
  (s.intakes run).filterMap Intake.load?

-- No session is open, and none will be.
def IsOver : Lifecycle → Prop
  | stopped | exited => True
  | _ => False

-- Whatever a session holds, it stays, or else it comes to an end where `ends`, and the answer is
-- the same.
def Heedless (ends : Prop) (turn : Session → Turn) : Prop :=
  ∃ (state : Session → Lifecycle) (response : Option Response),
    (state = running ∨ ends ∧ ∃ l, l.IsOver ∧ state = fun _ => l) ∧
      ∀ s, turn s = ⟨state s, response, []⟩

section Turn

variable {s s' : Session} {a : Arrival} {l : Lifecycle} {read : Json → Except Refusal Message}

@[simp]
theorem state_refusing : (refusing l q refusal).state = l := rfl

theorem handle_of_opening? (h : a.opening? = some o) :
    ∃ id, a.request.id = some id ∧ fresh.handle a.environment a.accepts a.request =
      some ⟨running (Session.start a.environment o).session, some ⟨id, .ok offer⟩,
        (Session.start a.environment o).told⟩ := by
  simp only [Arrival.opening?] at h
  split at h
  case h_1 id params hm hi hp =>
    cases hd : Opening.decode params <;> rw [hd] at h <;> cases h
    exact ⟨id, hi, by simp [handle, turn, hm, start, hi, hp, hd, answering]⟩
  case h_2 => cases h

theorem turn_of_reader? (h : a.reader? = some read) :
    (running s).turn a.environment a.accepts a.request =
      deliver s a.environment a.accepts a.request read := by
  simp only [Arrival.reader?] at h
  split at h
  case h_1 => cases hi : a.request.id <;> simp_all [turn, request]
  case h_2 => cases hi : a.request.id <;> simp_all [turn, notice]
  case h_3 => cases h

theorem deliver_of_ok (h : q.message read = .ok m) :
    deliver s env accepts q read =
      let o := s.handle ⟨m, env, accepts⟩
      ⟨running o.session, o.reply.bind fun r => q.id.map (⟨·, .ok r.toJson⟩), o.told⟩ := by
  simp only [deliver, h]
  cases (s.handle ⟨m, env, accepts⟩).reply <;> rfl

theorem handle_of_message? (h : a.message? = some m) :
    (running s).handle a.environment a.accepts a.request =
      let o := s.handle ⟨m, a.environment, a.accepts⟩
      some ⟨running o.session, o.reply.bind fun r => a.request.id.map (⟨·, .ok r.toJson⟩),
        o.told⟩ := by
  have ⟨read, hr, hm⟩ := Option.bind_eq_some_iff.mp h
  cases hq : a.request.message read <;> rw [hq] at hm <;> cases hm
  simp [handle, turn_of_reader? hr, deliver_of_ok hq]

theorem start_of_opening?_eq_none (hm : Method.of? a.request.method = some .start)
    (h : a.opening? = none) :
    ∃ response, fresh.start a.environment a.request = ⟨fresh, response, []⟩ := by
  simp only [Arrival.opening?, hm] at h
  simp only [start]
  split
  case h_1 => exact ⟨_, rfl⟩
  case h_2 => exact ⟨_, rfl⟩
  case h_3 params hi hp =>
    cases hd : Opening.decode params
    case error => exact ⟨_, rfl⟩
    case ok => simp [hi, hp, hd, Except.toOption] at h

theorem heedless_refusing : Heedless ends fun s => (running s).refusing q refusal :=
  ⟨running, _, .inl rfl, fun _ => rfl⟩

theorem heedless_idle : Heedless ends fun s => ⟨running s, none, []⟩ :=
  ⟨running, _, .inl rfl, fun _ => rfl⟩

theorem heedless_shutDown (h : ends) : Heedless ends fun s => (running s).shutDown q := by
  simp only [shutDown]
  cases q.params
  all_goals exact ⟨fun _ => stopped, _, .inr ⟨h, stopped, trivial, rfl⟩, fun _ => rfl⟩

theorem heedless_deliver (hr : a.reader? = some read) (h : a.message? = none) :
    Heedless ends fun s => deliver s a.environment a.accepts a.request read := by
  cases hq : a.request.message read
  case error => simpa only [deliver, hq] using heedless_refusing
  case ok    => simp [Arrival.message?, hr, hq, Except.toOption] at h

-- What says nothing to a session is answered without a look at it.
theorem heedless_turn (h : a.message? = none) :
    Heedless a.Ends fun s => (running s).turn a.environment a.accepts a.request := by
  cases hr : a.reader?
  case some read => simpa only [turn_of_reader? hr] using heedless_deliver hr h
  case none =>
    simp only [Arrival.reader?] at hr
    cases hm : Method.of? a.request.method <;> simp only [hm, turn] at hr ⊢
    case none => split; exacts [heedless_idle, heedless_refusing]
    case some k =>
      cases k
      case shutdown => exact heedless_shutDown (.inl hm)
      case exit => exact ⟨fun _ => exited, _, .inr ⟨.inr hm, exited, trivial, rfl⟩, fun _ => rfl⟩
      -- A message with a wrong id is refused or passed over.
      case request => cases hi : a.request.id <;> simp_all [request, heedless_idle]
      case notice  => cases hi : a.request.id <;> simp_all [notice, heedless_refusing]
      all_goals exact heedless_refusing

theorem next_of_message?_eq_none (h : a.message? = none) : (∀ s, (running s).next a = running s) ∨
    a.Ends ∧ ∃ l, l.IsOver ∧ ∀ s, (running s).next a = l := by
  have ⟨state, _, hs, ht⟩ := heedless_turn h
  simp only [next, handle, ht]
  obtain rfl | ⟨he, l, hl, rfl⟩ := hs
  · exact .inl fun _ => rfl
  · exact .inr ⟨he, l, hl, fun _ => rfl⟩

-- What is not taken in changes nothing, unless it puts an end to the session.
theorem next_of_intake?_eq_none (h : l.intake? a = none) : l.next a = l ∨ (l.next a).IsOver := by
  cases l
  case exited => exact .inl rfl
  case fresh =>
    have h : a.opening? = none := by simpa [intake?] using h
    simp only [next, handle, turn]
    split
    case h_1 hm =>
      obtain ⟨_, hs⟩ := start_of_opening?_eq_none hm h
      exact .inl <| congrArg Turn.state hs
    case h_3 => exact .inr trivial
    case h_7 => split <;> exact .inl rfl
    all_goals exact .inl rfl
  case stopped =>
    simp only [next, handle, turn]
    split
    case h_3 => exact .inr trivial
    case h_7 => split <;> exact .inl rfl
    all_goals exact .inl rfl
  case running s =>
    have h : a.message? = none := by simpa [intake?, Arrival.delivery?] using h
    obtain hn | ⟨-, l, hl, hn⟩ := next_of_message?_eq_none h
    · exact .inl (hn s)
    · exact .inr (hn s ▸ hl)

theorem next_of_opening? (h : a.opening? = some o) :
    fresh.next a = running (Session.start a.environment o).session := by
  have ⟨_, _, hh⟩ := handle_of_opening? h
  simp [next, hh]

theorem next_of_message? (h : a.message? = some m) :
    (running s).next a = running (s.handle ⟨m, a.environment, a.accepts⟩).session := by
  simp [next, handle_of_message? h]

theorem next_of_delivery? (h : a.delivery? = some d) :
    (running s).next a = running (s.handle d).session := by
  have ⟨m, hm, hd⟩ := Option.map_eq_some_iff.mp h
  rw [next_of_message? hm, hd]

theorem IsOver.intake?_eq_none (h : l.IsOver) : l.intake? a = none := by
  cases l <;> simp_all [IsOver, intake?]

theorem IsOver.next (h : l.IsOver) : (l.next a).IsOver := by
  obtain hn | hn := next_of_intake?_eq_none h.intake?_eq_none
  · rwa [hn]
  · exact hn

theorem IsOver.after (h : l.IsOver) : (l.after run).IsOver := by
  induction run generalizing l
  case nil => exact h
  case cons a run ih => exact ih h.next

theorem not_isOver_running : ¬(running s).IsOver := id

theorem after_cons : l.after (a :: run) = (l.next a).after run := rfl

theorem after_append : l.after (run ++ run') = (l.after run).after run' := List.foldl_append

-- Where a session is open in the end, nothing has put an end to it on the way.
theorem next_eq_of_intake?_eq_none (hi : l.intake? a = none)
    (h : (l.next a).after run = running s) : l.next a = l := by
  obtain hn | hn := next_of_intake?_eq_none hi
  · exact hn
  · exact absurd (h ▸ hn.after) not_isOver_running

theorem next_running_cases (h : (running s).next a = running s') :
    (a.delivery? = none ∧ s' = s) ∨ ∃ d, a.delivery? = some d ∧ s' = (s.handle d).session := by
  cases hd : a.delivery?
  case none =>
    have hi : (running s).intake? a = none := by simp [intake?, hd]
    have ha : ((running s).next a).after [] = running s' := h
    cases (next_eq_of_intake?_eq_none hi ha).symm.trans h
    exact .inl ⟨rfl, rfl⟩
  case some d =>
    cases (next_of_delivery? hd).symm.trans h
    exact .inr ⟨d, rfl, rfl⟩

theorem intakes_of_intake?_eq_none (hi : l.intake? a = none) (hn : l.next a = l) :
    l.intakes (a :: run) = l.intakes run := by
  simp [intakes, hi, hn]

-- From the opening on, a session is what the messages to it have made of it.
theorem intakes_running (h : (running s).after run = running s') :
    ∃ ds : List Delivery, (running s).intakes run = ds.map .delivered ∧ s' = s.after ds := by
  induction run generalizing s
  case nil => cases h; exact ⟨[], rfl, rfl⟩
  case cons a run ih =>
    rw [after_cons] at h
    cases hd : a.delivery?
    -- What ends the session cannot be part of the run, as it would still be over now.
    case none =>
      have hi : (running s).intake? a = none := by simp [intake?, hd]
      have hn := next_eq_of_intake?_eq_none hi h
      rw [intakes_of_intake?_eq_none hi hn]
      exact ih (hn ▸ h)
    case some d =>
      rw [next_of_delivery? hd] at h
      have ⟨ds, hds, hs⟩ := ih h
      exact ⟨d :: ds, by simp [intakes, intake?, hd, next_of_delivery? hd, hds], hs⟩

theorem intakes_fresh (h : fresh.after run = running s) :
    ∃ (env : Environment) (o : Opening) (ds : List Delivery),
      fresh.intakes run = .opened env o :: ds.map .delivered ∧
      s = (Session.start env o).session.after ds := by
  induction run
  case nil => cases h
  case cons a run ih =>
    rw [after_cons] at h
    cases ho : a.opening?
    case none =>
      have hi : fresh.intake? a = none := by simp [intake?, ho]
      have hn := next_eq_of_intake?_eq_none hi h
      rw [intakes_of_intake?_eq_none hi hn]
      exact ih (hn ▸ h)
    case some o =>
      rw [next_of_opening? ho] at h
      have ⟨ds, hds, hs⟩ := intakes_running h
      exact ⟨a.environment, o, ds, by simp [intakes, intake?, ho, next_of_opening? ho, hds], hs⟩

end Turn

end Lifecycle
end ApiLens
