import ApiLens.Session.Method

/-!
The life of a language server.

It opens at most one session. Before that it refuses what is asked and passes over what it is told; the
same holds after the editor has asked it to shut down. Once it has exited it takes nothing.
-/

namespace ApiLens

inductive Lifecycle
  | fresh
  | running (session : Session)
  | stopped
  | exited

/-- What becomes of a request. -/
structure Turn where
  state : Lifecycle
  response : Option Response := none
  told : List ClientMessage := []

namespace Lifecycle

/-- A response to a request, and nothing for what wants none. -/
def answering (s : Lifecycle) (q : Request) (result : Except Refusal Json)
    (told : List ClientMessage) : Turn :=
  ⟨s, q.id.map (⟨·, result⟩), told⟩

def refusing (s : Lifecycle) (q : Request) (refusal : Refusal) : Turn :=
  s.answering q (.error refusal) []

/-- What the server offers to the editor. -/
def offer : Json :=
  .obj [("capabilities", .obj [
      ("textDocumentSync", .obj [("openClose", .bool true), ("change", .ofNat 0)]),
      ("codeLensProvider", .obj [("resolveProvider", .bool true)])]),
    ("serverInfo", .obj [("name", .str "doclens"), ("version", .str "0.1.0")])]

/-- Opens the session. What does not fit may be tried again. -/
def start (s : Lifecycle) (env : Environment) (q : Request) : Turn :=
  match s with
  | fresh =>
    match q.id, q.params with
    | none, _ => ⟨s, none, []⟩
    | some _, none => s.refusing q .noParams
    | some _, some params =>
      match Opening.decode params with
      | .error cause => s.refusing q (.unfitParams cause)
      | .ok opening =>
        let o := Session.start env opening
        (running o.session).answering q (.ok offer) o.told
  | _ => s.refusing q .outOfTurn

/-- Ends the session, even when the request itself is refused. -/
def shutDown (s : Lifecycle) (q : Request) : Turn :=
  match s with
  | running _ =>
    match q.params with
    | none => stopped.answering q (.ok .null) []
    | some params => stopped.refusing q (.needlessParams params)
  | fresh => s.refusing q .notStarted
  | _ => s.refusing q .outOfTurn

/-- Hands a message to the session. -/
def deliver (session : Session) (env : Environment) (accepts : Bool) (q : Request)
    (read : Json → Except Refusal Message) : Turn :=
  match q.message read with
  | .error refusal => (running session).refusing q refusal
  | .ok message =>
    let o := session.handle ⟨message, env, accepts⟩
    match o.reply with
    | some reply => (running o.session).answering q (.ok reply.toJson) o.told
    | none => ⟨running o.session, none, o.told⟩

/-- A request asked without an id is passed over. -/
def request (s : Lifecycle) (env : Environment) (accepts : Bool) (q : Request)
    (read : Json → Except Refusal Message) : Turn :=
  match s with
  | running session => if q.id.isNone then ⟨s, none, []⟩ else deliver session env accepts q read
  | fresh => s.refusing q .notStarted
  | _ => s.refusing q .outOfTurn

/-- A notice given with an id is refused. -/
def notice (s : Lifecycle) (env : Environment) (accepts : Bool) (q : Request)
    (read : Json → Except Refusal Message) : Turn :=
  match s with
  | running session =>
    if q.id.isSome then s.refusing q .outOfTurn else deliver session env accepts q read
  | fresh => s.refusing q .notStarted
  | _ => s.refusing q .outOfTurn

/-- Methods that start so are optional: an unknown one is passed over. -/
def optionalStart : String := "$/"

/-- What a server that has not exited makes of a request. -/
def turn (s : Lifecycle) (env : Environment) (accepts : Bool) (q : Request) : Turn :=
  match Method.of? q.method with
  | some .start => s.start env q
  | some .shutdown => s.shutDown q
  | some .exit => ⟨exited, none, []⟩
  | some .cancel => s.refusing q .outOfTurn
  | some (.request read) => s.request env accepts q read
  | some (.notice read) => s.notice env accepts q read
  | none =>
    if q.method.startsWith optionalStart then ⟨s, none, []⟩
    else s.refusing q (.unknownMethod q.method)

/-- Nothing once the server has exited. -/
def handle (s : Lifecycle) (env : Environment) (accepts : Bool) (q : Request) : Option Turn :=
  match s with
  | exited => none
  | _ => some (s.turn env accepts q)

/-- Every file that a request makes the server look at. -/
def candidates (s : Lifecycle) (home : Path) (q : Request) : List Path :=
  match s, Method.of? q.method with
  | fresh, some .start =>
    match q.params.map Opening.decode with
    | some (.ok opening) => opening.candidates home
    | _ => []
  | running session, some (.request read) | running session, some (.notice read) =>
    match q.message read with
    | .ok message => session.candidates home message
    | .error _ => []
  | _, _ => []

end Lifecycle
end ApiLens
