import ApiLens.Json.Reader
import ApiLens.Session.Lifecycle

/-!
A server at the end of a line to an editor.

Each text that comes in is a request or an answer, and each that goes out is a response, a notice or a
request of the server, which are numbered. A text on the line stands behind a header that tells its length.
-/

namespace ApiLens

structure Connection where
  state : Lifecycle := .fresh
  /-- How many requests the server has sent, which numbers the next one. -/
  asked : Nat := 0

/-- What an editor sends. -/
inductive Incoming
  | request (request : Request)
  /-- An answer to a request of the server, which changes nothing. -/
  | answer

/-- The version that every text on the line carries. -/
def Json.versioned (fields : Json.Fields) : Json := .obj (("jsonrpc", .str "2.0") :: fields)

namespace Incoming

/-- An id is a text, a whole number or `null`, which is an id like the others. -/
def id? : Json → Option Json
  | .null => some .null
  | .str s => some (.str s)
  | .num (.int i) => if fitsSigned 64 i then some (.num (.int i)) else none
  | _ => none

/-- A fault that an editor reports has a code and says what it is about. It may be given as a list, in which
nothing is left out. -/
def isFault : Json → Bool
  | .obj fields => isCode (Json.Fields.get? fields "code") && isText (Json.Fields.get? fields "message")
  | .arr [code, text, _] => isCode (some code) && isText (some text)
  | _ => false
where
  isCode : Option Json → Bool
    | some (.num (.int i)) => fitsSigned 64 i
    | _ => false
  isText : Option Json → Bool
    | some (.str _) => true
    | _ => false

/-- An answer names what it answers and has a result or a fault. What else it has does not matter. -/
def isAnswer (fields : Json.Fields) : Bool :=
  ((Json.Fields.get? fields "id").bind id?).isSome
    && ((Json.Fields.get? fields "result").isSome
      || (Json.Fields.get? fields "error").any isFault)

def isVersioned (fields : Json.Fields) : Bool :=
  (Json.Fields.get? fields "jsonrpc").bind Json.text? == some "2.0"

/-- A request has the version at least. Without a method it asks for the method without a name. -/
def request? (fields : Json.Fields) : Option Request := do
  guard (isVersioned fields)
  let method ← ((Json.Fields.get? fields "method").getD (.str "")).text?
  match Json.Fields.get? fields "id" with
  | none => return ⟨method, Json.Fields.get? fields "params", none⟩
  | some v => return ⟨method, Json.Fields.get? fields "params", some (← id? v)⟩

/-- A request may be given as a list of its parts. -/
def ofJson? : Json → Option Incoming
  | .obj fields => do
    if isVersioned fields && isAnswer fields then return answer
    return request (← request? fields)
  | .arr items =>
    if items.length ≤ parts.length then request <$> request? (parts.zip items) else none
  | _ => none
where
  parts : List String := ["jsonrpc", "method", "params", "id"]

end Incoming

/-- What comes of a text: what is written then, and the connection unless it ends there. -/
structure Exchange where
  next : Option Connection
  written : List Json

namespace Connection

/-- What is written for a message of the server. -/
def written (c : Connection) : ClientMessage → Connection × Json
  | m@(.log ..) => (c, .versioned [("method", .str m.method), ("params", m.params)])
  | m@.refreshLenses =>
    ({ c with asked := c.asked + 1 },
      .versioned [("method", .str m.method), ("params", m.params), ("id", .ofNat c.asked)])

def writtenAll (c : Connection) : List ClientMessage → Connection × List Json
  | [] => (c, [])
  | m :: rest =>
    let (c, v) := c.written m
    let (c, vs) := c.writtenAll rest
    (c, v :: vs)

/-- What cannot be taken ends the connection after a last word about it. -/
def complaint (refusal : Refusal) : Exchange :=
  ⟨none, [.versioned (Response.fields ⟨.null, .error refusal⟩)]⟩

/-- Takes a text. It is no longer listened to once the server has exited. -/
def receive (c : Connection) (env : Environment) (text : String) : Exchange :=
  match Json.parse text with
  | .error _ => complaint .unreadable
  | .ok v =>
    match Incoming.ofJson? v with
    | none => complaint .outOfTurn
    | some .answer => ⟨some c, []⟩
    | some (.request q) =>
      match c.state.handle env true q with
      | none => ⟨none, []⟩
      | some turn =>
        let (c, told) := ({ c with state := turn.state }).writtenAll turn.told
        ⟨some c, told ++ (turn.response.map fun r => Json.versioned r.fields).toList⟩

/-- Every file that a text makes the server look at. -/
def candidates (c : Connection) (home : Path) (text : String) : List Path :=
  match (Json.parse text).toOption.bind Incoming.ofJson? with
  | some (.request q) => c.state.candidates home q
  | _ => []

end Connection

/-- A text on the line. -/
def framed (text : String) : String :=
  "Content-Length: " ++ toString text.utf8ByteSize ++ "\r\n\r\n" ++ text

/-- The length that a line of a header tells. -/
def contentLength? (line : String) : Option Nat :=
  let trimmed := line.trimAscii.toString
  if trimmed.startsWith "Content-Length:" then
    (trimmed.drop "Content-Length:".length).toString.trimAscii.toString.toNat?
  else none

end ApiLens
