import ApiLens.Json.Decode
import ApiLens.Json.Printer

/-!
Requests and notices of an editor, responses to them, and why one is refused.
-/

namespace ApiLens

/-- A message from the editor. What has an id wants a response, and what has none wants none. -/
structure Request where
  method : String
  params : Option Json := none
  id : Option Json := none

/-- Why a request is refused. -/
inductive Refusal
  | notStarted
  | outOfTurn
  | unknownMethod (name : String)
  /-- A method of the protocol that the server does not offer. -/
  | notOffered
  | noParams
  | unfitParams (cause : DecodeError)
  | needlessParams (params : Json)
  | unreadable

namespace Refusal

def code : Refusal → Int
  | notStarted => -32002
  | outOfTurn => -32600
  | unknownMethod _ | notOffered => -32601
  | noParams | unfitParams _ | needlessParams _ => -32602
  | unreadable => -32700

def message : Refusal → String
  | notStarted => "Server not initialized"
  | outOfTurn => "Invalid request"
  | unknownMethod _ | notOffered => "Method not found"
  | noParams => "Missing params field"
  | unfitParams cause => cause.message
  | needlessParams params => "Unexpected params: " ++ params.compact
  | unreadable => "Parse error"

def data? : Refusal → Option Json
  | unknownMethod name => some (.str name)
  | _ => none

def toJson (r : Refusal) : Json :=
  .obj ([("code", .num (.int r.code)), ("message", .str r.message)]
    ++ (r.data?.map fun d => ("data", d)).toList)

end Refusal

structure Response where
  id : Json
  result : Except Refusal Json

namespace Response

def fields (r : Response) : Json.Fields :=
  match r.result with
  | .ok v => [("result", v), ("id", r.id)]
  | .error refusal => [("error", refusal.toJson), ("id", r.id)]

end Response

end ApiLens
