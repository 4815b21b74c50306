import ApiLens.Protocol.Questions
import ApiLens.Session.Request
import ApiLens.Session.Wire

/-!
The methods that an editor may name.
-/

namespace ApiLens

/-- What a method is for. -/
inductive Method
  | start
  | shutdown
  | exit
  | cancel
  | request (read : Json → Except Refusal Message)
  | notice (read : Json → Except Refusal Message)

namespace Method

def fitting (d : Decoder Message) (params : Json) : Except Refusal Message :=
  match d params with
  | .ok m => .ok m
  | .error cause => .error (.unfitParams cause)

/-- The parameters of what is not offered must fit all the same. -/
def unoffered (wanted : Check) (params : Json) : Except Refusal Message :=
  match wanted params with
  | .ok () => .error .notOffered
  | .error cause => .error (.unfitParams cause)

def offered : List (String × Method) :=
  [("initialize", start), ("shutdown", shutdown), ("exit", exit), ("$/cancelRequest", cancel),
    ("initialized", notice (fitting Message.decodeReady)),
    ("textDocument/didClose", notice (fitting Message.decodeClosed)),
    ("workspace/didChangeConfiguration", notice (fitting Message.decodeConfigurationChanged)),
    ("doclens/syntaxTree", notice (fitting Message.decodeTreeArrived)),
    ("textDocument/codeLens", request (fitting Message.decodeLensesAsked)),
    ("codeLens/resolve", request (fitting Message.decodeLensChosen)),
    ("doclens/projectOverview", request (fitting Message.decodeOverviewAsked)),
    ("doclens/projectRoots", request (fitting Message.decodeRootsAsked))]

/-- Notices of the protocol that the server passes over. -/
def unofferedNotices : List String :=
  ["textDocument/didOpen", "textDocument/didChange", "textDocument/willSave",
    "textDocument/didSave", "workspace/didChangeWorkspaceFolders", "workspace/didCreateFiles",
    "workspace/didRenameFiles", "workspace/didDeleteFiles", "workspace/didChangeWatchedFiles"]

def of? (method : String) : Option Method :=
  match offered.lookup method with
  | some m => some m
  | none =>
    match Protocol.questions.lookup method with
    | some wanted => some (request (unoffered wanted))
    | none => if unofferedNotices.contains method then some (notice (unoffered .any)) else none

end Method

namespace Request

/-- Reads the parameters. They may be `null`, but they must be there. -/
def message (q : Request) (read : Json → Except Refusal Message) : Except Refusal Message :=
  match q.params with
  | some params => read params
  | none => .error .noParams

end Request

end ApiLens
