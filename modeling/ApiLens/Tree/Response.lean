import ApiLens.Tree.OfJson

/-!
The answer of a language server that is asked for a syntax tree.
-/

namespace ApiLens

structure TreeResponse where
  parseSuccess : Option Bool := none
  tree : Option Json := none

namespace TreeResponse

/-- The tree, or nothing when the source did not parse or no tree was sent. -/
def root (r : TreeResponse) : Except NotANode (Option Node) :=
  if r.parseSuccess = some false then .ok none
  else
    match r.tree with
    | none => .ok none
    | some .null => .ok none
    | some tree => (Node.ofJson tree).map some

def shape : RecordShape := ⟨"SyntaxTreeResponse", ["parseSuccess", "syntaxTree"]⟩

def step (r : TreeResponse) (key : String) (v : Json) : Except DecodeError TreeResponse :=
  match key with
  | "parseSuccess" => do return { r with parseSuccess := ← Decoder.option .bool v }
  | "syntaxTree" => do return { r with tree := ← Decoder.option .any v }
  | _ => .ok r

def decode : Decoder TreeResponse :=
  shape.read {} step fun _ r => .ok r

def fields (r : TreeResponse) : Json.Fields :=
  [("parseSuccess", .ofOption .bool r.parseSuccess), ("syntaxTree", .ofOption id r.tree)]

end TreeResponse

/-- A response together with the document that it is about. -/
structure TreeParams where
  uri : Uri
  response : TreeResponse

namespace TreeParams

/-- The fields of the response stand beside the URI, which is looked at first. -/
def decode : Decoder TreeParams
  | .obj fields => do
    let uri ← match Json.Fields.get? fields "uri" with
      | some v => Decoder.uri v
      | none => throw (DecodeError.missingField "uri")
    let response ← fields.foldlM (fun r (key, v) => r.step key v) ({} : TreeResponse)
    return ⟨uri, response⟩
  | v => .error (.invalidType v "struct SyntaxTreeParams")

def toJson (p : TreeParams) : Json :=
  .obj (("uri", .str p.uri.text) :: p.response.fields)

end TreeParams
end ApiLens
