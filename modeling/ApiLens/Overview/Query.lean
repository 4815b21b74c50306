import ApiLens.Overview.Layout

/-!
The request for a project's tree.
-/

namespace ApiLens

structure OverviewQuery where
  sourceRoot : Path
  packages : List Package := []
deriving DecidableEq, Repr

namespace OverviewQuery

def elements (q : OverviewQuery) : List Element := projectTree q.packages q.sourceRoot

def toJson (q : OverviewQuery) : Json :=
  .obj [("sourceRoot", .str q.sourceRoot.shown), ("packages", .arr (q.packages.map Package.toJson))]

def shape : RecordShape := ⟨"ProjectOverviewParams", ["sourceRoot", "packages"]⟩

structure Parts where
  sourceRoot : Option Path := none
  packages : List Package := []

def step (p : Parts) (key : String) (v : Json) : Except DecodeError Parts :=
  match key with
  | "sourceRoot" => do return { p with sourceRoot := some (← Decoder.path v) }
  | "packages" => do return { p with packages := ← Decoder.list Package.decode v }
  | _ => .ok p

def finish (missing : String → DecodeError) (p : Parts) : Except DecodeError OverviewQuery := do
  return ⟨← required missing "sourceRoot" p.sourceRoot, p.packages⟩

def decode : Decoder OverviewQuery := shape.read {} step finish

end OverviewQuery
end ApiLens
