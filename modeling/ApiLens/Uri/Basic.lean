import ApiLens.Uri.Host

/-!
URIs in their normal form, the paths that `file:` URIs stand for, and the URIs of paths.
-/

namespace ApiLens

inductive Route
  /-- A path that is not divided, as in `mailto:` URIs. -/
  | undivided (text : String)
  | segments (parts : List String)
deriving DecidableEq, Repr

structure Authority where
  userinfo : String
  host : Host
  port : Option Nat
deriving DecidableEq, Repr

structure Uri where
  scheme : String
  authority : Option Authority
  route : Route
  query : Option String
  fragment : Option String
deriving DecidableEq, Repr

namespace Authority

def text (a : Authority) : String :=
  "//" ++ (if a.userinfo.isEmpty then "" else a.userinfo ++ "@") ++ a.host.text
    ++ (a.port.map fun p => ":" ++ toString p).getD ""

end Authority

namespace Route

def text : Route → String
  | undivided text => text
  | segments parts => String.join (parts.map ("/" ++ ·))

/-- Whether the path would be taken for an authority. -/
def isAmbiguous : Route → Bool
  | segments ("" :: _ :: _) => true
  | _ => false

end Route

namespace Uri

def text (u : Uri) : String :=
  let route := match u.authority with
    | some a => a.text ++ u.route.text
    | none => (if u.route.isAmbiguous then "/." else "") ++ u.route.text
  u.scheme ++ ":" ++ route ++ (u.query.map ("?" ++ ·)).getD "" ++ (u.fragment.map ("#" ++ ·)).getD ""

def isLocal (u : Uri) : Bool :=
  match u.authority with
  | none => true
  | some a => a.host = .absent || a.host = .domain "localhost"

/-- A drive letter at the end is a directory. -/
def endsInDrive (bytes : List UInt8) : Bool :=
  match bytes.reverse with
  | mark :: letter :: _ :: _ =>
    (mark == ':'.toUInt8 || mark == '|'.toUInt8) && (Char.ofNat letter.toNat).isAlpha
  | _ => false

/-- The file that a URI on this machine stands for. -/
def filePath? (u : Uri) : Option Path :=
  match u.route with
  | .segments (first :: rest) =>
    if u.isLocal then
      let bytes := (first :: rest).flatMap fun part => '/'.toUInt8 :: Percent.decode part.toList
      let bytes := if endsInDrive bytes then bytes ++ ['/'.toUInt8] else bytes
      some (.ofBytes bytes)
    else none
  | _ => none

/-- The `file:` URI of an absolute path. -/
def ofPath? (p : Path) : Option String :=
  if p.isAbsolute then
    let parts := (p.components.drop 1).map fun
      | .normal s => s.percentEncoded
      | .up => ".."
      | .current => "."
      | .root => ""
    some ("file://" ++ if parts.isEmpty then "/" else String.join (parts.map ("/" ++ ·)))
  else none

end Uri
end ApiLens
