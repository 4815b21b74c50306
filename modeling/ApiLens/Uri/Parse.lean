import ApiLens.Uri.Basic

/-!
Reading absolute URIs into their normal form.

Blanks and controls around the text, and tabs and line ends in it, do not count. The schemes of the
web take backslashes for slashes and have a host; `file:` may have one; any other scheme keeps what it
has. Dots in divided paths are resolved.
-/

namespace ApiLens.Uri

inductive SchemeKind
  | file
  | web
  | plain
deriving DecidableEq

def SchemeKind.of (scheme : String) : SchemeKind :=
  if scheme = "file" then .file
  else if ["http", "https", "ws", "wss", "ftp"].contains scheme then .web
  else .plain

def SchemeKind.isSpecial (k : SchemeKind) : Bool := k != .plain

def defaultPort? (scheme : String) : Option Nat :=
  if scheme = "http" ∨ scheme = "ws" then some 80
  else if scheme = "https" ∨ scheme = "wss" then some 443
  else if scheme = "ftp" then some 21
  else none

def isSlash (kind : SchemeKind) (c : Char) : Bool := c == '/' || (kind.isSpecial && c == '\\')

def isPathEnd (c : Char) : Bool := c == '?' || c == '#'

def isAuthorityEnd (kind : SchemeKind) (c : Char) : Bool := isSlash kind c || isPathEnd c

/-- Without what does not count. -/
def clean (cs : List Char) : List Char :=
  let outer (c : Char) := c ≤ ' '
  let cs := ((cs.dropWhile outer).reverse.dropWhile outer).reverse
  cs.filter fun c => !(['\t', '\n', '\r'].contains c)

/-- The scheme, lower-cased, and what follows its colon. -/
def scheme? (cs : List Char) : Option (String × List Char) :=
  let isSchemeChar (c : Char) := c.isAlphanum || ['+', '-', '.'].contains c
  match cs.takeWhile isSchemeChar, cs.dropWhile isSchemeChar with
  | c :: name, ':' :: rest =>
    if c.isAlpha then some (String.ofList ((c :: name).map Char.toLower), rest) else none
  | _, _ => none

section Paths

def isDriveMark (c : Char) : Bool := c == ':' || c == '|'

def isDrive : List Char → Bool
  | [letter, mark] => letter.isAlpha && isDriveMark mark
  | _ => false

def isNormalDrive : List Char → Bool
  | [letter, ':'] => letter.isAlpha
  | _ => false

def startsWithDrive : List Char → Bool
  | letter :: mark :: rest =>
    letter.isAlpha && isDriveMark mark && rest.head?.all fun c => c == '/' || c == '\\'
  | _ => false

def isSingleDot (part : String) : Bool := [".", "%2e"].contains part.toLower

def isDoubleDot (part : String) : Bool :=
  ["..", ".%2e", "%2e.", "%2e%2e"].contains part.toLower

/-- A path as far as it is written. -/
structure PathText where
  text : List Char
  /-- Whether it names a drive, which then stands for the host. -/
  hasDrive : Bool := false

namespace PathText

/-- How much of a text is left when its last part is taken off. -/
def lastStart (text : List Char) : Nat :=
  (text.reverse.dropWhile (· != '/')).length

/-- Whether the slash at the end may go: there is a part before it, and that is no drive. -/
def hasLooseSlash (text : List Char) : Bool :=
  let start := lastStart text.dropLast
  text.getLast? == some '/' && start != 0 && !startsWithDrive (text.drop start)

/-- Takes the last part off, unless it is the drive of a file. -/
def shorten (kind : SchemeKind) (text : List Char) : List Char :=
  let start := lastStart text
  if kind = .file && isNormalDrive (text.drop start) then text else text.take start

def closed (text : List Char) : List Char :=
  if text.getLast? == some '/' then text else text ++ ['/']

/-- Writes one character; a drive ends before it. The second part tells where the part began. -/
def write (kind : SchemeKind) (text : List Char) (start : Nat) (c : Char) : List Char × Nat :=
  let encoded := (Percent.encode Percent.isPath [c]).toList
  if kind = .file && isNormalDrive (text.drop 1) then (text ++ '/' :: encoded, start + 1)
  else (text ++ encoded, start)

/-- Adds one part, and the slash after it unless it is the last one. -/
def add (kind : SchemeKind) (p : PathText) (piece : List Char) (isLast : Bool) : PathText :=
  let before := p.text.length
  let (text, start) := piece.foldl (fun (text, start) c => write kind text start c) (p.text, before)
  let part := text.drop start
  let slash := if isLast then [] else ['/']
  if isDoubleDot (String.ofList part) then
    let kept := text.take start
    let shorter := shorten kind (if hasLooseSlash kept then kept.dropLast else kept)
    { p with text := if isLast then shorter else closed shorter }
  else if isSingleDot (String.ofList part) then { p with text := closed (text.take start) }
  else if kind = .file && start == 1 && isDrive part then
    ⟨text.take start ++ part.take 1 ++ ':' :: slash, true⟩
  else { p with text := text ++ slash }

def addAll (kind : SchemeKind) : PathText → List (List Char) → PathText
  | p, [] => p
  | p, [piece] => p.add kind piece true
  | p, piece :: rest => addAll kind (p.add kind piece false) rest

/-- Reads a path behind its first slash. A file has no more than one slash there. -/
def read (kind : SchemeKind) (cs : List Char) : PathText :=
  let p := addAll kind ⟨['/'], false⟩ (splitAt '/' (cs.map fun c => if isSlash kind c then '/' else c))
  if kind = .file then { p with text := '/' :: p.text.dropWhile (· == '/') } else p

def route (p : PathText) : Route :=
  .segments ((splitAt '/' (p.text.drop 1)).map String.ofList)

end PathText

/-- A path without its first slash, if it has one. -/
def afterSlash (kind : SchemeKind) : List Char → List Char
  | c :: cs => if isSlash kind c then cs else c :: cs
  | [] => []

end Paths

section Authorities

/-- User name and password, with a colon only before a password that is not empty. -/
def userinfo (cs : List Char) : String :=
  let name := cs.takeWhile (· != ':')
  let password := (cs.dropWhile (· != ':')).drop 1
  Percent.encode Percent.isUserinfo name
    ++ (if password.isEmpty then "" else ":" ++ Percent.encode Percent.isUserinfo password)

/-- Splits at the last `@`. -/
def splitUser (cs : List Char) : Option (List Char × List Char) :=
  if cs.contains '@' then
    let back := cs.reverse
    some ((back.dropWhile (· != '@')).drop 1 |>.reverse, (back.takeWhile (· != '@')).reverse)
  else none

/-- The host and what follows it: a colon ends it, but not between brackets. -/
def splitHost : (isInside : Bool) → List Char → List Char × List Char
  | _, [] => ([], [])
  | isInside, c :: rest =>
    if c = ':' ∧ !isInside then ([], c :: rest)
    else
      let isInside := if c = '[' then true else if c = ']' then false else isInside
      let (host, port) := splitHost isInside rest
      (c :: host, port)

/-- Reads a port behind its colon, and what follows it. -/
def port? (scheme : String) (cs : List Char) : Except UriError (Option Nat × List Char) :=
  match cs with
  | [] => .ok (none, [])
  | _ :: cs =>
    let digits := cs.takeWhile Char.isDigit
    let rest := cs.dropWhile Char.isDigit
    let value := digits.foldl (fun n c => n * 10 + (c.toNat - '0'.toNat)) 0
    if 65535 < value || rest.head?.any (· != '\\') then .error .badPort
    else if digits.isEmpty || some value == defaultPort? scheme then .ok (none, rest)
    else .ok (some value, rest)

/-- The authority in the text between `//` and the path, and what of this text belongs to the path. -/
def readAuthority (scheme : String) (kind : SchemeKind) (cs : List Char) (isEnd : Bool) :
    Except UriError (Authority × List Char) := do
  let user := splitUser cs
  let place := (user.map Prod.snd).getD cs
  if user.any (fun (name, place) => name.isEmpty && place.isEmpty && !isEnd) then
    throw .emptyHost
  let (host, port) := splitHost false place
  if kind = .web ∧ host.isEmpty then throw .emptyHost
  let info := (user.map fun (name, _) => userinfo name).getD ""
  let host ← if kind = .plain then Host.parseOpaque host else Host.parse host
  if host = .absent ∧ (!port.isEmpty ∨ !info.isEmpty) then throw .emptyHost
  let (port, rest) ← port? scheme port
  return (⟨info, host, port⟩, rest)

end Authorities

/-- Query and fragment from the `?` or `#` on. -/
def queryAndFragment (kind : SchemeKind) (cs : List Char) : Option String × Option String :=
  let query := cs.takeWhile (· != '#')
  let fragment := cs.dropWhile (· != '#')
  let reserved := if kind.isSpecial then Percent.isSpecialQuery else Percent.isQuery
  ( match query with
    | '?' :: query => some (Percent.encode reserved query)
    | _ => none,
    match fragment with
    | _ :: fragment => some (Percent.encode Percent.isFragment fragment)
    | [] => none )

def build (scheme : String) (kind : SchemeKind) (authority : Option Authority) (route : Route)
    (rest : List Char) : Uri :=
  let (query, fragment) := queryAndFragment kind rest
  ⟨scheme, authority, route, query, fragment⟩

/-- A path up to the query or fragment, and the rest. -/
def splitPath (cs : List Char) : List Char × List Char :=
  (cs.takeWhile (!isPathEnd ·), cs.dropWhile (!isPathEnd ·))

/-- The host of a file and its path. Without a host the path keeps all its slashes. -/
def fileHost (cs : List Char) : Except UriError (Host × List Char) :=
  let name := cs.takeWhile (!isAuthorityEnd .file ·)
  let after := cs.dropWhile (!isAuthorityEnd .file ·)
  if isDrive name then .ok (.absent, cs)
  else if name.isEmpty then .ok (.absent, after)
  else do
    let host ← Host.parse name
    if host = .domain "localhost" then return (.absent, after)
    else return (host, afterSlash .file after)

def parseFile (cs : List Char) : Except UriError Uri := do
  let (host, cs) ← match cs with
    | a :: b :: rest =>
      if isSlash .file a && isSlash .file b then fileHost rest
      else pure (Host.absent, afterSlash .file cs)
    | cs => pure (Host.absent, afterSlash .file cs)
  let (path, rest) := splitPath cs
  let path := PathText.read .file path
  let host := if path.hasDrive then .absent else host
  return build "file" .file (some ⟨"", host, none⟩) path.route rest

def parseAuthority (scheme : String) (kind : SchemeKind) (cs : List Char) : Except UriError Uri := do
  let place := cs.takeWhile (!isAuthorityEnd kind ·)
  let after := cs.dropWhile (!isAuthorityEnd kind ·)
  let (a, early) ← readAuthority scheme kind place after.isEmpty
  let (path, rest) := splitPath (early ++ after)
  let route := if kind = .plain ∧ path.isEmpty then .segments []
    else (PathText.read kind (afterSlash kind path)).route
  return build scheme kind (some a) route rest

def parsePlain (scheme : String) (cs : List Char) : Except UriError Uri :=
  match cs with
  | '/' :: '/' :: rest => parseAuthority scheme .plain rest
  | cs =>
    let (path, rest) := splitPath cs
    let route := match path with
      | '/' :: path => (PathText.read .plain path).route
      | path => .undivided (Percent.encode Percent.isControl path)
    .ok (build scheme .plain none route rest)

def parse (s : String) : Except UriError Uri :=
  match scheme? (clean s.toList) with
  | none => .error .noScheme
  | some (scheme, rest) =>
    match SchemeKind.of scheme with
    | .file => parseFile rest
    | .web => parseAuthority scheme .web (rest.dropWhile (isSlash .web))
    | .plain => parsePlain scheme rest

end ApiLens.Uri
