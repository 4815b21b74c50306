import ApiLens.Settings.Datum
import ApiLens.Settings.Yaml.Token

/-!
The values that YAML tokens stand for.

Plain texts are read as `null`, switches or numbers where they look like them, unless a tag says otherwise. An alias
stands for the value that was last given its name; inside of that value itself it stands for nothing.
-/

namespace ApiLens.Yaml

inductive Node
  | null
  /-- What a tag does not fit, or an alias of what it stands in. -/
  | unfit
  | bool (b : Bool)
  | int (i : Int)
  /-- A number with a point, as it is written. -/
  | real (text : String)
  | text (s : String)
  | list (items : List Node)
  | table (entries : List (Node × Node))

namespace Node

mutual

/-- Whether two values are the same. Numbers with a point are compared as they are written. -/
def same : Node → Node → Bool
  | null, null => true
  | unfit, unfit => true
  | bool a, bool b => a == b
  | int a, int b => a == b
  | real a, real b => a == b
  | text a, text b => a == b
  | list as, list bs => sameItems as bs
  | table as, table bs => sameEntries as bs
  | _, _ => false

def sameItems : List Node → List Node → Bool
  | [], [] => true
  | a :: as, b :: bs => same a b && sameItems as bs
  | _, _ => false

def sameEntries : List (Node × Node) → List (Node × Node) → Bool
  | [], [] => true
  | (k, a) :: as, (l, b) :: bs => same k l && same a b && sameEntries as bs
  | _, _ => false

end

def isUnfit : Node → Bool
  | unfit => true
  | _ => false

section Words

def intIn? (base : Nat) (cs : List Char) : Option Int := do
  let (negative, digits) := match cs with
    | '-' :: cs => (true, cs)
    | '+' :: cs => (false, cs)
    | cs => (false, cs)
  let n ← natIn? base digits
  let i : Int := if negative then -n else n
  if fitsSigned 64 i then return i else none

/-- Words for numbers without digits. -/
def specialReals : List String :=
  [".inf", ".Inf", ".INF", "+.inf", "+.Inf", "+.INF", "-.inf", "-.Inf", "-.INF", ".nan", "NaN", ".NAN"]

def isReal (word : String) : Bool :=
  specialReals.contains word || (Real.ofText? word.toList).isSome

/-- What a plain word stands for. -/
def ofWord (word : String) : Node :=
  let number := match word.toList with
    | '0' :: 'x' :: digits => intIn? 16 digits
    | '0' :: 'o' :: digits => intIn? 8 digits
    | '+' :: digits => intIn? 10 digits
    | _ => none
  match number <|> intIn? 10 word.toList with
  | some i => int i
  | none =>
    match word with
    | "~" => null
    | "null" => null
    | "true" => bool true
    | "false" => bool false
    | _ => if isReal word then real word else text word

/-- The start of tags for what plain words stand for. -/
def coreStart : String := "tag:yaml.org,2002:"

/-- What a plain word with a tag stands for. -/
def ofTagged (tag : Tag) (word : String) : Node :=
  if tag.handle ≠ coreStart then text word
  else
    match tag.suffix with
    | "bool" => if word = "true" then bool true else if word = "false" then bool false else unfit
    | "int" => ((intIn? 10 word.toList).map int).getD unfit
    | "float" => if isReal word then real word else unfit
    | "null" => if word = "~" ∨ word = "null" then null else unfit
    | _ => text word

def ofPlain (tag : Option Tag) (word : String) : Node :=
  match tag with
  | some tag => ofTagged tag word
  | none => ofWord word

end Words

/-- The table of some keys and values that take turns. No key may come twice, and one that is unfit is left out,
so that its value takes its place. -/
def ofTurns : (entries : List (Node × Node)) → (key : Option Node) → List Node → Option Node
  | entries, _, [] => some (table entries.reverse)
  | entries, none, v :: rest => ofTurns entries (if v.isUnfit then none else some v) rest
  | entries, some key, v :: rest =>
    if entries.any (·.1.same key) then none else ofTurns ((key, v) :: entries) none rest

end Node

/-- The tokens that are left and what names stand for. -/
structure Reading where
  tokens : List Token
  /-- What directives say about handles. -/
  handles : List (String × String) := []
  /-- Names, each with a number that no other value has. -/
  anchors : List (String × Nat) := []
  values : List (Nat × Node) := []
  count : Nat := 0

abbrev NodeReader := StateT Reading Option

namespace NodeReader

def fail : NodeReader α := fun _ => none

def peek : NodeReader (Option Token) := do return (← get).tokens.head?

def skip : NodeReader Unit := modify fun r => { r with tokens := r.tokens.drop 1 }

/-- Gives a name to the value that comes. The result is the number of the value. -/
def register (name : String) : NodeReader Nat := do
  let r ← get
  set { r with anchors := (name, r.count) :: r.anchors, count := r.count + 1 }
  return r.count

/-- Keeps a value under its number. -/
def keep (id : Option Nat) (node : Node) : NodeReader Node := do
  if let some id := id then modify fun r => { r with values := (id, node) :: r.values }
  return node

def aliased (name : String) : NodeReader Node := do
  let r ← get
  match r.anchors.lookup name with
  | some id => return (r.values.lookup id).getD .unfit
  | none => fail

/-- A tag with the start that its handle stands for. Handles of two marks must have been given one. -/
def resolved (tag : Tag) : NodeReader Tag := do
  let handles := (← get).handles
  if tag.handle = "!!" then return { tag with handle := (handles.lookup "!!").getD Node.coreStart }
  match handles.lookup tag.handle with
  | some start => return { tag with handle := start }
  | none => if Tag.isHandle tag.handle.toList then fail else return tag

/-- An anchor and a tag before a value, in either order. -/
def properties : NodeReader (Option Nat × Option Tag) := do
  match ← peek with
  | some (.anchor name) => do
    skip
    let id ← register name
    match ← peek with
    | some (.tag tag) => do
      skip
      return (some id, some (← resolved tag))
    | _ => return (some id, none)
  | some (.tag tag) => do
    skip
    let tag ← resolved tag
    match ← peek with
    | some (.anchor name) => do
      skip
      return (some (← register name), some tag)
    | _ => return (none, some tag)
  | _ => return (none, none)

/-- Whether a value is left out before a token in a block collection. -/
def endsBlockPart : Option Token → Bool
  | some .key | some .value | some .blockEnd => true
  | _ => false

/-- Whether a value is left out before a token in a flow collection. -/
def endsFlowPart (isList : Bool) : Option Token → Bool
  | some .flowItem => true
  | some .flowListEnd => isList
  | some .flowTableEnd => !isList
  | _ => false

/-- A comma between parts of a flow collection. -/
def comma (isList isFirst : Bool) : NodeReader Unit := do
  if !isFirst then
    let next ← peek
    if next matches some .flowItem then skip
    else if !endsFlowPart isList next then fail

def table (turns : List Node) : NodeReader Node := fun r => (Node.ofTurns [] none turns).map (·, r)

mutual

/-- A value. Block collections stand in block collections only, and a list may be as deep as the table that it
stands in. -/
def node (inBlock isLoose : Bool) : Nat → NodeReader Node
  | 0 => fail
  | fuel + 1 => do
    if let some (.alias name) ← peek then
      skip
      return ← aliased name
    let (id, tag) ← properties
    match ← peek, inBlock, isLoose with
    | some .blockItem, _, true => keep id (.list (← looseItems fuel))
    | some (.text isPlain s), _, _ => do
      skip
      keep id (if isPlain then .ofPlain tag s else .text s)
    | some .flowListStart, _, _ => do
      skip
      keep id (.list (← flowItems true fuel))
    | some .flowTableStart, _, _ => do
      skip
      keep id (← table (← flowEntries true fuel))
    | some .blockListStart, true, _ => do
      skip
      keep id (.list (← blockItems fuel))
    | some .blockTableStart, true, _ => do
      skip
      keep id (← table (← blockEntries fuel))
    | _, _, _ => if id.isSome || tag.isSome then keep id (.ofPlain tag "") else fail

/-- The items of a list that is no deeper than the table around it. -/
def looseItems : Nat → NodeReader (List Node)
  | 0 => fail
  | fuel + 1 => do
    match ← peek with
    | some .blockItem => do
      skip
      let item ← match ← peek with
        | some .blockItem => pure Node.null
        | next => if endsBlockPart next then pure .null else node true false fuel
      return item :: (← looseItems fuel)
    | _ => return []

def blockItems : Nat → NodeReader (List Node)
  | 0 => fail
  | fuel + 1 => do
    match ← peek with
    | some .blockEnd => do
      skip
      return []
    | some .blockItem => do
      skip
      let item ← match ← peek with
        | some .blockItem | some .blockEnd => pure Node.null
        | _ => node true false fuel
      return item :: (← blockItems fuel)
    | _ => fail

/-- The keys and values of a block table, in turn. -/
def blockEntries : Nat → NodeReader (List Node)
  | 0 => fail
  | fuel + 1 => do
    match ← peek with
    | some .blockEnd => do
      skip
      return []
    | some .key => do
      skip
      let key ← if endsBlockPart (← peek) then pure .null else node true true fuel
      blockValue key fuel
    | some .value => blockValue .null fuel
    | _ => fail

def blockValue (key : Node) : Nat → NodeReader (List Node)
  | 0 => fail
  | fuel + 1 => do
    let value ← match ← peek with
      | some .value => do
        skip
        if endsBlockPart (← peek) then pure Node.null else node true true fuel
      | _ => pure .null
    return key :: value :: (← blockEntries fuel)

/-- The value after a key in a flow collection. -/
def flowValue (isList : Bool) : Nat → NodeReader Node
  | 0 => fail
  | fuel + 1 => do
    match ← peek with
    | some .value => do
      skip
      if endsFlowPart isList (← peek) then return .null
      node false false fuel
    | _ => return .null

/-- Items of a flow list, each but the first after a comma. A key among them starts a table of one entry. -/
def flowItems (isFirst : Bool) : Nat → NodeReader (List Node)
  | 0 => fail
  | fuel + 1 => do
    comma true isFirst
    match ← peek with
    | some .flowListEnd => do
      skip
      return []
    | some .key => do
      skip
      let key ← pairKey fuel
      let pair ← table [key, ← flowValue true fuel]
      return pair :: (← flowItems false fuel)
    | _ => do
      let item ← node false false fuel
      return item :: (← flowItems false fuel)

/-- The key of a table without braces. A mark that comes in its place is passed over. -/
def pairKey : Nat → NodeReader Node
  | 0 => fail
  | fuel + 1 => do
    let next ← peek
    if next matches some .value || endsFlowPart true next then
      skip
      return .null
    node false false fuel

/-- The keys and values of a flow table, in turn. -/
def flowEntries (isFirst : Bool) : Nat → NodeReader (List Node)
  | 0 => fail
  | fuel + 1 => do
    comma false isFirst
    match ← peek with
    | some .flowTableEnd => do
      skip
      return []
    | some .key => do
      skip
      let next ← peek
      let key ← if next matches some .value || endsFlowPart false next then pure Node.null
        else node false false fuel
      let value ← flowValue false fuel
      return key :: value :: (← flowEntries false fuel)
    | some .value => do
      let value ← flowValue false fuel
      return .null :: value :: (← flowEntries false fuel)
    | _ => do
      let key ← node false false fuel
      return key :: .null :: (← flowEntries false fuel)

end

section Documents

def skipEnds : NodeReader Unit :=
  modify fun r => { r with tokens := r.tokens.dropWhile (· matches .documentEnd) }

/-- Directives before a document. One of them may be for the version, and the last one alone tells what a handle
stands for. -/
def directives : List Token → (version : Bool) → NodeReader Unit
  | .directive .version :: rest, false => do
    modify fun r => { r with tokens := rest, handles := [] }
    directives rest true
  | .directive .version :: _, true => fail
  | .directive (.tag h start) :: rest, version => do
    modify fun r => { r with tokens := rest, handles := [(h, start)] }
    directives rest version
  | _, _ => pure ()

/-- The document of a text, if it has one. Directives are followed by a mark for the start of the document, behind
which it may be empty. -/
def document (fuel : Nat) : NodeReader (Option Node) := do
  skipEnds
  match ← peek with
  | some .streamEnd => return none
  | some (.directive _) | some .documentStart => do
    directives (← get).tokens false
    let some .documentStart ← peek | fail
    skip
    match ← peek with
    | some (.directive _) | some .documentStart | some .documentEnd | some .streamEnd =>
      return some .null
    | _ => return some (← node true false fuel)
  | _ => return some (← node true false fuel)

/-- The only document of a text, behind which nothing may stand but ends. -/
def soleDocument (fuel : Nat) : NodeReader (Option Node) := do
  let found ← document fuel
  skipEnds
  let some .streamEnd ← peek | fail
  return found

end Documents

end NodeReader

/-- The value that a text holds. A text that holds nothing at all is an empty table. -/
def Node.ofTokens? (tokens : List Token) : Option Node := do
  let (found, _) ← NodeReader.soleDocument (4 * tokens.length + 16) { tokens }
  return found.getD (.table [])

end ApiLens.Yaml
