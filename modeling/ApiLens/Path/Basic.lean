import ApiLens.Text.Pieces
import ApiLens.Text.Utf8

/-!
Paths as pieces of text between slashes.

A path is kept as it was written, so it can be shown again, but two paths are the same when their
components are: empty pieces and pieces `.` count for nothing, a `.` at the start apart.
-/

namespace ApiLens

/-- The text between two slashes, or its bytes where they are no text. -/
inductive Segment
  | text (s : String) (h : '/' ∉ s.toList := by decide)
  | raw (bytes : List UInt8) (h : '/'.toUInt8 ∉ bytes) (hn : utf8Text? bytes = none)
deriving DecidableEq, Repr

namespace Segment

def empty : Segment := text ""

def dot : Segment := text "."

def dots : Segment := text ".."

/-- Whether the piece is no component, unless it starts the path. -/
def isTrivial (s : Segment) : Bool := s = empty || s = dot

def ofBytes (bytes : List UInt8) (h : '/'.toUInt8 ∉ bytes) : Segment :=
  match ht : utf8Text? bytes with
  | some s => text s (slash_notMem_of_utf8Text? ht h)
  | none => raw bytes h ht

/-- A piece as it is shown: bytes that are no text become replacement characters. -/
def shown : Segment → String
  | text s _ => s
  | raw bytes _ _ => lossyText bytes

def text? : Segment → Option String
  | text s _ => some s
  | raw .. => none

end Segment

/-- The pieces of a path, of which there is at least one. -/
structure Path where
  segments : List Segment
  nonempty : segments ≠ []
deriving DecidableEq, Repr

inductive Component
  | root
  | current
  | up
  | normal (s : Segment)
deriving DecidableEq, Repr

namespace Path

def ofString (s : String) : Path where
  segments := (splitAt '/' s.toList).attach.map fun ⟨piece, h⟩ =>
    .text (String.ofList piece) (by simpa using notMem_of_mem_splitAt h)
  nonempty := by simp [splitAt_ne_nil]

def ofBytes (bytes : List UInt8) : Path where
  segments := (splitAt '/'.toUInt8 bytes).attach.map fun ⟨piece, h⟩ =>
    .ofBytes piece (notMem_of_mem_splitAt h)
  nonempty := by simp [splitAt_ne_nil]

def first (p : Path) : Segment := p.segments.head p.nonempty

def rest (p : Path) : List Segment := p.segments.tail

/-- The path as it was written. -/
def shown (p : Path) : String :=
  "/".intercalate (p.segments.map Segment.shown)

/-- The path as text, if all of it is text. -/
def text? (p : Path) : Option String :=
  (p.segments.mapM Segment.text?).map "/".intercalate

def isAbsolute (p : Path) : Bool := p.first = .empty && !p.rest.isEmpty

/-- What a piece after the start of a path contributes. -/
def component? (s : Segment) : Option Component :=
  if s.isTrivial then none
  else if s = .dots then some .up
  else some (.normal s)

def components (p : Path) : List Component :=
  if p.isAbsolute then .root :: p.rest.filterMap component?
  else if p.first = .dot then .current :: p.rest.filterMap component?
  else p.segments.filterMap component?

/-- Paths are the same when their components are. -/
def Same (p q : Path) : Prop := p.components = q.components

instance (p q : Path) : Decidable (p.Same q) :=
  inferInstanceAs (Decidable (p.components = q.components))

/-- Without the trivial pieces at the end. -/
def trimEnd (segments : List Segment) : List Segment :=
  (segments.reverse.dropWhile Segment.isTrivial).reverse

/-- Without the last component and the trivial pieces before it; `none` if there is no component. -/
def shorten? (segments : List Segment) : Option (List Segment) :=
  match trimEnd segments with
  | [] => none
  | kept => some (trimEnd kept.dropLast)

/-- The directory above, which neither the root nor the empty path has. -/
def parent? (p : Path) : Option Path :=
  if p.isAbsolute then
    (shorten? p.rest).map fun kept =>
      ⟨.empty :: if kept.isEmpty then [.empty] else kept, List.cons_ne_nil _ _⟩
  else if p.first = .dot then
    match shorten? p.rest with
    | some kept => some ⟨.dot :: kept, List.cons_ne_nil _ _⟩
    | none => some ⟨[.empty], List.cons_ne_nil _ _⟩
  else
    (shorten? p.segments).map fun kept =>
      ⟨if kept.isEmpty then [.empty] else kept, by cases kept <;> simp⟩

/-- A path and the directories above it, nearest first. -/
def ancestors (p : Path) : List Path :=
  p :: above p.segments.length p
where
  above : Nat → Path → List Path
    | 0, _ => []
    | fuel + 1, p =>
      match p.parent? with
      | none => []
      | some q => q :: above fuel q

/-- The last component, if it is a normal name. -/
def fileName? (p : Path) : Option Segment :=
  match p.components.getLast? with
  | some (.normal s) => some s
  | _ => none

/-- `p/q`; an absolute `q` stands for itself. -/
def join (p q : Path) : Path :=
  if q.isAbsolute then q
  else if p.segments.getLast? = some .empty then
    ⟨p.segments.dropLast ++ q.segments, by simp [q.nonempty]⟩
  else ⟨p.segments ++ q.segments, by simp [q.nonempty]⟩

/-- What is left of `path` after the components of `base`, if it starts with them. -/
def afterBase? : (base path : List Component) → Option (List Component)
  | [], path => some path
  | _ :: _, [] => none
  | b :: base, c :: path => if b = c then afterBase? base path else none

end Path
end ApiLens
