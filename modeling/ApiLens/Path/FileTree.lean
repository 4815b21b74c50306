import ApiLens.Path.Basic

/-!
A file system as a value: the texts of its files and its directories, both by the names from the root.
-/

namespace ApiLens

structure FileTree where
  /-- Where relative paths start. -/
  current : List Segment
  files : List (List Segment × String)
  directories : List (List Segment)

namespace FileTree

def isDirectory (t : FileTree) (place : List Segment) : Bool :=
  place.isEmpty || t.directories.contains place

/-- Follows the pieces of a path. Every place on the way must be a directory. -/
def follow (t : FileTree) : (place : List Segment) → List Segment → Option (List Segment)
  | place, [] => some place
  | place, s :: rest =>
    if !t.isDirectory place then none
    else if s.isTrivial then follow t place rest
    else if s = .dots then follow t place.dropLast rest
    else follow t (place ++ [s]) rest

def locate (t : FileTree) (p : Path) : Option (List Segment) :=
  if p.isAbsolute then t.follow [] (p.segments.drop 1)
  else if p.segments.all (· == .empty) then none
  else t.follow t.current p.segments

/-- The text of the file at a path. -/
def read? (t : FileTree) (p : Path) : Option String :=
  (t.locate p).bind fun place => t.files.lookup place

def isFile (t : FileTree) (p : Path) : Bool := (t.read? p).isSome

/-- Makes a directory and those above it. -/
def makeDirectory (t : FileTree) (place : List Segment) : FileTree :=
  let chain := (List.range place.length).map fun n => place.take (n + 1)
  { t with directories := t.directories ++ chain.filter (!t.directories.contains ·) }

/-- A file system that holds only a directory. -/
def bare (current : List Segment) : FileTree :=
  makeDirectory ⟨current, [], []⟩ current

def remove (t : FileTree) (place : List Segment) : FileTree :=
  { t with files := t.files.filter (·.1 != place) }

/-- Writes a file, making its directories. -/
def write (t : FileTree) (place : List Segment) (text : String) : FileTree :=
  let t := t.makeDirectory place.dropLast
  { t with files := (place, text) :: (t.remove place).files }

/-- Writes a file under a path, making the directories that the path passes through. -/
def record (t : FileTree) (p : Path) (text : String) : FileTree :=
  if p.isAbsolute then go t [] (p.segments.drop 1) else go t t.current p.segments
where
  go (t : FileTree) (place : List Segment) : List Segment → FileTree
    | [] => t
    | [s] => t.write (place ++ [s]) text
    | s :: rest =>
      let next :=
        if s.isTrivial then place else if s = .dots then place.dropLast else place ++ [s]
      go (t.makeDirectory next) next rest

end FileTree
end ApiLens
