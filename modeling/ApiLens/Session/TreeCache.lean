import ApiLens.Tree.Node
import ApiLens.Uri.Basic

/-!
The latest tree of each document.
-/

namespace ApiLens

structure TreeCache where
  entries : List (Uri × Node) := []

namespace TreeCache

def get? (c : TreeCache) (document : Uri) : Option Node :=
  c.entries.lookup document

def erase (c : TreeCache) (document : Uri) : TreeCache :=
  ⟨c.entries.filter (·.1 != document)⟩

def insert (c : TreeCache) (document : Uri) (tree : Node) : TreeCache :=
  ⟨(document, tree) :: (c.erase document).entries⟩

end TreeCache
end ApiLens
