/-
Trees of directories and files.
-/
namespace TableScribe

/-- What lies at a place: a directory with its entries, or a file. -/
inductive FileNode
  | directory (entries : List (String × FileNode))
  | file (content : ByteArray)

namespace FileNode

def empty : FileNode := directory []

/-- What lies directly inside under a name; a file has nothing inside. -/
def child? : FileNode → String → Option FileNode
  | directory entries, name => entries.lookup name
  | file _, _ => none

/-- A directory with something put under a name, in place of what was there. -/
def withChild : FileNode → String → FileNode → FileNode
  | directory entries, name, child =>
    directory ((name, child) :: entries.filter fun entry => entry.1 != name)
  | file content, _, _ => file content

/-- What lies at the end of a way down. -/
def at? : FileNode → List String → Option FileNode
  | node, [] => some node
  | node, name :: rest =>
    match node.child? name with
    | some child => child.at? rest
    | none => none

/-- A tree with something put at the end of a way down. -/
def put : FileNode → List String → FileNode → FileNode
  | _, [], node => node
  | top, name :: rest, node =>
    top.withChild name (((top.child? name).getD empty).put rest node)

end FileNode

end TableScribe
