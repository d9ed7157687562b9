import MailboxSearch.Files.Basic

namespace MailboxSearch

inductive FileNode
  | file (content : ByteArray)
  | directory

/-- The nodes of a tree by the names that lead to them from the top. What leads to a node is a directory. -/
structure FileTree where
  nodes : List (List String × FileNode) := []

namespace FileTree

def names (path : String) : List String :=
  (path.splitOn "/").filter fun name => name != "" && name != "."

def put (tree : FileTree) (place : List String) (node : FileNode) : FileTree where
  nodes := (place, node) :: tree.nodes.filter fun (names, _) => names != place

def putFrom (node : FileNode) : List String → FileTree → List String → FileTree
  | here, tree, [] => tree.put here node
  | here, tree, name :: names =>
    putFrom node (if name == ".." then here.dropLast else here ++ [name]) (tree.put here .directory) names

def insert (directory : String) (tree : FileTree) (path : String) (node : FileNode) : FileTree :=
  putFrom node (names directory) tree (names path)

def node? (tree : FileTree) (place : List String) : Option FileNode :=
  match tree.nodes.find? fun (names, _) => names == place with
  | some (_, node) => some node
  | none => if tree.nodes.any fun (names, _) => place.isPrefixOf names then some .directory else none

def nameLimit : Nat := 255

def pathLimit : Nat := 4095

def follow (tree : FileTree) : List String → List String → Except Fault (List String)
  | here, [] => .ok here
  | here, name :: names =>
    if name == "" || name == "." then tree.follow here names
    else if name == ".." then tree.follow here.dropLast names
    else if name.utf8ByteSize > nameLimit then .error .nameTooLong
    else
      let there := here ++ [name]
      match tree.node? there with
      | none => .error .notFound
      | some .directory => tree.follow there names
      | some (.file _) => if names.isEmpty then .ok there else .error .notDirectory

def find? (tree : FileTree) (path : String) : Except Fault FileNode :=
  if path.toList.contains '\x00' then .error .invalidPath
  else if path.utf8ByteSize > pathLimit then .error .nameTooLong
  else if !path.startsWith "/" then .error .notFound
  else do
    let place ← tree.follow [] (path.splitOn "/")
    return (tree.node? place).getD .directory

def readText (tree : FileTree) (path : String) : Except Fault String := do
  match ← tree.find? path with
  | .directory => throw .isDirectory
  | .file content =>
    match String.fromUTF8? content with
    | none => throw .invalidText
    | some text => return text

def isFile (tree : FileTree) (path : String) : Bool :=
  match tree.find? path with
  | .ok (.file _) => true
  | _ => false

def files (tree : FileTree) : Files Id where
  isFile := tree.isFile
  readText := tree.readText

end FileTree

end MailboxSearch
