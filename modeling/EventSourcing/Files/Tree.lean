import EventSourcing.Files.Path
import EventSourcing.Text.Quoted
import EventSourcing.Text.Utf8

/-!
# A tree of files

Directories and files below one directory. The operations are those a log needs:
making directories parent first, appending to a file, reading it, and creating an
empty one. Each fails as a file system does, with the path it was asked for, and
changes nothing but what its success says.
-/

set_option autoImplicit false

namespace EventSourcing

inductive FileNode where
  | directory
  | file (content : List UInt8)
deriving Repr, Inhabited

inductive FileFault.Reason where
  | missing
  | exists
  | notDirectory
  | isDirectory
  | nameTooLong
  | nullCharacter
deriving DecidableEq, Repr

structure FileFault where
  reason : FileFault.Reason
  path : Path
deriving DecidableEq, Repr

/-- The number of a reason among the system's error numbers. The system is not
asked about a path with a null character. -/
def FileFault.Reason.number? : FileFault.Reason → Option Nat
  | .missing => some 2
  | .exists => some 17
  | .notDirectory => some 20
  | .isDirectory => some 21
  | .nameTooLong => some 36
  | .nullCharacter => none

def FileFault.Reason.text : FileFault.Reason → String
  | .missing => "No such file or directory"
  | .exists => "File exists"
  | .notDirectory => "Not a directory"
  | .isDirectory => "Is a directory"
  | .nameTooLong => "File name too long"
  | .nullCharacter => "embedded null byte"

def FileFault.message (fault : FileFault) : String :=
  match fault.reason.number? with
  | some number => s!"[Errno {number}] {fault.reason.text}: {Text.quoted fault.path.text}"
  | none => fault.reason.text

/-- The nodes below one directory, by their components; the directory itself is
not among them. -/
structure FileTree where
  nodes : List (List String × FileNode)
deriving Inhabited

namespace FileTree

def empty : FileTree := ⟨[]⟩

/-- The node at a place. The top directory is always there. -/
def node? (tree : FileTree) (place : List String) : Option FileNode :=
  if place.isEmpty then some .directory else tree.nodes.lookup place

def put (tree : FileTree) (place : List String) (node : FileNode) : FileTree :=
  ⟨replace tree.nodes⟩
where
  replace : List (List String × FileNode) → List (List String × FileNode)
    | [] => [(place, node)]
    | entry :: rest => if entry.1 = place then (place, node) :: rest else entry :: replace rest

/-- The greatest length of a component, and of a whole path, in octets. -/
def maxNameLength : Nat := 255

@[inherit_doc maxNameLength]
def maxPathLength : Nat := 4095

/-- Goes down to a place component by component: each but the last must name a
directory. Answers the node at the end, or none when only the last is missing. -/
def descend (tree : FileTree) (place : List String) :
    List String → Except FileFault.Reason (Option FileNode)
  | [] => .ok (tree.node? place)
  | component :: rest =>
    match tree.node? place with
    | none => .error .missing
    | some (.file _) => .error .notDirectory
    | some .directory =>
      if maxNameLength < component.utf8ByteSize then .error .nameTooLong
      else tree.descend (place ++ [component]) rest

/-- The node that a path names, or none when only its last component is missing. -/
def lookup (tree : FileTree) (path : Path) : Except FileFault (Option FileNode) :=
  if path.text.toList.contains (Char.ofNat 0) then .error ⟨.nullCharacter, path⟩
  else if maxPathLength < path.text.utf8ByteSize then .error ⟨.nameTooLong, path⟩
  else (tree.descend [] path.components).mapError fun reason => ⟨reason, path⟩

def makeDirectory (tree : FileTree) (path : Path) : Except FileFault FileTree := do
  match ← tree.lookup path with
  | none => return tree.put path.components .directory
  | some .directory => return tree
  | some (.file _) => throw ⟨.exists, path⟩

/-- Makes the directories at and above a path, given in reverse, parent first. The
tree that is answered holds the directories made before a failure. -/
def makeAll (tree : FileTree) : List String → FileTree × Option FileFault
  | [] => (tree, none)
  | last :: above =>
    let path : Path := ⟨(last :: above).reverse⟩
    match tree.makeDirectory path with
    | .ok made => (made, none)
    | .error fault =>
      if fault.reason = .missing then
        match tree.makeAll above with
        | (made, some fault) => (made, some fault)
        | (made, none) =>
          match made.makeDirectory path with
          | .ok made => (made, none)
          | .error fault => (made, some fault)
      else (tree, some fault)

def makeDirectories (tree : FileTree) (path : Path) : FileTree × Option FileFault :=
  tree.makeAll path.components.reverse

def read (tree : FileTree) (path : Path) : Except FileFault (List UInt8) := do
  match ← tree.lookup path with
  | none => throw ⟨.missing, path⟩
  | some .directory => throw ⟨.isDirectory, path⟩
  | some (.file content) => return content

def append (tree : FileTree) (path : Path) (octets : List UInt8) : Except FileFault FileTree := do
  match ← tree.lookup path with
  | none => return tree.put path.components (.file octets)
  | some .directory => throw ⟨.isDirectory, path⟩
  | some (.file content) => return tree.put path.components (.file (content ++ octets))

def touch (tree : FileTree) (path : Path) : Except FileFault FileTree := do
  match ← tree.lookup path with
  | none => return tree.put path.components (.file [])
  | some _ => return tree

def listing (tree : FileTree) : List String :=
  let shown := tree.nodes.map fun (place, node) =>
    let path := "/".intercalate place
    match node with
    | .directory => path ++ "/"
    | .file content => path ++ ":" ++ toString content.length
  shown.mergeSort (fun left right => left ≤ right)

end FileTree

end EventSourcing
