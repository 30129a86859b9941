import PlatformLayer.Device.Path
/-!
# The in-memory file tree of device nodes

The tree is a table from cleaned paths to entries that know their children's keys; the root `/`
is there from the start, and a new entry is hooked under its parent, made first as a directory
when missing. A listing walks from `/` through the sorted children.
-/
namespace PlatformLayer

structure Entry where
  /-- Whether the entry can hold children. -/
  isDir : Bool
  /-- Whether the entry is a regular file. -/
  regular : Bool
  /-- The keys of the children, each at most once. -/
  children : List String
  deriving DecidableEq, Repr

namespace Entry

def directory : Entry := ⟨true, false, []⟩

def file : Entry := ⟨false, true, []⟩

/-- The entry with a child added; it becomes a directory if it was none. -/
def adopt (e : Entry) (child : String) : Entry :=
  { e with isDir := true, children := if e.children.contains child then e.children else e.children ++ [child] }

def disown (e : Entry) (child : String) : Entry :=
  { e with children := e.children.filter (· ≠ child) }

end Entry

/-- The key of a path: cleaned, with `.` and `..` as the root. -/
def treeKey (p : String) : String :=
  let c := DevicePath.clean p
  if c = "." ∨ c = ".." then "/" else c

def parentKey (key : String) : String := treeKey (DevicePath.dirPart key)

structure RemoveError where
  key : String
  deriving DecidableEq, Repr

def RemoveError.message (e : RemoveError) : String := "remove " ++ e.key ++ ": file does not exist"

/-- The text that stops the program when an entry to remove has no parent. -/
def orphanHalt (key : String) : String := "parent of " ++ key ++ " is nil"

structure FileTree where
  entries : List (String × Entry)
  deriving DecidableEq, Repr

namespace FileTree

def empty : FileTree := ⟨[("/", Entry.directory)]⟩

def find? (t : FileTree) (key : String) : Option Entry :=
  (t.entries.find? (·.1 == key)).map (·.2)

def present (t : FileTree) (p : String) : Bool := (t.find? (treeKey p)).isSome

def set (t : FileTree) (key : String) (e : Entry) : FileTree :=
  if t.entries.any (·.1 == key) then
    ⟨t.entries.map fun (k, old) => if k == key then (k, e) else (k, old)⟩
  else ⟨t.entries ++ [(key, e)]⟩

def erase (t : FileTree) (key : String) : FileTree := ⟨t.entries.filter (·.1 ≠ key)⟩

/-- Hook the entry at `key` under its parent, making missing ancestors as directories. Each
step goes one directory up; `fuel` bounds how many. -/
def hook : Nat → FileTree → String → FileTree
  | 0, t, _ => t
  | fuel + 1, t, key =>
    let pk := parentKey key
    match t.find? pk with
    | some p => t.set pk (p.adopt key)
    | none =>
      let t' := hook fuel (t.set pk Entry.directory) pk
      match t'.find? pk with
      | some p => t'.set pk (p.adopt key)
      | none => t'

/-- How far up hooking may have to go from a key: one step per character is enough. -/
def hookFuel (key : String) : Nat := key.length + 1

def create (t : FileTree) (key : String) (e : Entry) : FileTree :=
  hook (hookFuel key) (t.set key e) key

def mkdirAll (t : FileTree) (p : String) : FileTree :=
  let key := treeKey p
  if (t.find? key).isSome then t else create t key Entry.directory

def writeEmpty (t : FileTree) (p : String) : FileTree :=
  let key := treeKey p
  if (t.find? key).isSome then t else create t key Entry.file

/-- Remove the entry of a path and unhook it from its parent. The outer failure is the halt of
a parent that is gone; the inner one an entry that is not there. -/
def remove (t : FileTree) (p : String) : Except String (Except RemoveError FileTree) :=
  let key := treeKey p
  match t.find? key with
  | none => .ok (.error ⟨key⟩)
  | some _ =>
    let pk := parentKey key
    match t.find? pk with
    | none => .error (orphanHalt key)
    | some parent => .ok (.ok ((t.set pk (parent.disown key)).erase key))

def sortNames (names : List String) : List String :=
  names.mergeSort fun a b => !(decide (b < a))

/-- The regular files met walking down from `path`, in walk order; `fuel` bounds the depth. -/
def walkFrom (t : FileTree) : Nat → String → List String
  | 0, _ => []
  | fuel + 1, path =>
    match t.find? (treeKey path) with
    | none => []
    | some e =>
      (if e.regular then [path] else []) ++
      (if e.isDir then
        (sortNames (e.children.map DevicePath.basePart)).flatMap fun n =>
          walkFrom t fuel (DevicePath.join path n)
      else [])

def regularFiles (t : FileTree) : List String := t.walkFrom (t.entries.length + 1) "/"

end FileTree

end PlatformLayer
