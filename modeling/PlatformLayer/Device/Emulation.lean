import PlatformLayer.Device.FileTree
import PlatformLayer.Device.Driver
import PlatformLayer.DescriptorSet
/-!
# The memory device service

The service keeps a registry of drivers by cleaned path, a store of device nodes (a `NodeStore`),
and a table of 1024 descriptor slots. An open reserves the lowest free slot for the driver under
the longest registered prefix of the path, and releases it again when the driver's open callback
refuses.
-/
namespace PlatformLayer

inductive DeviceError where
  | alreadyRegistered (path : String)
  | notRegistered (path : String)
  | noDriver (path : String)
  | noDevice (path : String)
  | tableFull
  | badDescriptor (fd : Int)
  | unknownCommand (e : UnknownCommand)
  | removeFailed (e : RemoveError)
  | refused (cause : String)
  deriving DecidableEq, Repr

def DeviceError.message : DeviceError → String
  | .alreadyRegistered p => "driver already registered at " ++ p
  | .notRegistered p => "no driver registered at " ++ p
  | .noDriver p => "no driver serving " ++ p
  | .noDevice p => "no such device " ++ p
  | .tableFull => "too many open devices"
  | .badDescriptor fd => "bad descriptor " ++ toString fd
  | .unknownCommand e => e.message
  | .removeFailed e => e.message
  | .refused cause => cause

structure OpenDevice where
  name : String
  driver : Driver
  queue : MessageQueue
  deriving Repr

def tableSize : Nat := 1024

/-- What the service needs of the file system its device nodes live in: whether a path names a
file or a directory, making a directory with its ancestors, writing an empty file, removing a
file, and the regular files met walking down from `/`. A removal fails in two ways: the outer
failure stops the program, the inner one is an error it returns. -/
structure NodeStore (σ : Type) where
  present : σ → String → Bool
  mkdirAll : σ → String → σ
  writeEmpty : σ → String → σ
  remove : σ → String → Except String (Except RemoveError σ)
  nodes : σ → List String

def FileTree.store : NodeStore FileTree where
  present := FileTree.present
  mkdirAll := FileTree.mkdirAll
  writeEmpty := FileTree.writeEmpty
  remove := FileTree.remove
  nodes := FileTree.regularFiles

structure Emulation (σ : Type) where
  tree : σ
  registry : List (String × Driver)
  table : Vector (Option OpenDevice) 1024
  deriving Repr

namespace Emulation

variable {σ : Type} (fs : NodeStore σ)

abbrev Step (σ α : Type) := Emulation σ → α × Emulation σ

def empty (t : σ) : Emulation σ := ⟨t, [], Vector.replicate 1024 none⟩

def registered? (s : Emulation σ) (path : String) : Option Driver :=
  (s.registry.find? (·.1 == path)).map (·.2)

/-- The registered driver whose path is the longest prefix of `path`. -/
def servedBy? (s : Emulation σ) (path : String) : Option Driver :=
  let fits := s.registry.filter fun (k, _) => k.isPrefixOf path
  (fits.foldl (fun best (k, d) =>
    match best with
    | some (bk, _) => if k.length > bk.length then some (k, d) else best
    | none => some (k, d)) none).map (·.2)

def makeNode (s : Emulation σ) (path : String) : Emulation σ :=
  { s with tree := fs.writeEmpty (fs.mkdirAll s.tree (DevicePath.dir path)) path }

def register (d : Driver) (s : Emulation σ) : Except DeviceError Unit × Emulation σ :=
  let path := DevicePath.clean d.path
  if (s.registered? path).isSome then (.error (.alreadyRegistered path), s)
  else
    let s' := s.makeNode fs path
    (.ok (), { s' with registry := s'.registry ++ [(path, d)] })

/-- The service over a store after registering, in order, every enabled driver of a list;
failures are skipped. -/
def withDrivers (t : σ) (ds : List Driver) : Emulation σ :=
  ds.foldl (fun s d => if d.enabled then (register fs d s).2 else s) (empty t)

def makeServedNode (path : String) (s : Emulation σ) : Except DeviceError Unit × Emulation σ :=
  let p := DevicePath.clean path
  if (s.servedBy? p).isNone then (.error (.noDriver p), s)
  else (.ok (), s.makeNode fs p)

def nodes (s : Emulation σ) : List String := fs.nodes s.tree

/-- Remove the nodes of a list one by one, stopping at the first failure; the nodes removed
before it stay removed. The outer failure is a halt of the program. -/
def removeAll (t : σ) : List String → Except String (Except RemoveError Unit × σ)
  | [] => .ok (.ok (), t)
  | p :: ps =>
    match fs.remove t p with
    | .error halt => .error halt
    | .ok (.error e) => .ok (.error e, t)
    | .ok (.ok t') => removeAll t' ps

/-- Unregister the driver at a cleaned path and remove the nodes it served. The outer failure
is a halt of the program; after a failed removal the driver is gone and so are the nodes
removed before it. -/
def unregister (d : Driver) (s : Emulation σ) :
    Except String (Except DeviceError Unit × Emulation σ) :=
  let path := DevicePath.clean d.path
  if (s.registered? path).isNone then .ok (.error (.notRegistered path), s)
  else
    let served := (s.nodes fs).filter fun n =>
      match s.servedBy? n with
      | some drv => DevicePath.clean drv.path == path
      | none => false
    let s' := { s with registry := s.registry.filter (·.1 ≠ path) }
    match removeAll fs s'.tree served with
    | .error halt => .error halt
    | .ok (r, t) => .ok (r.mapError .removeFailed, { s' with tree := t })

def freeSlot? (s : Emulation σ) : Option (Fin 1024) :=
  (List.finRange 1024).find? fun i => (s.table.get i).isNone

def slotOf? (fd : Int) : Option (Fin 1024) :=
  if h : 0 ≤ fd ∧ fd < 1024 then some ⟨fd.toNat, by omega⟩ else none

def device? (s : Emulation σ) (fd : Int) : Option OpenDevice :=
  match slotOf? fd with
  | some i => s.table.get i
  | none => none

def setDevice (s : Emulation σ) (i : Fin 1024) (d : Option OpenDevice) : Emulation σ :=
  { s with table := s.table.set i d }

/-- Open a device by name: the new descriptor. The device is put in the lowest free slot
before the driver's open callback runs, and taken out again when the callback refuses. -/
def openDevice (name : String) (s : Emulation σ) : Except DeviceError Int × Emulation σ :=
  let path := DevicePath.clean name
  if !fs.present s.tree path then (.error (.noDevice path), s)
  else
    match s.servedBy? path with
    | some d =>
      if !d.enabled then (.error (.noDriver path), s)
      else
        match s.freeSlot? with
        | some i =>
          let reserved := s.setDevice i (some ⟨path, d, []⟩)
          match d.onOpen i.val path with
          | .ok () => (.ok i.val, reserved)
          | .error e => (.error (.refused e), reserved.setDevice i none)
        | none => (.error .tableFull, s)
    | none => (.error (.noDriver path), s)

def close (fd : Int) (s : Emulation σ) : Except DeviceError Unit × Emulation σ :=
  match slotOf? fd with
  | some i =>
    match s.table.get i with
    | some _ => (.ok (), s.setDevice i none)
    | none => (.error (.badDescriptor fd), s)
  | none => (.error (.badDescriptor fd), s)

def onDevice {α : Type} (fd : Int) (act : OpenDevice → Except DeviceError (α × MessageQueue))
    (s : Emulation σ) : Except DeviceError α × Emulation σ :=
  match slotOf? fd with
  | some i =>
    match s.table.get i with
    | some dev =>
      match act dev with
      | .ok (a, q) => (.ok a, s.setDevice i (some { dev with queue := q }))
      | .error e => (.error e, s)
    | none => (.error (.badDescriptor fd), s)
  | none => (.error (.badDescriptor fd), s)

def read (fd : Int) (size : Nat) : Step σ (Except DeviceError (Nat × Bytes)) :=
  onDevice fd fun dev => .ok (dev.driver.read dev.queue size)

def write (fd : Int) (msg : Bytes) : Step σ (Except DeviceError Nat) :=
  onDevice fd fun dev => .ok (dev.driver.write dev.queue msg)

def control (fd : Int) (cmd : Nat) : Step σ (Except DeviceError Nat) :=
  onDevice fd fun dev => (dev.driver.control dev.queue cmd).mapError .unknownCommand

/-- Mark in `ready` which watched descriptors below `maxFd` have queued messages, in ascending
order: the count, or the first descriptor that is not open. The marks made before a failure
stay. -/
def collect (s : Emulation σ) : List Int → DescriptorSet → Nat → Except DeviceError Nat × DescriptorSet
  | [], ready, n => (.ok n, ready)
  | fd :: rest, ready, n =>
    match s.device? fd with
    | some dev =>
      if dev.queue.isEmpty then collect s rest (ready.erase fd) n
      else collect s rest (ready.insert fd) (n + 1)
    | none => (.error (.badDescriptor fd), ready)

/-- Select over the watched descriptors below `maxFd`: the count and the ready set after. -/
def select (s : Emulation σ) (maxFd : Int) (watch ready : DescriptorSet) :
    Except DeviceError Nat × DescriptorSet :=
  collect s (watch.below maxFd) ready 0

end Emulation

end PlatformLayer
