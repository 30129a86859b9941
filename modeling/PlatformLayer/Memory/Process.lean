import PlatformLayer.Errno
import PlatformLayer.Text.Hex
/-!
# Moving bytes to and from the memory of a process

The kernel moves bytes between a local buffer and an area of a process's memory until it meets an
unmapped page; a transfer of no bytes is not made, and one to a missing process fails.
-/
namespace PlatformLayer

/-- The destination after copying as many bytes as both buffers hold into its front. -/
def overlay (dst src : Bytes) : Bytes := src.take dst.length ++ dst.drop src.length

@[simp] theorem overlay_length (dst src : Bytes) : (overlay dst src).length = dst.length := by
  simp only [overlay, List.length_append, List.length_take, List.length_drop]
  omega

theorem overlay_of_length_eq {dst src : Bytes} (h : dst.length = src.length) :
    overlay dst src = src := by
  simp [overlay, h]

/-- The process whose memory a transfer reaches: the calling process, or a process number that
no process bears. -/
inductive Target where
  | own
  | gone (pid : Nat)
  deriving DecidableEq, Repr

def Target.label : Target → String
  | .own => "<self>"
  | .gone pid => toString pid

/-- An area of the calling process's memory that a transfer starts at: a buffer inside mapped
memory, the last bytes of a page followed by an unmapped page, or the start of an unmapped
page. -/
inductive RemoteArea where
  | buffer (bytes : Bytes)
  | edge (bytes : Bytes)
  | unmapped
  deriving DecidableEq, Repr

namespace RemoteArea

/-- The bytes a transfer reaches from the start of the area before an unmapped page. A buffer
is reached whole; transfers into it are never longer than it. -/
def reachable : RemoteArea → Bytes
  | .buffer bs => bs
  | .edge bs => bs
  | .unmapped => []

def contents? : RemoteArea → Option Bytes
  | .buffer bs => some bs
  | .edge bs => some bs
  | .unmapped => none

def store (a : RemoteArea) (data : Bytes) : RemoteArea :=
  match a with
  | .buffer bs => .buffer (overlay bs data)
  | .edge bs => .edge (overlay bs data)
  | .unmapped => .unmapped

end RemoteArea

inductive Direction where
  | read
  | write
  deriving DecidableEq, Repr

inductive TransferOutcome where
  | complete (n : Nat)
  | short (n : Nat)
  | failed (errno : Errno)
  deriving DecidableEq, Repr

namespace TransferOutcome

def moved : TransferOutcome → Nat
  | .complete n => n
  | .short n => n
  | .failed _ => 0

/-- The count the kernel answers: the bytes moved, or `-1` for an error. -/
def count : TransferOutcome → Int
  | .complete n => n
  | .short n => n
  | .failed _ => -1

def message? (dir : Direction) (t : Target) (size : Nat) : TransferOutcome → Option String
  | .complete _ => none
  | .short n =>
    match dir with
    | .read => some ("failed to read " ++ toString size ++ " bytes from mem of pid " ++ t.label ++
        ": read " ++ toString n ++ " bytes only")
    | .write => some ("failed to write " ++ toString size ++ " bytes to mem of pid " ++ t.label ++
        ": wrote " ++ toString n ++ " bytes only")
  | .failed e =>
    match dir with
    | .read => some ("failed to read from mem of pid " ++ t.label ++ ": " ++ e.text)
    | .write => some ("failed to write to mem of pid " ++ t.label ++ ": " ++ e.text)

end TransferOutcome

def transferOutcome (t : Target) (area : RemoteArea) (size : Nat) : TransferOutcome :=
  match t with
  | .gone _ => .failed .noSuchProcess
  | .own =>
    let n := min size area.reachable.length
    if n = 0 then .failed .badAddress
    else if n = size then .complete n else .short n

theorem transferOutcome_moved_le (t : Target) (area : RemoteArea) (size : Nat) :
    (transferOutcome t area size).moved ≤ size := by
  unfold transferOutcome
  split
  · simp [TransferOutcome.moved]
  · dsimp only
    split
    · simp [TransferOutcome.moved]
    · split <;> simp only [TransferOutcome.moved] <;> omega

/-- Read `size` bytes of an area into a fresh local buffer: the outcome and the buffer after,
which holds the bytes moved followed by zeros. -/
def readMemory (t : Target) (area : RemoteArea) (size : Nat) : TransferOutcome × Bytes :=
  if size = 0 then (.complete 0, [])
  else
    let o := transferOutcome t area size
    (o, area.reachable.take o.moved ++ List.replicate (size - o.moved) 0)

/-- Write bytes to the start of an area: the outcome and the area after, which holds the bytes
moved. -/
def writeMemory (t : Target) (area : RemoteArea) (data : Bytes) : TransferOutcome × RemoteArea :=
  if data.isEmpty then (.complete 0, area)
  else
    let o := transferOutcome t area data.length
    (o, area.store (data.take o.moved))

/-- A copy between two buffers of the calling process: the destination after and the count. With
an empty side nothing is moved; otherwise the shorter buffer's length is moved. -/
def copyWithin (dst src : Bytes) : Bytes × Nat :=
  if dst.isEmpty ∨ src.isEmpty then (dst, 0)
  else (overlay dst src, min dst.length src.length)

theorem copyWithin_eq (dst src : Bytes) :
    copyWithin dst src = (overlay dst src, min dst.length src.length) := by
  unfold copyWithin
  split
  · rename_i h
    rcases h with h | h
    · simp only [List.isEmpty_iff] at h
      subst h
      simp [overlay]
    · simp only [List.isEmpty_iff] at h
      subst h
      simp [overlay]
  · rfl

end PlatformLayer
