import PlatformLayer.Errno
import PlatformLayer.Fault
import PlatformLayer.Text.Hex
/-!
# Mapping physical memory into the address space

The identity source answers every physical address with itself. The device source maps a
page-aligned window of a memory device file, answers the place of the address inside it, keeps
the regions it made, and meets the kernel's refusals of a length that is not positive, too long,
or past the largest file offset.
-/
namespace PlatformLayer

/-- An address: a number, or the place `delta` bytes into the region the kernel chose for a
mapping. -/
inductive Address where
  | num (n : Nat)
  | mapped (region delta : Nat)
  deriving DecidableEq, Repr

/-- The zero address, which marks an unused out-pointer. -/
def Address.zero : Address := .num 0

def Address.isZero : Address → Bool
  | .num n => n == 0
  | .mapped _ _ => false

inductive MapError where
  | openFailed (path : String) (errno : Errno)
  | mmapFailed (path : String) (base : Nat) (errno : Errno)
  deriving DecidableEq, Repr

/-- `open <path>: <errno>` or `mmap <path> at 0x<base>: <errno>`. -/
def MapError.message : MapError → String
  | .openFailed path e => "open " ++ path ++ ": " ++ e.text
  | .mmapFailed path base e => "mmap " ++ path ++ " at " ++ Hex.withMark base ++ ": " ++ e.text

/-- The largest free stretch of a process's address space: from the end of the low region that
holds the program and its heap arenas, which start at `0xc000000000`, up to the high region
below the stack that holds the shared mappings, which start near `0x7f0000000000`. A mapping
longer than this finds no room. -/
def largestFreeStretch : Nat := 0x7f0000000000 - 0xc000000000

def maxFileOffset : Nat := 9223372036854775807

def roundUpTo (page n : Nat) : Nat := (n + page - 1) / page * page

/-- Why the kernel refuses to map `length` bytes at the page-aligned offset `base`, where the
length is the signed word the caller computed. -/
def mmapRefusal (page base : Nat) (length : Int) : Option Errno :=
  if length ≤ 0 then some .invalidArgument
  else
    let len := roundUpTo page length.toNat
    if len > largestFreeStretch then some .noMemory
    else if base / page > (maxFileOffset - len) / page then some .overflow
    else none

/-- A length as the signed 64-bit word a caller computes it in: wrapped to 64 bits, the upper
half negative. -/
def signedLength (n : Nat) : Int :=
  if n % 18446744073709551616 < 9223372036854775808 then (n % 18446744073709551616 : Nat)
  else ((n % 18446744073709551616 : Nat) : Int) - 18446744073709551616

/-- A region the device source mapped: where it starts in the file, the offset of the answered
address inside it, and the size asked for. -/
structure Region where
  base : Nat
  delta : Nat
  size : Nat
  deriving DecidableEq, Repr

/-- Where mappings come from: every address as itself, or windows of a memory device file,
which may be missing, with a page size. -/
inductive MapSource where
  | identity
  | deviceFile (path : String) (contents : Option Bytes) (page : Nat)
  deriving DecidableEq, Repr

structure Mapper where
  source : MapSource
  /-- The live regions, by the address answered for them. -/
  live : List (Address × Region)
  /-- How many regions were made, which names the next one. -/
  made : Nat
  deriving DecidableEq, Repr

namespace Mapper

def start (source : MapSource) : Mapper := ⟨source, [], 0⟩

def mappings (m : Mapper) : Nat := m.live.length

def map (m : Mapper) (phys size : Nat) : Except MapError Address × Mapper :=
  match m.source with
  | .identity => (.ok (.num phys), m)
  | .deviceFile path none _ => (.error (.openFailed path (Errno.ofMissingPath path)), m)
  | .deviceFile path (some _) page =>
    let delta := phys % page
    let base := phys - delta
    match mmapRefusal page base (signedLength (size + delta)) with
    | some e => (.error (.mmapFailed path base e), m)
    | none =>
      let v := Address.mapped m.made delta
      (.ok v, { m with live := m.live ++ [(v, ⟨base, delta, size⟩)], made := m.made + 1 })

/-- Release the region answered at an address; other addresses are left alone. -/
def unmap (m : Mapper) (virt : Address) : Mapper :=
  { m with live := m.live.filter (·.1 ≠ virt) }

/-- The bytes seen through the region answered at an address, when the region lies inside the
device file. -/
def window? (m : Mapper) (virt : Address) : Option Bytes :=
  match m.source, m.live.find? (·.1 == virt) with
  | .deviceFile _ (some bs) _, some (_, r) =>
    let start := r.base + r.delta
    if start + r.size ≤ bs.length then some ((bs.drop start).take r.size) else none
  | _, _ => none

end Mapper

namespace MemMapService

/-- Map `size` bytes at a physical address into the out-pointer `virt`, which must be there
and hold zero: the outcome and the pointer after. -/
def map (m : Mapper) (phys : Nat) (size : Int) (virt : Option Address) :
    (Except (Fault MapError) Unit × Option Address) × Mapper :=
  let op := "memmap-map"
  match virt with
  | none => ((.error (.failed op none), virt), m)
  | some v =>
    if !v.isZero ∨ size ≤ 0 then ((.error (.failed op none), virt), m)
    else
      match m.map phys size.toNat with
      | (.ok a, m') => ((.ok (), some a), m')
      | (.error e, m') => ((.error (.failed op (some e)), virt), m')

/-- Give a mapping back: a non-zero address in `virt` is released, then the pointers that are
there are zeroed. It never fails. -/
def unmap (m : Mapper) (phys virt : Option Address) :
    (Option Address × Option Address) × Mapper :=
  let m' := match virt with
    | some v => if v.isZero then m else m.unmap v
    | none => m
  ((phys.map fun _ => Address.zero, virt.map fun _ => Address.zero), m')

end MemMapService

end PlatformLayer
