import PlatformLayer.Memory.Process
/-!
# Copies between user and kernel buffers

The copy service moves the first `size` bytes of a source buffer into a destination buffer
through a provider, called only when `sizeOk` holds, and succeeds when the provider reports
exactly `size` bytes.
-/
namespace PlatformLayer

/-- How bytes move into a destination, in each direction: the destination after, and the count
or the error. -/
structure CopyProvider (ε : Type) where
  copyFrom : Bytes → Bytes → Bytes × Except ε Int
  copyTo : Bytes → Bytes → Bytes × Except ε Int

inductive CopyDirection where
  | fromUser
  | toUser
  deriving DecidableEq, Repr

namespace CopyProvider

def move {ε : Type} (p : CopyProvider ε) : CopyDirection → Bytes → Bytes → Bytes × Except ε Int
  | .fromUser => p.copyFrom
  | .toUser => p.copyTo

def plain {ε : Type} : CopyProvider ε :=
  let move := fun dst src => (overlay dst src, .ok (min dst.length src.length : Nat))
  ⟨move, move⟩

def ownProcess {ε : Type} : CopyProvider ε :=
  let move := fun dst src =>
    let (after, n) := copyWithin dst src
    (after, .ok (n : Int))
  ⟨move, move⟩

/-- A provider that copies as the plain one does, then reports `count` as its count, the bytes
copied when none is given, or `err` as its error. -/
def scripted (count : Option Int) (err : Option String) : CopyProvider String :=
  let move := fun dst src =>
    let report : Except String Int :=
      match err with
      | some e => .error e
      | none => .ok (count.getD (min dst.length src.length : Nat))
    (overlay dst src, report)
  ⟨move, move⟩

end CopyProvider

namespace CopyService

/-- Both buffers are there and `0 < size ≤ min (len dst) (len src)`. -/
def sizeOk (dst src : Option Bytes) (size : Int) : Bool :=
  match dst, src with
  | some d, some s => decide (0 < size ∧ size ≤ d.length ∧ size ≤ s.length)
  | _, _ => false

def copy {ε : Type} (p : CopyProvider ε) (dir : CopyDirection) (dst src : Option Bytes)
    (size : Int) : Option Bytes × Option Bytes :=
  match dst, src with
  | some d, some s =>
    if 0 < size ∧ size ≤ d.length ∧ size ≤ s.length then
      let n := size.toNat
      let (front, report) := p.move dir (d.take n) (s.take n)
      let ok := match report with
        | .ok k => decide (k = size)
        | .error _ => false
      (if ok then some front else none, some (front ++ d.drop n))
    else (none, dst)
  | _, _ => (none, dst)

end CopyService

end PlatformLayer
