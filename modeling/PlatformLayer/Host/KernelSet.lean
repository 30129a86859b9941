import PlatformLayer.Socket.Basic
/-!
# Descriptor sets in the kernel's layout

`SetLayout` is what the host's select uses of the kernel's layout of descriptor sets: the empty
set, and adding and testing a descriptor, where `none` is a descriptor whose word the set does not
have. `KernelFdSet` is the host kernel's layout, and `selectThrough` a select that translates the
caller's sets there and back.
-/
namespace PlatformLayer

/-- What a select backend uses of a kernel's layout of descriptor sets. Adding and testing a
descriptor address its word; `none` is a descriptor whose word the set does not have. -/
structure SetLayout (K : Type) where
  empty : K
  set : K → Int → Option K
  isSet : K → Int → Option Bool

structure KernelSets (K : Type) where
  read : Option K
  write : Option K
  except : Option K

namespace SetLayout

variable {K : Type} (L : SetLayout K)

/-- Whether a set of the layout holds `fd`: a descriptor of `[0, 1024)` that testing finds. -/
def holds (u : K) (fd : Int) : Bool := decide (0 ≤ fd ∧ fd < 1024) && L.isSet u fd == some true

/-- The descriptors below `min maxFd 1024` that a set holds, ascending: what the kernel reads of a
set when it is told that the descriptors below `maxFd` matter. -/
def below (u : K) (maxFd : Int) : List Int :=
  ((List.range (min maxFd 1024).toNat).map Int.ofNat).filter (L.holds u)

/-- How the operations behave on the descriptors a set can hold, `[0, 1024)`: they find the
descriptor's word, the empty set holds none of them, and adding one keeps the others. -/
structure Lawful : Prop where
  set_isSome : ∀ u fd, 0 ≤ fd → fd < 1024 → (L.set u fd).isSome
  isSet_isSome : ∀ u fd, 0 ≤ fd → fd < 1024 → (L.isSet u fd).isSome
  isSet_empty : ∀ fd, 0 ≤ fd → fd < 1024 → L.isSet L.empty fd = some false
  isSet_set : ∀ u u' fd g, L.set u fd = some u' → 0 ≤ fd → fd < 1024 → 0 ≤ g → g < 1024 →
    L.isSet u' g = (L.isSet u g).map (· || decide (g = fd))

/-- The caller's set `s` in the layout: its members below `maxFd`, added in ascending order to the
empty set; no set without `s`. The outer `none` is a fault. -/
def toKernel? (s : Option DescriptorSet) (maxFd : Int) : Option (Option K) :=
  match s with
  | none => some none
  | some d => some <$> (d.below maxFd).foldlM L.set L.empty

def readBack (u : K) (acc : DescriptorSet) (fd : Int) : Option DescriptorSet :=
  (fun b => if b then acc.insert fd else acc) <$> L.isSet u fd

/-- The caller's set rewritten from the kernel's set `u`: emptied, then given each descriptor from
0 up to `maxFd` that `u` holds. Without either set the caller's stays as it is. The outer `none`
is a fault. -/
def fromKernel? (u : Option K) (s : Option DescriptorSet) (maxFd : Int) :
    Option (Option DescriptorSet) :=
  match u, s with
  | some u, some _ =>
    some <$> ((List.range maxFd.toNat).map Int.ofNat).foldlM (L.readBack u) DescriptorSet.empty
  | _, _ => some s

def toKernelSets? (sets : SelectSets) (maxFd : Int) : Option (KernelSets K) := do
  pure ⟨← L.toKernel? sets.read maxFd, ← L.toKernel? sets.write maxFd,
    ← L.toKernel? sets.except maxFd⟩

def fromKernelSets? (ks : KernelSets K) (sets : SelectSets) (maxFd : Int) : Option SelectSets := do
  pure ⟨← L.fromKernel? ks.read sets.read maxFd, ← L.fromKernel? ks.write sets.write maxFd,
    ← L.fromKernel? ks.except sets.except maxFd⟩

/-- A select made through a kernel that takes its sets in the layout: the sets go to the layout,
the kernel rewrites them, and they come back over the caller's sets, which stay as they were when
the kernel fails. The outer `none` is a fault, which halts the program. -/
def selectThrough {σ ε : Type}
    (kernel : Int → KernelSets K → Option Int64 → σ → Except ε (Int × KernelSets K) × σ)
    (maxFd : Int) (sets : SelectSets) (tv : Option Int64) (st : σ) :
    Option (Except ε (Int × SelectSets) × σ) := do
  let ks ← L.toKernelSets? sets maxFd
  match kernel maxFd ks tv st with
  | (.ok (n, after), st') => do
    let sets' ← L.fromKernelSets? after sets maxFd
    pure (.ok (n, sets'), st')
  | (.error e, st') => pure (.error e, st')

end SetLayout

structure KernelFdSet where
  words : Vector Int64 16
  deriving DecidableEq, Repr

namespace KernelFdSet

def empty : KernelFdSet := ⟨Vector.replicate 16 0⟩

/-- The word and the bit of a descriptor as the set's operations compute them: word `fd / 64`,
the quotient rounded toward zero, and bit `fd % 64` of the descriptor read as an unsigned number;
none when that word is not one of the 16. -/
def slot? (fd : Int) : Option (Fin 16 × Nat) :=
  if h : 0 ≤ fd.tdiv 64 ∧ fd.tdiv 64 < 16 then
    some (⟨(fd.tdiv 64).toNat, by omega⟩, (fd % 64).toNat)
  else none

def bit (b : Nat) : Int64 := 1 <<< b.toInt64

/-- Add `fd`; a fault when its word is not one of the 16. -/
def set? (u : KernelFdSet) (fd : Int) : Option KernelFdSet :=
  (slot? fd).map fun (w, b) => ⟨u.words.setIfInBounds w (u.words.get w ||| bit b)⟩

def isSet? (u : KernelFdSet) (fd : Int) : Option Bool :=
  (slot? fd).map fun (w, b) => u.words.get w &&& bit b != 0

def layout : SetLayout KernelFdSet := ⟨empty, set?, isSet?⟩

/-- The set holding the descriptors of a list, all of `[0, 1024)`: how the kernel writes its
answer. -/
def ofList (fds : List Int) : KernelFdSet := fds.foldl (fun u fd => (u.set? fd).getD u) empty

end KernelFdSet

end PlatformLayer
