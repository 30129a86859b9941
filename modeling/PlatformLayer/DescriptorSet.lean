/-!
# Descriptor sets

A descriptor set holds members of `[0, 1024)` as 16 words of 64 bits, descriptor `fd` at bit
`fd % 64` of word `fd / 64`; the absent set of a call is `none : Option DescriptorSet`.
-/
namespace PlatformLayer

def setCapacity : Nat := 1024

def validDescriptor (fd : Int) : Bool := decide (0 ≤ fd)

structure DescriptorSet where
  words : Vector UInt64 16
  deriving DecidableEq, Repr

namespace DescriptorSet

def empty : DescriptorSet := ⟨Vector.replicate 16 0⟩

instance : Inhabited DescriptorSet := ⟨empty⟩

def slot? (fd : Int) : Option (Fin 16 × Nat) :=
  if h : 0 ≤ fd ∧ fd < 1024 then some (⟨fd.toNat / 64, by omega⟩, fd.toNat % 64) else none

def bit (b : Nat) : UInt64 := (1 : UInt64) <<< b.toUInt64

/-- Add `fd`; a descriptor outside `[0, 1024)` is ignored. -/
def insert (s : DescriptorSet) (fd : Int) : DescriptorSet :=
  match slot? fd with
  | some (w, b) => ⟨s.words.set w (s.words.get w ||| bit b)⟩
  | none => s

def erase (s : DescriptorSet) (fd : Int) : DescriptorSet :=
  match slot? fd with
  | some (w, b) => ⟨s.words.set w (s.words.get w &&& ~~~(bit b))⟩
  | none => s

/-- Whether `fd` is a member; never for a descriptor outside `[0, 1024)`. -/
def contains (s : DescriptorSet) (fd : Int) : Bool :=
  match slot? fd with
  | some (w, b) => (s.words.get w >>> b.toUInt64) &&& 1 != 0
  | none => false

/-- The members below `min max 1024`, ascending. -/
def below (s : DescriptorSet) (max : Int) : List Int :=
  ((List.range (min max 1024).toNat).map Int.ofNat).filter s.contains

def toList (s : DescriptorSet) : List Int := s.below 1024

def count (s : DescriptorSet) : Nat := s.toList.length

def ofList (fds : List Int) : DescriptorSet := fds.foldl insert empty

def restrict (s : DescriptorSet) (max : Int) : DescriptorSet := ofList (s.below max)

@[simp] theorem slot?_of_neg {fd : Int} (h : fd < 0) : slot? fd = none := by
  simp [slot?]; omega

@[simp] theorem slot?_of_large {fd : Int} (h : 1024 ≤ fd) : slot? fd = none := by
  simp [slot?]; omega

theorem insert_out_of_range (s : DescriptorSet) {fd : Int} (h : fd < 0 ∨ 1024 ≤ fd) :
    s.insert fd = s := by
  rcases h with h | h <;> simp [insert, h]

theorem erase_out_of_range (s : DescriptorSet) {fd : Int} (h : fd < 0 ∨ 1024 ≤ fd) :
    s.erase fd = s := by
  rcases h with h | h <;> simp [erase, h]

theorem contains_out_of_range (s : DescriptorSet) {fd : Int} (h : fd < 0 ∨ 1024 ≤ fd) :
    s.contains fd = false := by
  rcases h with h | h <;> simp [contains, h]

end DescriptorSet

end PlatformLayer
