import Mathlib
import PlatformLayer.Proofs.DescriptorSet
import PlatformLayer.Session.Sets
/-!
# Steps on a descriptor set refine a finite set

A history of steps works on a set, or on no set at all. On a set, each step does to the set's
members what it does to a finite set of descriptors: an insert or an erase of a descriptor of
`[0, 1024)` adds or removes it, one outside is ignored, a clear empties the set, and the queries
leave it. Main statement: after any history from the empty set, a membership test, the count and
the ascending listing below a bound all read the finite set the same history builds; with no set,
the history changes nothing and the queries answer false, zero and the empty list.
-/
namespace PlatformLayer.Session

open DescriptorSet

namespace SetStep

/-- The set after a history of steps, started from `s` (`none` for no set). -/
def applyAll (hs : List SetStep) (s : Option DescriptorSet) : Option DescriptorSet :=
  hs.foldl (fun s st => (st.apply s).2) s

/-- What a step does to a finite set of descriptors. -/
def onFinset : SetStep → Finset Int → Finset Int
  | .insert fd, S => if 0 ≤ fd ∧ fd < 1024 then Insert.insert fd S else S
  | .erase fd, S => if 0 ≤ fd ∧ fd < 1024 then S.erase fd else S
  | .clear, _ => ∅
  | _, S => S

/-- The finite set after a history of steps, started from `S`. -/
def onFinsetAll (hs : List SetStep) (S : Finset Int) : Finset Int :=
  hs.foldl (fun S st => st.onFinset S) S

/-- One step on a set moves its members as the step moves a finite set. -/
theorem apply_members (st : SetStep) (t : DescriptorSet) :
    (st.apply (some t)).2.map members = some (st.onFinset t.members) := by
  cases st with
  | insert fd => simp [apply, onFinset, members_insert]
  | erase fd =>
    simp only [apply, onFinset, Option.map_some, members_erase, Option.some.injEq]
    split_ifs with h
    · rfl
    -- an erase out of range removes nothing, since no member lies out of range
    · exact Finset.erase_eq_of_notMem fun hm => h (members_range hm)
  | clear => simp [apply, onFinset]
  | contains fd => rfl
  | count => rfl
  | below max => rfl
  | valid fd => rfl

theorem applyAll_members (hs : List SetStep) (t : DescriptorSet) :
    (applyAll hs (some t)).map members = some (onFinsetAll hs t.members) := by
  induction hs generalizing t with
  | nil => rfl
  | cons st rest ih =>
    obtain ⟨t', ht', hm⟩ := Option.map_eq_some_iff.1 (apply_members st t)
    simp only [applyAll, onFinsetAll, List.foldl_cons] at ht' ⊢
    rw [ht', ← hm]
    exact ih t'

theorem apply_none (st : SetStep) : (st.apply none).2 = none := by
  cases st <;> rfl

theorem applyAll_none (hs : List SetStep) : applyAll hs none = none := by
  induction hs with
  | nil => rfl
  | cons st rest ih => simpa [applyAll, apply_none] using ih

end SetStep

open SetStep

/-- A descriptor set is a finite subset of `[0, 1024)`. After any history from the empty set, a
descriptor is a member exactly when it is in the finite set the history builds, the count is that
set's size, and the listing below `max` is its members below `min max 1024` in ascending order.
With no set, a history leaves no set, and the queries answer false, zero and the empty list. -/
theorem setSteps_refine_finset (hs : List SetStep) :
    (∃ t, applyAll hs (some .empty) = some t ∧
      (∀ fd, t.contains fd = true ↔ fd ∈ onFinsetAll hs ∅) ∧
      t.count = (onFinsetAll hs ∅).card ∧
      ∀ max, t.below max = ((onFinsetAll hs ∅).filter (· < min max 1024)).sort) ∧
    applyAll hs none = none ∧
    ∀ fd max, (SetStep.contains fd).apply none = (some (.bool false), none) ∧
      SetStep.count.apply none = (some (.nat 0), none) ∧
      (SetStep.below max).apply none = (some (Value.ints []), none) := by
  obtain ⟨t, ht, hm⟩ := Option.map_eq_some_iff.1 (applyAll_members hs .empty)
  rw [members_empty] at hm
  refine ⟨⟨t, ht, fun fd => ?_, ?_, fun max => ?_⟩, applyAll_none hs, fun fd max => ⟨rfl, rfl, rfl⟩⟩
  · rw [← hm, mem_members]
  · rw [← hm, count_eq_card]
  · rw [← hm, below_eq_sort]

end PlatformLayer.Session
