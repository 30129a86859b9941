import Mathlib
import PlatformLayer.Time.Tick
/-!
# Elapsed time across a wrap of the tick counter

The counter turns every `2^32` ms. Elapsed milliseconds are the difference of two readings in
32-bit arithmetic, so they are exact for every elapsed time below one turn, wrap or not.

Elapsed seconds divide each reading by 1000 before comparing them. A turn is `tickMaxSec` whole
seconds and 296 ms more, and the seconds count of a turn forgets those 296 ms. Counted from a
reading `t0`, `d` ms later the count is the whole seconds of `t0 % 1000 + d` within one turn
(`elapsedSec_toNat_of_no_wrap`) and of 296 ms less across the wrap
(`elapsedSec_toNat_of_wrap`), so it is never more than a second away from `d / 1000`. A
reference of at most `tickMaxSec` keeps the wrapped branch `tickMaxSec - ref + cur` from
wrapping itself (`elapsedSec_toNat_of_lt`).
-/
namespace PlatformLayer.Tick

/-! ## One reading -/

theorem toNat_div_le (t : UInt32) : (t / 1000).toNat ≤ 4294967 := by
  have := t.toNat_lt
  rw [UInt32.toNat_div]
  simp only [UInt32.reduceToNat]
  omega

theorem toNat_ofNat_div (n : Nat) : (UInt32.ofNat n / 1000).toNat = n % 4294967296 / 1000 := by
  simp

@[simp] theorem elapsedMs_zero (t : UInt32) : elapsedMs t 0 = t := by
  simp [elapsedMs]

theorem elapsedSec_zero (t : UInt32) : elapsedSec t 0 = t / 1000 := by
  simp [elapsedSec]

theorem elapsedSec_of_le {t ref : UInt32} (h0 : ref ≠ 0) (h : ref ≤ t / 1000) :
    elapsedSec t ref = t / 1000 - ref := by
  simp [elapsedSec, h0, h]

theorem elapsedSec_of_lt {t ref : UInt32} (h : t / 1000 < ref) :
    elapsedSec t ref = tickMaxSec - ref + t / 1000 := by
  have h0 : ref ≠ 0 := by
    rintro rfl
    exact absurd h (by simp)
  simp [elapsedSec, h0, UInt32.not_le.2 h]

/-- The wrapped branch `tickMaxSec - ref + cur` does not wrap for a reference of at most
`tickMaxSec`. -/
theorem elapsedSec_toNat_of_lt {t ref : UInt32} (h : t / 1000 < ref) (href : ref ≤ tickMaxSec) :
    (elapsedSec t ref).toNat = 4294967 - ref.toNat + (t / 1000).toNat := by
  rw [elapsedSec_of_lt h]
  have hc := toNat_div_le t
  rw [UInt32.lt_iff_toNat_lt] at h
  rw [UInt32.le_iff_toNat_le, tickMaxSec_eq] at href
  have hsub : (tickMaxSec - ref).toNat = 4294967 - ref.toNat := by
    rw [UInt32.toNat_sub_of_le _ _ (UInt32.le_iff_toNat_le.2 (by rw [tickMaxSec_eq]; omega)),
      tickMaxSec_eq]
  rw [UInt32.toNat_add, hsub]
  omega

theorem elapsedSec_le_tickMaxSec (t ref : UInt32) (href : ref ≤ tickMaxSec) :
    elapsedSec t ref ≤ tickMaxSec := by
  have hc := toNat_div_le t
  rw [UInt32.le_iff_toNat_le, tickMaxSec_eq]
  by_cases h0 : ref = 0
  · subst h0
    rw [elapsedSec_zero]
    omega
  by_cases hle : ref ≤ t / 1000
  · rw [elapsedSec_of_le h0 hle, UInt32.toNat_sub_of_le _ _ hle]
    omega
  · have hlt : t / 1000 < ref := UInt32.not_le.1 hle
    rw [elapsedSec_toNat_of_lt hlt href]
    rw [UInt32.lt_iff_toNat_lt] at hlt
    omega

/-! ## Two readings `d` ms apart -/

theorem elapsedMs_toNat_ofNat_add (t0 : UInt32) {d : Nat} (hd : d < 4294967296) :
    (elapsedMs (UInt32.ofNat (t0.toNat + d)) t0).toNat = d := by
  have := t0.toNat_lt
  simp only [elapsedMs, UInt32.toNat_sub, UInt32.toNat_ofNat']
  omega

/-- Within one turn the seconds since a reading of at least a second are the whole seconds of
`t0 % 1000 + d`. -/
theorem elapsedSec_toNat_of_no_wrap (t0 : UInt32) {d : Nat} (h1 : 1000 ≤ t0.toNat)
    (hw : t0.toNat + d < 4294967296) :
    (elapsedSec (UInt32.ofNat (t0.toNat + d)) (elapsedSec t0 0)).toNat =
      (t0.toNat % 1000 + d) / 1000 := by
  rw [elapsedSec_zero]
  have hcur := toNat_ofNat_div (t0.toNat + d)
  have hs : (t0 / 1000).toNat = t0.toNat / 1000 := UInt32.toNat_div _ _
  have hle : t0 / 1000 ≤ UInt32.ofNat (t0.toNat + d) / 1000 := by
    rw [UInt32.le_iff_toNat_le, hcur, hs]
    omega
  -- a reference of 0 would ask for the seconds since boot
  have h0 : t0 / 1000 ≠ 0 := by
    intro h
    have := congrArg UInt32.toNat h
    rw [hs] at this
    simp at this
    omega
  rw [elapsedSec_of_le h0 hle, UInt32.toNat_sub_of_le _ _ hle, hcur, hs]
  omega

/-- Across the wrap the count loses the 296 ms by which a turn exceeds `tickMaxSec` seconds. -/
theorem elapsedSec_toNat_of_wrap (t0 : UInt32) {d : Nat} (hd : d ≤ 4294967296 - 1000)
    (hw : 4294967296 ≤ t0.toNat + d) :
    (elapsedSec (UInt32.ofNat (t0.toNat + d)) (elapsedSec t0 0)).toNat =
      (t0.toNat % 1000 + d - 296) / 1000 := by
  rw [elapsedSec_zero]
  have ht := t0.toNat_lt
  have hcur := toNat_ofNat_div (t0.toNat + d)
  have hs : (t0 / 1000).toNat = t0.toNat / 1000 := UInt32.toNat_div _ _
  -- the new reading is at least a second below `t0`, so its seconds are below the reference
  have hlt : UInt32.ofNat (t0.toNat + d) / 1000 < t0 / 1000 := by
    rw [UInt32.lt_iff_toNat_lt, hcur, hs]
    omega
  have href : t0 / 1000 ≤ tickMaxSec := by
    rw [UInt32.le_iff_toNat_le, hs, tickMaxSec_eq]
    omega
  rw [elapsedSec_toNat_of_lt hlt href, hcur, hs]
  omega

example : (elapsedSec (UInt32.ofNat (4294967000 + 1295)) (elapsedSec 4294967000 0)).toNat = 0 := by
  decide

/-- Elapsed milliseconds are exact for every elapsed time below a turn; elapsed seconds from a
reading of at least a second, for up to a turn less a second, are within a second of the true
whole seconds; and a reference of at most `tickMaxSec` never gives more than `tickMaxSec`. -/
theorem tick_elapsed_across_wrap :
    (∀ (t0 : UInt32) (d : Nat), d < 4294967296 →
      (elapsedMs (UInt32.ofNat (t0.toNat + d)) (elapsedMs t0 0)).toNat = d) ∧
    (∀ (t0 : UInt32) (d : Nat), 1000 ≤ t0.toNat → d ≤ 4294967296 - 1000 →
      (elapsedSec (UInt32.ofNat (t0.toNat + d)) (elapsedSec t0 0)).toNat ≤ d / 1000 + 1 ∧
      d / 1000 ≤ (elapsedSec (UInt32.ofNat (t0.toNat + d)) (elapsedSec t0 0)).toNat + 1) ∧
    (∀ ticks ref : UInt32, ref ≤ tickMaxSec → elapsedSec ticks ref ≤ tickMaxSec) := by
  refine ⟨fun t0 d hd => ?_, fun t0 d h1 hd => ?_, elapsedSec_le_tickMaxSec⟩
  · rw [elapsedMs_zero]
    exact elapsedMs_toNat_ofNat_add t0 hd
  · -- the counter either stays within its turn for the `d` ms or wraps once
    rcases Nat.lt_or_ge (t0.toNat + d) 4294967296 with hw | hw
    · rw [elapsedSec_toNat_of_no_wrap t0 h1 hw]
      omega
    · rw [elapsedSec_toNat_of_wrap t0 hd hw]
      omega

/-- Five seconds counted from 2.7 s before the wrap, and a reference of five seconds. -/
theorem tick_elapsed_five_seconds_across_wrap :
    ((3000 : Nat) < 4294967296 ∧
      (elapsedMs (UInt32.ofNat ((4294964596 : UInt32).toNat + 3000)) (elapsedMs 4294964596 0)).toNat =
        3000) ∧
    ((1000 ≤ (4294964596 : UInt32).toNat ∧ (5000 : Nat) ≤ 4294967296 - 1000) ∧
      (elapsedSec (UInt32.ofNat ((4294964596 : UInt32).toNat + 5000))
          (elapsedSec 4294964596 0)).toNat ≤ 5000 / 1000 + 1 ∧
      5000 / 1000 ≤ (elapsedSec (UInt32.ofNat ((4294964596 : UInt32).toNat + 5000))
          (elapsedSec 4294964596 0)).toNat + 1) ∧
    ((5 : UInt32) ≤ tickMaxSec ∧ elapsedSec 0 5 ≤ tickMaxSec) :=
  ⟨⟨by decide, tick_elapsed_across_wrap.1 _ _ (by decide)⟩,
    ⟨⟨by decide, by decide⟩, tick_elapsed_across_wrap.2.1 _ _ (by decide) (by decide)⟩,
    ⟨by decide, tick_elapsed_across_wrap.2.2 _ _ (by decide)⟩⟩

end PlatformLayer.Tick
