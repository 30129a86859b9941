import Mathlib
import PlatformLayer.Proofs.Gating
import PlatformLayer.Host.Network
/-!
# The wait of a socket select

The socket facade hands its backend the wait of a select as seconds and microseconds: none for
`-1`, and for `t ≥ 0` ms the microseconds below a second, in whole milliseconds, that with the
seconds make `t * 1000` µs. The host backend recombines them into nanoseconds in 64-bit
arithmetic, which is `t * 10^6` reduced into the signed 64-bit range: exact up to
9223372036854 ms, and wrapped, first to a negative wait, beyond (`select_wait_overflows`).
-/
namespace PlatformLayer

theorem Timeval.nanos_toInt (tv : Timeval) :
    tv.nanos.toInt = (tv.sec * 1000000000 + tv.usec * 1000).bmod 18446744073709551616 := by
  simp [Timeval.nanos, Int64.size]

theorem nanos_of_split (t : Int) :
    (Timeval.mk (t / 1000) (t % 1000 * 1000)).nanos.toInt =
      (t * 1000000).bmod 18446744073709551616 := by
  rw [Timeval.nanos_toInt]
  congr 1
  dsimp only
  omega

/-- `t` ms in nanoseconds fits the signed 64-bit range exactly up to 9223372036854 ms. -/
theorem bmod_nanos_eq_self_iff {t : Int} (h : 0 ≤ t) :
    (t * 1000000).bmod 18446744073709551616 = t * 1000000 ↔ t ≤ 9223372036854 := by
  constructor
  · intro he
    have hlt := @Int.bmod_lt (t * 1000000) 18446744073709551616 (by decide)
    rw [he] at hlt
    omega
  · intro hle
    exact Int.bmod_eq_of_le (by omega) (by omega)

namespace SocketService

variable {m : Type → Type} [Monad m] {ε : Type}

/-- An admitted select makes its one backend call with the wait of its timeout: none for `-1`,
and otherwise whole milliseconds of microseconds below a second that with the seconds make the
timeout. Recombined into 64-bit nanoseconds, that wait is `t * 10^6` reduced into the signed
range, equal to it exactly up to 9223372036854 ms. -/
theorem select_wait_translation (b : SocketBackend m ε) (f : Features) (hs : f.socket = true)
    {maxFd : Int} (hmax : 0 ≤ maxFd ∧ maxFd ≤ 1024) (sets : SelectSets) {t : Int} (ht : -1 ≤ t) :
    ∃ w k, select b f maxFd sets t = b.select maxFd sets w >>= k ∧
      (w = none ↔ t = -1) ∧
      ∀ tv, w = some tv → 0 ≤ tv.usec ∧ tv.usec < 1000000 ∧ tv.usec % 1000 = 0 ∧
        tv.sec * 1000000 + tv.usec = t * 1000 ∧
        tv.nanos.toInt = (t * 1000000).bmod 18446744073709551616 ∧
        (tv.nanos.toInt = t * 1000000 ↔ t ≤ 9223372036854) := by
  have hf := select_follows b f maxFd sets t
  have hc : 0 ≤ maxFd ∧ maxFd ≤ 1024 ∧ -1 ≤ t := ⟨hmax.1, hmax.2, ht⟩
  simp only [hc, and_self, if_true, hs, Verdict.of, Follows] at hf
  refine ⟨_, _, hf, ?_, ?_⟩
  · split <;> simp_all
  · intro tv htv
    split at htv
    · cases htv
    · cases htv
      have ht0 : 0 ≤ t := by omega
      dsimp only
      refine ⟨by omega, by omega, by omega, by omega, nanos_of_split t, ?_⟩
      rw [nanos_of_split]
      exact bmod_nanos_eq_self_iff ht0

/-- A select of 9223372036855 ms, the first wait whose nanoseconds overflow, hands the host a
negative wait. -/
theorem select_wait_overflows :
    (Features.all.socket = true ∧ ((0 : Int) ≤ 1 ∧ (1 : Int) ≤ 1024) ∧
      (-1 : Int) ≤ 9223372036855) ∧
    ∃ w k, select HostNet.backend Features.all 1 ⟨none, none, none⟩ 9223372036855 =
        HostNet.backend.select 1 ⟨none, none, none⟩ w >>= k ∧
      ∃ tv : Timeval, w = some tv ∧ tv.nanos.toInt = -9223372036854551616 := by
  have hs : Features.all.socket = true := rfl
  have hmax : (0 : Int) ≤ 1 ∧ (1 : Int) ≤ 1024 := by norm_num
  have ht : (-1 : Int) ≤ 9223372036855 := by norm_num
  obtain ⟨w, k, hsel, hnone, hw⟩ :=
    select_wait_translation HostNet.backend Features.all hs hmax ⟨none, none, none⟩ ht
  obtain ⟨tv, rfl⟩ : ∃ tv, w = some tv := by
    cases w with
    | none => exact absurd (hnone.1 rfl) (by norm_num)
    | some tv => exact ⟨tv, rfl⟩
  obtain ⟨-, -, -, -, hn, -⟩ := hw tv rfl
  refine ⟨⟨hs, hmax, ht⟩, _, k, hsel, tv, rfl, ?_⟩
  rw [hn]
  decide

end SocketService

end PlatformLayer
