import Mathlib
import PlatformLayer.Memory.Copy
/-!
# Guarded copies between user and kernel buffers

The copy service reaches its provider only past the guard `sizeOk`; short of it the result is
none and the destination is as it was, for every provider. Past it, a provider that moves a
whole source into a destination of the same length and reports that length (`Exact`) makes the
copy give the first `size` bytes of the source, which also start the destination after. The
plain provider and the process provider are exact, and the process provider's copy is the
kernel's read of the source buffer, or its write into the destination buffer, in the calling
process (`copyWithin_eq_readMemory`, `copyWithin_eq_writeMemory`).
-/
namespace PlatformLayer

variable {ε : Type}

namespace CopyProvider

/-- Given two buffers of one length, the provider moves the whole source and reports its length. -/
def Exact (p : CopyProvider ε) : Prop :=
  ∀ dir (dst src : Bytes), dst.length = src.length → p.move dir dst src = (src, .ok src.length)

theorem plain_move (dir : CopyDirection) (dst src : Bytes) :
    (plain : CopyProvider ε).move dir dst src =
      (overlay dst src, .ok (min dst.length src.length : Nat)) := by
  cases dir <;> rfl

theorem ownProcess_move (dir : CopyDirection) (dst src : Bytes) :
    (ownProcess : CopyProvider ε).move dir dst src =
      (overlay dst src, .ok (min dst.length src.length : Nat)) := by
  cases dir <;> simp [move, ownProcess, copyWithin_eq]

theorem plain_exact : (plain : CopyProvider ε).Exact := by
  intro dir dst src h
  simp [plain_move, overlay_of_length_eq h, h]

theorem ownProcess_exact : (ownProcess : CopyProvider ε).Exact := by
  intro dir dst src h
  simp [ownProcess_move, overlay_of_length_eq h, h]

end CopyProvider

/-! ## The process provider through the kernel -/

theorem transferOutcome_own_buffer {bs : Bytes} {size : Nat} (h0 : 0 < size)
    (h : size ≤ bs.length) : transferOutcome .own (.buffer bs) size = .complete size := by
  have hmin : min size bs.length = size := Nat.min_eq_left h
  simp [transferOutcome, RemoteArea.reachable, hmin, h0.ne']

theorem readMemory_own_buffer {bs : Bytes} {size : Nat} (h0 : 0 < size) (h : size ≤ bs.length) :
    readMemory .own (.buffer bs) size = (.complete size, bs.take size) := by
  simp [readMemory, h0.ne', transferOutcome_own_buffer h0 h, TransferOutcome.moved,
    RemoteArea.reachable]

theorem writeMemory_own_buffer {bs data : Bytes} (h0 : data ≠ []) (h : data.length ≤ bs.length) :
    writeMemory .own (.buffer bs) data = (.complete data.length, .buffer (overlay bs data)) := by
  have hpos : 0 < data.length := List.length_pos_iff.2 h0
  simp [writeMemory, h0, transferOutcome_own_buffer hpos h, TransferOutcome.moved,
    RemoteArea.store]

/-- A copy within the calling process is the kernel's read of the shorter length from the
source buffer into the front of the destination. -/
theorem copyWithin_eq_readMemory {dst src : Bytes} (hd : dst ≠ []) (hs : src ≠ []) :
    copyWithin dst src =
      ((readMemory .own (.buffer src) (min dst.length src.length)).2 ++
          dst.drop (min dst.length src.length),
        (readMemory .own (.buffer src) (min dst.length src.length)).1.moved) := by
  have hpos : 0 < min dst.length src.length :=
    Nat.lt_min.2 ⟨List.length_pos_iff.2 hd, List.length_pos_iff.2 hs⟩
  rw [copyWithin_eq, readMemory_own_buffer hpos (Nat.min_le_right _ _)]
  simp only [overlay, TransferOutcome.moved, Prod.mk.injEq, and_true]
  rcases Nat.le_total dst.length src.length with hle | hle
  · rw [Nat.min_eq_left hle, List.drop_of_length_le hle, List.drop_length]
  · rw [Nat.min_eq_right hle, List.take_of_length_le hle, List.take_length]

/-- A copy within the calling process is also the kernel's write of the shorter length of the
source into the destination buffer. -/
theorem copyWithin_eq_writeMemory {dst src : Bytes} (hd : dst ≠ []) (hs : src ≠ []) :
    copyWithin dst src =
      ((writeMemory .own (.buffer dst) (src.take (min dst.length src.length))).2.reachable,
        (writeMemory .own (.buffer dst) (src.take (min dst.length src.length))).1.moved) := by
  have hpos : 0 < min dst.length src.length :=
    Nat.lt_min.2 ⟨List.length_pos_iff.2 hd, List.length_pos_iff.2 hs⟩
  have hlen : (src.take (min dst.length src.length)).length = min dst.length src.length := by
    simp
  have hne : src.take (min dst.length src.length) ≠ [] := by
    rw [← List.length_pos_iff, hlen]
    exact hpos
  rw [copyWithin_eq, writeMemory_own_buffer hne (by rw [hlen]; exact Nat.min_le_left _ _)]
  simp only [RemoteArea.reachable, TransferOutcome.moved, hlen, Prod.mk.injEq, and_true]
  rcases Nat.le_total dst.length src.length with hle | hle
  · simp [overlay, Nat.min_eq_left hle, List.drop_of_length_le hle]
  · simp [overlay, Nat.min_eq_right hle, List.take_of_length_le hle]

namespace CopyService

/-! ## The copy service -/

theorem sizeOk_some_iff {d s : Bytes} {size : Int} :
    sizeOk (some d) (some s) size = true ↔ 0 < size ∧ size ≤ d.length ∧ size ≤ s.length := by
  simp [sizeOk]

theorem copy_of_sizeOk_false (p : CopyProvider ε) (dir : CopyDirection) {dst src : Option Bytes}
    {size : Int} (h : sizeOk dst src size = false) : copy p dir dst src size = (none, dst) := by
  match dst, src with
  | some d, some s =>
    have hg : ¬ (0 < size ∧ size ≤ d.length ∧ size ≤ s.length) := by
      rw [← sizeOk_some_iff, h]
      decide
    simp [copy, hg]
  | none, _ => rfl
  | some _, none => rfl

theorem copy_fst_of_sizeOk (p : CopyProvider ε) (dir : CopyDirection) {d s : Bytes} {size : Int}
    (h : sizeOk (some d) (some s) size = true) :
    (copy p dir (some d) (some s) size).1 = none ↔
      (p.move dir (d.take size.toNat) (s.take size.toNat)).2 ≠ .ok size := by
  have hg := sizeOk_some_iff.1 h
  simp only [copy, hg, and_self, if_true]
  rcases p.move dir (d.take size.toNat) (s.take size.toNat) with ⟨front, report⟩
  cases report <;> simp

theorem copy_of_exact {p : CopyProvider ε} (hp : p.Exact) (dir : CopyDirection) {d s : Bytes}
    {size : Int} (h : sizeOk (some d) (some s) size = true) :
    copy p dir (some d) (some s) size =
      (some (s.take size.toNat), some (s.take size.toNat ++ d.drop size.toNat)) := by
  have hg := sizeOk_some_iff.1 h
  -- both buffers are cut to `size` bytes, so the provider moves the whole cut source
  have hd : (d.take size.toNat).length = size.toNat := by simp; omega
  have hs : (s.take size.toNat).length = size.toNat := by simp; omega
  have hmove := hp dir _ _ (hd.trans hs.symm)
  have hn : ((s.take size.toNat).length : Int) = size := by rw [hs]; omega
  simp only [copy, hg, and_self, if_true, hmove, hn, decide_true]

/-- Without both buffers and `0 < size ≤ min (len dst) (len src)` there is no result and the
destination is as it was, whatever the provider. With them, the plain and the process provider
give the first `size` bytes of the source, now also the front of the destination, whose rest is
kept. Over any provider there is no result exactly when the guard fails or the provider reports
other than `size` bytes. -/
theorem copy_guarded_head (dir : CopyDirection) :
    (∀ (dst src : Option Bytes) (size : Int), sizeOk dst src size = false →
      ∀ p : CopyProvider ε, copy p dir dst src size = (none, dst)) ∧
    (∀ (d s : Bytes) (size : Int), sizeOk (some d) (some s) size = true →
      copy (CopyProvider.plain : CopyProvider ε) dir (some d) (some s) size =
          (some (s.take size.toNat), some (s.take size.toNat ++ d.drop size.toNat)) ∧
      copy (CopyProvider.ownProcess : CopyProvider ε) dir (some d) (some s) size =
          (some (s.take size.toNat), some (s.take size.toNat ++ d.drop size.toNat))) ∧
    (∀ (p : CopyProvider ε) (dst src : Option Bytes) (size : Int),
      (copy p dir dst src size).1 = none ↔
        sizeOk dst src size = false ∨ ∃ d s, dst = some d ∧ src = some s ∧
          (p.move dir (d.take size.toNat) (s.take size.toNat)).2 ≠ .ok size) := by
  refine ⟨fun dst src size h p => copy_of_sizeOk_false p dir h,
    fun d s size h => ⟨copy_of_exact CopyProvider.plain_exact dir h,
      copy_of_exact CopyProvider.ownProcess_exact dir h⟩, fun p dst src size => ?_⟩
  cases hg : sizeOk dst src size with
  | false => simp [copy_of_sizeOk_false p dir hg]
  | true =>
    obtain ⟨d, s, rfl, rfl⟩ : ∃ d s, dst = some d ∧ src = some s := by
      match dst, src, hg with
      | some d, some s, _ => exact ⟨d, s, rfl, rfl⟩
    simp [copy_fst_of_sizeOk p dir hg]

/-- Two of three source bytes copied into a four-byte destination, and a copy without a source. -/
theorem copy_two_of_three_bytes :
    (sizeOk (some [9]) none 1 = false ∧
      copy (CopyProvider.scripted (some 1) none) .toUser (some [9]) none 1 = (none, some [9])) ∧
    (sizeOk (some [0, 0, 0, 0]) (some [1, 2, 3]) 2 = true ∧
      copy (CopyProvider.plain : CopyProvider String) .fromUser (some [0, 0, 0, 0])
          (some [1, 2, 3]) 2 = (some [1, 2], some [1, 2, 0, 0]) ∧
      copy (CopyProvider.ownProcess : CopyProvider String) .fromUser (some [0, 0, 0, 0])
          (some [1, 2, 3]) 2 = (some [1, 2], some [1, 2, 0, 0])) := by
  refine ⟨⟨by decide, (copy_guarded_head .toUser).1 _ _ _ (by decide) _⟩, by decide, ?_⟩
  simpa using (@copy_guarded_head String .fromUser).2.1 [0, 0, 0, 0] [1, 2, 3] 2 (by decide)

end CopyService

end PlatformLayer
