import Mathlib
import PlatformLayer.Proofs.DescriptorSet
import PlatformLayer.Proofs.Device.Table
import PlatformLayer.Session.Device
/-!
# Select over the memory device service

The memory device service walks the watched descriptors below the bound in ascending order and
marks each as ready or not, counting the ready ones; the first one that is not open stops the
walk with an error. Through the device service the set it marks starts as a copy of the watched
set, so the walk only decides the members below the bound: the members at or above it stay in
the output set, uncounted. Main statement: the select fails exactly when a watched descriptor
below the bound is not open; otherwise the output set holds the watched descriptors that are
ready or at least the bound, the count is the number of its members below the bound, and the
bench is unchanged.
-/
namespace PlatformLayer.Emulation

variable {σ : Type}

/-- Whether the device of a descriptor has a message waiting. -/
def hasPending (s : Emulation σ) (fd : Int) : Bool :=
  match s.device? fd with
  | some dev => !dev.queue.isEmpty
  | none => false

/-- A walk over open descriptors counts the ready ones and decides exactly the walked ones. -/
theorem collect_of_open (s : Emulation σ) {l : List Int} (hl : ∀ fd ∈ l, s.IsOpen fd)
    (ready : DescriptorSet) (n : Nat) :
    (collect s l ready n).1 = .ok (n + (l.filter s.hasPending).length) ∧
      ∀ g, (collect s l ready n).2.contains g = if g ∈ l then s.hasPending g else ready.contains g := by
  induction l generalizing ready n with
  | nil => simp [collect]
  | cons fd rest ih =>
    obtain ⟨dev, hdev⟩ := Option.isSome_iff_exists.1 (hl fd (by simp))
    have hr := isOpen_range (hl fd (by simp))
    have ih' := ih (fun g hg => hl g (by simp [hg]))
    by_cases he : dev.queue.isEmpty
    · have hp : s.hasPending fd = false := by simp [hasPending, hdev, he]
      obtain ⟨h1, h2⟩ := ih' (ready.erase fd) n
      simp only [collect, hdev, he, if_true]
      refine ⟨by simp [h1, hp], fun g => ?_⟩
      rw [h2, DescriptorSet.contains_erase]
      by_cases hgf : g = fd
      · subst hgf
        simp [hp]
      · simp [hgf]
    · have hp : s.hasPending fd = true := by simp [hasPending, hdev, he]
      obtain ⟨h1, h2⟩ := ih' (ready.insert fd) (n + 1)
      simp only [collect, hdev, he, Bool.false_eq_true, if_false]
      refine ⟨by simp [h1, hp]; omega, fun g => ?_⟩
      rw [h2, DescriptorSet.contains_insert _ hr.1 hr.2]
      by_cases hgf : g = fd
      · subst hgf
        simp [hp]
      · simp [hgf]

/-- A walk that meets a descriptor that is not open fails, naming one of the walk that is not open. -/
theorem collect_of_not_open (s : Emulation σ) {l : List Int} (h : ∃ fd ∈ l, ¬ s.IsOpen fd)
    (ready : DescriptorSet) (n : Nat) :
    ∃ fd ∈ l, ¬ s.IsOpen fd ∧ (collect s l ready n).1 = .error (.badDescriptor fd) := by
  induction l generalizing ready n with
  | nil => simp at h
  | cons fd rest ih =>
    rcases hdev : s.device? fd with _ | dev
    · refine ⟨fd, by simp, by simp [IsOpen, hdev], ?_⟩
      simp [collect, hdev]
    · obtain ⟨g, hg, hno⟩ := h
      have hgf : g ≠ fd := by
        rintro rfl
        exact hno (by simp [IsOpen, hdev])
      have hrest : ∃ g ∈ rest, ¬ s.IsOpen g := ⟨g, by simpa [hgf] using hg, hno⟩
      simp only [collect, hdev]
      split
      · obtain ⟨b, hb, hbo, he⟩ := ih hrest (ready.erase fd) n
        exact ⟨b, by simp [hb], hbo, he⟩
      · obtain ⟨b, hb, hbo, he⟩ := ih hrest (ready.insert fd) (n + 1)
        exact ⟨b, by simp [hb], hbo, he⟩

theorem select_of_open (s : Emulation σ) {maxFd : Int} {watch : DescriptorSet}
    (h : ∀ fd, watch.contains fd → fd < maxFd → s.IsOpen fd) (ready : DescriptorSet) :
    (s.select maxFd watch ready).1 = .ok ((watch.below maxFd).filter s.hasPending).length ∧
      ∀ g, (s.select maxFd watch ready).2.contains g =
        if watch.contains g ∧ g < maxFd then s.hasPending g else ready.contains g := by
  have hl : ∀ fd ∈ watch.below maxFd, s.IsOpen fd := fun fd hfd =>
    h fd (DescriptorSet.mem_below.1 hfd).1 (DescriptorSet.mem_below.1 hfd).2
  obtain ⟨h1, h2⟩ := collect_of_open s hl ready 0
  refine ⟨by simpa [select] using h1, fun g => ?_⟩
  simp only [select, h2, DescriptorSet.mem_below]

theorem select_of_not_open (s : Emulation σ) {maxFd fd : Int} {watch : DescriptorSet}
    (hw : watch.contains fd) (hlt : fd < maxFd) (hno : ¬ s.IsOpen fd) (ready : DescriptorSet) :
    ∃ fd, watch.contains fd ∧ fd < maxFd ∧ ¬ s.IsOpen fd ∧
      (s.select maxFd watch ready).1 = .error (.badDescriptor fd) := by
  obtain ⟨g, hg, hgo, he⟩ :=
    collect_of_not_open s ⟨fd, DescriptorSet.mem_below.2 ⟨hw, hlt⟩, hno⟩ ready 0
  exact ⟨g, (DescriptorSet.mem_below.1 hg).1, (DescriptorSet.mem_below.1 hg).2, hgo, he⟩

end PlatformLayer.Emulation

namespace PlatformLayer.Session

open Emulation

variable (f : Features) {maxFd : Int} (watch : DescriptorSet) (readOut : Option DescriptorSet)
  (t : Nat) (b : DeviceBench)

/-- With both groups on and the bound in range, the device service hands the watched set to the
memory device service as the set to mark and leaves the bench as it was. -/
theorem deviceSelect_run (hf : f.device = true) (hs : f.deviceSelect = true) (h0 : 0 ≤ maxFd)
    (h1 : maxFd ≤ 1024) :
    (DeviceService.select emulationBackend f nap maxFd (some watch) readOut t).run b =
      ((((b.emu.select maxFd watch watch).1.map fun k => (k : Int)).mapError
          fun e => Fault.failed "device-select" (some e),
        readOut.map fun _ => (b.emu.select maxFd watch watch).2), b) := by
  have hr : ¬ (maxFd < 0 ∨ maxFd > 1024) := by omega
  simp only [DeviceService.select, hf, hs, hr, emulationBackend, Bool.not_true, Bool.false_eq_true,
    or_self, if_false, StateT.run_bind, StateT.run_get, pure_bind]
  generalize b.emu.select maxFd watch watch = p
  obtain ⟨r, marked⟩ := p
  cases r <;> rfl

/-- Select through the device service: it fails exactly when a watched descriptor below the bound
is not open, and names such a descriptor. Otherwise the output set holds the watched descriptors that
have a message waiting or are not below the bound, and the count is the number of its members
below the bound. The bench is never changed. -/
theorem deviceSelect_marks_ready_and_keeps_unscanned (hf : f.device = true)
    (hs : f.deviceSelect = true) (h0 : 0 ≤ maxFd) (h1 : maxFd ≤ 1024) :
    ∃ (r : DeviceService.Result DeviceError Int) (M : DescriptorSet),
      (DeviceService.select emulationBackend f nap maxFd (some watch) readOut t).run b =
        ((r, readOut.map fun _ => M), b) ∧
      ((∀ fd, watch.contains fd → fd < maxFd → b.emu.IsOpen fd) →
        r = .ok (M.below maxFd).length ∧
        ∀ fd, M.contains fd ↔ watch.contains fd ∧ (fd < maxFd → b.emu.hasPending fd)) ∧
      ((∃ fd, watch.contains fd ∧ fd < maxFd ∧ ¬ b.emu.IsOpen fd) →
        ∃ fd, (watch.contains fd ∧ fd < maxFd ∧ ¬ b.emu.IsOpen fd) ∧
          r = .error (.failed "device-select" (some (.badDescriptor fd)))) := by
  refine ⟨_, _, deviceSelect_run f watch readOut t b hf hs h0 h1, ?_, ?_⟩
  · intro hopen
    obtain ⟨hn, hm⟩ := select_of_open b.emu hopen watch
    -- under the bound the marked set is the watched one filtered by readiness
    have hmarked : ∀ fd, fd < maxFd → (b.emu.select maxFd watch watch).2.contains fd =
        (watch.contains fd && b.emu.hasPending fd) := by
      intro fd hlt
      rw [hm fd]
      cases watch.contains fd <;> simp [hlt]
    refine ⟨?_, fun fd => ?_⟩
    · rw [hn, ← DescriptorSet.below_filter hmarked]
      rfl
    · rw [hm fd]
      by_cases hlt : fd < maxFd <;> cases watch.contains fd <;> simp [hlt]
  · rintro ⟨fd, hw, hlt, hno⟩
    obtain ⟨g, hg, hgl, hgo, he⟩ := select_of_not_open b.emu hw hlt hno watch
    exact ⟨g, ⟨hg, hgl, hgo⟩, by rw [he]; rfl⟩

theorem deviceSelect_keeps_watched_at_bound :
    Features.all.device = true ∧ Features.all.deviceSelect = true ∧ (0 : Int) ≤ 0 ∧ (0 : Int) ≤ 1024 ∧
    ∃ (r : DeviceService.Result DeviceError Int) (M : DescriptorSet),
      (DeviceService.select emulationBackend Features.all nap 0 (some (DescriptorSet.empty.insert 5))
          none 0).run ⟨Emulation.empty FileTree.empty, []⟩ =
        ((r, none), ⟨Emulation.empty FileTree.empty, []⟩) ∧
      ((∀ fd, (DescriptorSet.empty.insert 5).contains fd → fd < 0 →
          (Emulation.empty FileTree.empty).IsOpen fd) →
        r = .ok (M.below 0).length ∧
        ∀ fd, M.contains fd ↔ (DescriptorSet.empty.insert 5).contains fd ∧
          (fd < 0 → (Emulation.empty FileTree.empty).hasPending fd)) ∧
      ((∃ fd, (DescriptorSet.empty.insert 5).contains fd ∧ fd < 0 ∧
          ¬ (Emulation.empty FileTree.empty).IsOpen fd) →
        ∃ fd, ((DescriptorSet.empty.insert 5).contains fd ∧ fd < 0 ∧
            ¬ (Emulation.empty FileTree.empty).IsOpen fd) ∧
          r = .error (.failed "device-select" (some (.badDescriptor fd)))) :=
  ⟨rfl, rfl, by decide, by decide,
    deviceSelect_marks_ready_and_keeps_unscanned Features.all _ none 0 _ rfl rfl (by decide) (by decide)⟩

end PlatformLayer.Session
