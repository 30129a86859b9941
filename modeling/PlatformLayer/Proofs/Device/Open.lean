import Mathlib
import PlatformLayer.Proofs.Device.Fifo
import PlatformLayer.Proofs.Device.Registry
/-!
# Opening a device under the longest registered prefix

A path is served by the registered driver whose key is its longest prefix as a string, so
`/dev/echo` serves `/dev/echo1`, and an open does not fall back to a shorter key when that driver
is disabled. The prefix test compares the texts' bytes, and prefixes of one path are ordered the
same by their characters as by their bytes. Whatever the store, every reachable service keeps its keys as the cleaned paths of
their drivers, each once (`Keyed`), so the longest prefix names one driver.

Main statement (`open_serves_longest_prefix`): from a reachable service, an open succeeds exactly
when the cleaned name is in the store, the driver under its longest registered prefix is enabled,
a descriptor of `[0, 1024)` is free, and that driver's open callback accepts the least free
descriptor. The new descriptor's device is named by the cleaned name
and holds that driver; until the descriptor is closed, every read, write and control of it is that
driver's answer on its queue and a close of it succeeds, whatever other calls come between,
unregistering the driver included.
-/
namespace PlatformLayer.Emulation

variable {σ : Type} {fs : NodeStore σ}

/-- What every reachable service keeps of its registry, whatever its store: each key is the
cleaned path of its driver and is registered once. -/
structure Keyed (s : Emulation σ) : Prop where
  keys_nodup : (s.registry.map (·.1)).Nodup
  key_clean : ∀ e ∈ s.registry, e.1 = DevicePath.clean e.2.path

theorem Keyed.of_registry {s s' : Emulation σ} (h : s.Keyed) (hr : s'.registry = s.registry) :
    s'.Keyed :=
  ⟨hr ▸ h.keys_nodup, hr ▸ h.key_clean⟩

theorem Keyed.driver_unique {s : Emulation σ} (h : s.Keyed) {k : String} {d d' : Driver}
    (hd : (k, d) ∈ s.registry) (hd' : (k, d') ∈ s.registry) : d = d' :=
  (Prod.mk.inj (List.inj_on_of_nodup_map h.keys_nodup hd hd' rfl)).2

/-! ### Every call keeps the keys -/

theorem unregister_registry {d : Driver} {s s' : Emulation σ} {r : Except DeviceError Unit}
    (h : unregister fs d s = .ok (r, s')) :
    s'.registry = s.registry ∨ s'.registry = s.registry.filter (·.1 ≠ DevicePath.clean d.path) := by
  simp only [unregister] at h
  split at h
  · cases h
    exact .inl rfl
  · split at h
    · cases h
    · cases h
      exact .inr rfl

theorem register_keyed {s : Emulation σ} (h : s.Keyed) (d : Driver) : (register fs d s).2.Keyed := by
  by_cases hreg : (s.registered? (DevicePath.clean d.path)).isSome
  · rw [register_of_registered d hreg]
    exact h
  · -- the guard makes the new key fresh
    have hfresh := registered?_eq_none_iff.1 (by simpa using hreg)
    simp only [register, hreg, Bool.false_eq_true, ↓reduceIte]
    refine ⟨?_, fun e he => ?_⟩
    · simp only [makeNode, List.map_append, List.map_cons, List.map_nil]
      refine List.nodup_append.2 ⟨h.keys_nodup, List.nodup_singleton _, ?_⟩
      simp only [List.mem_map, List.mem_singleton]
      rintro _ ⟨e, he, rfl⟩ _ rfl
      exact hfresh e he
    · rcases List.mem_append.1 he with he | he
      · exact h.key_clean e he
      · rw [List.mem_singleton.1 he]

theorem call_keyed {c : Call} {r : Reply} {s s' : Emulation σ} (h : s.Keyed)
    (hc : call fs c s = .ok (r, s')) : s'.Keyed := by
  cases c with
  | register d =>
    simp only [call, Except.ok.injEq, Prod.mk.injEq] at hc
    obtain ⟨-, rfl⟩ := hc
    exact register_keyed h d
  | unregister d =>
    simp only [call] at hc
    rcases hu : unregister fs d s with halt | ⟨r', s''⟩
    · rw [hu] at hc
      cases hc
    · rw [hu] at hc
      simp only [Except.map, Except.ok.injEq, Prod.mk.injEq] at hc
      obtain ⟨-, rfl⟩ := hc
      rcases unregister_registry hu with hr | hr
      · exact h.of_registry hr
      · refine ⟨?_, fun e he => ?_⟩
        · rw [hr]
          exact h.keys_nodup.sublist (List.filter_sublist.map _)
        · rw [hr] at he
          exact h.key_clean e (List.mem_filter.1 he).1
  | makeNode p =>
    simp only [call, Except.ok.injEq, Prod.mk.injEq] at hc
    obtain ⟨-, rfl⟩ := hc
    refine h.of_registry ?_
    simp only [makeServedNode]
    split <;> rfl
  | openPath _ | close _ | write _ _ | read _ _ | control _ _ | select _ _ _ =>
    exact h.of_registry (call_keeps_store (by simp [Call.onDescriptors]) hc).2

theorem Trace.keyed {s s' : Emulation σ} {t : List (Call × Reply)} (h : s.Keyed)
    (ht : Trace fs s t s') : s'.Keyed := by
  induction ht with
  | nil => exact h
  | cons hc _ ih => exact ih (call_keyed h hc)

theorem withDrivers_keyed (t₀ : σ) (ds : List Driver) : (withDrivers fs t₀ ds).Keyed := by
  -- registering keeps the keys, whatever the state the fold has reached
  suffices h : ∀ s : Emulation σ, s.Keyed →
      (ds.foldl (fun s d => if d.enabled then (register fs d s).2 else s) s).Keyed from
    h (empty t₀) ⟨List.nodup_nil, by simp [empty]⟩
  induction ds with
  | nil => exact fun s h => h
  | cons d ds ih =>
    intro s h
    rw [List.foldl_cons]
    apply ih
    split
    · exact register_keyed h d
    · exact h

/-! ### The serving driver and the open -/

/-- On a keyed registry a path is served by exactly the driver registered under its longest
prefix. -/
theorem servedBy?_eq_some_iff {s : Emulation σ} (h : s.Keyed) {n : String} {d : Driver} :
    s.servedBy? n = some d ↔ ∃ k, s.LongestPrefix n k ∧ (k, d) ∈ s.registry := by
  constructor
  · intro hs
    obtain ⟨k, hk, hl⟩ := longestPrefix_of_servedBy? hs
    exact ⟨k, hl, hk⟩
  · rintro ⟨k, hl, hk⟩
    rcases hs : s.servedBy? n with _ | d'
    · exact absurd hs (servedBy?_ne_none hk hl.2.1)
    · -- the served driver sits under a longest prefix too, which is the same key
      obtain ⟨k', hk', hl'⟩ := longestPrefix_of_servedBy? hs
      obtain rfl : k' = k := longestPrefix_unique hl' hl
      rw [h.driver_unique hk' hk]

theorem freeSlot?_isSome {s : Emulation σ} {fd : Int} (h0 : 0 ≤ fd) (h1 : fd < 1024)
    (hfd : ¬ s.IsOpen fd) : ∃ i, s.freeSlot? = some i := by
  rcases hfs : s.freeSlot? with _ | i
  · exact absurd (isOpen_of_freeSlot?_none hfs h0 h1) hfd
  · exact ⟨i, rfl⟩

/-- An open succeeds exactly when the cleaned name is in the store, the driver under its longest
registered prefix is enabled, a descriptor of `[0, 1024)` is free, and the driver accepts the
least free one. -/
theorem openDevice_isOk_iff {s : Emulation σ} (h : s.Keyed) (name : String) :
    (openDevice fs name s).1.isOk ↔
      fs.present s.tree (DevicePath.clean name) = true ∧
      (∃ k d, s.LongestPrefix (DevicePath.clean name) k ∧ (k, d) ∈ s.registry ∧ d.enabled = true) ∧
      (∃ fd, 0 ≤ fd ∧ fd < 1024 ∧ ¬ s.IsOpen fd) ∧
      ∀ k d fd, s.LongestPrefix (DevicePath.clean name) k → (k, d) ∈ s.registry →
        s.LeastFree fd → d.onOpen fd (DevicePath.clean name) = .ok () := by
  constructor
  · intro hok
    rcases openDevice_cases fs name s with ⟨e, he, -⟩ | ⟨i, d, hp, hd, hen, hf, ho, -⟩
    · rw [he] at hok
      simp [Except.isOk, Except.toBool] at hok
    · obtain ⟨k, hl, hk⟩ := (servedBy?_eq_some_iff h).1 hd
      have hleast := leastFree_of_freeSlot? hf
      refine ⟨hp, ⟨k, d, hl, hk, hen⟩, ⟨i, hleast.1, hleast.2.1, hleast.2.2.1⟩,
        fun k' d' fd hl' hk' hfd => ?_⟩
      -- the longest prefix names `d` again, and the least free descriptor is `i` again
      obtain rfl : d' = d :=
        Option.some_inj.1 (((servedBy?_eq_some_iff h).2 ⟨k', hl', hk'⟩).symm.trans hd)
      rw [hfd.unique hleast]
      exact ho
  · rintro ⟨hp, ⟨k, d, hl, hk, hen⟩, ⟨fd, h0, h1, hfd⟩, haccept⟩
    have hd : s.servedBy? (DevicePath.clean name) = some d := (servedBy?_eq_some_iff h).2 ⟨k, hl, hk⟩
    obtain ⟨i, hi⟩ := freeSlot?_isSome h0 h1 hfd
    rw [openDevice_of_free fs hp hd hen hi (haccept k d i hl hk (leastFree_of_freeSlot? hi))]
    rfl

/-- A successful open stores, under the new descriptor, a device named by the cleaned name that
holds the enabled driver of its longest registered prefix and no message. -/
theorem openDevice_ok_device {s s₁ : Emulation σ} (h : s.Keyed) {name : String} {fd : Int}
    (ho : openDevice fs name s = (.ok fd, s₁)) :
    ∃ k d, s.LongestPrefix (DevicePath.clean name) k ∧ (k, d) ∈ s.registry ∧ d.enabled = true ∧
      s₁.device? fd = some ⟨DevicePath.clean name, d, []⟩ := by
  rcases openDevice_cases fs name s with ⟨e, he, -⟩ | ⟨i, d, -, hd, hen, -, -, hok⟩
  · rw [he] at ho
    cases ho
  · rw [hok] at ho
    cases ho
    obtain ⟨k, hl, hk⟩ := (servedBy?_eq_some_iff h).1 hd
    exact ⟨k, d, hl, hk, hen, by simp [device?_setDevice]⟩

/-! ### An open descriptor keeps its driver -/

theorem device?_of_table {s s' : Emulation σ} (ht : s'.table = s.table) (fd : Int) :
    s'.device? fd = s.device? fd := by
  simp [device?, ht]

theorem onDevice_keeps_device {α : Type} (fd' : Int) (act : OpenDevice → Except DeviceError (α × MessageQueue))
    {s : Emulation σ} {fd : Int} {dev : OpenDevice} (hdev : s.device? fd = some dev) :
    ∃ q, (onDevice fd' act s).2.device? fd = some { dev with queue := q } := by
  rcases hd' : s.device? fd' with _ | dev'
  · rw [onDevice_of_device?_none act hd']
    exact ⟨dev.queue, hdev⟩
  rcases ha : act dev' with e | ⟨a, q⟩
  · rw [onDevice_of_act_error hd' ha]
    exact ⟨dev.queue, hdev⟩
  obtain ⟨i, rfl, hon⟩ := onDevice_of_ok hd' ha
  rw [hon, device?_setDevice]
  split
  · -- the same descriptor, which held `dev`
    next he =>
    subst he
    rw [hdev] at hd'
    cases hd'
    exact ⟨q, rfl⟩
  · exact ⟨dev.queue, hdev⟩

theorem call_keeps_device {c : Call} {r : Reply} {s s' : Emulation σ} {fd : Int} {dev : OpenDevice}
    (hdev : s.device? fd = some dev) (hc : c ≠ .close fd) (h : call fs c s = .ok (r, s')) :
    ∃ q, s'.device? fd = some { dev with queue := q } := by
  have hsame : s'.device? fd = s.device? fd → ∃ q, s'.device? fd = some { dev with queue := q } :=
    fun he => ⟨dev.queue, he.trans hdev⟩
  cases c with
  | openPath name =>
    simp only [call, Except.ok.injEq, Prod.mk.injEq] at h
    obtain ⟨-, rfl⟩ := h
    apply hsame
    rcases hres : openDevice fs name s with ⟨_ | fd', s₁⟩
    · rw [(openDevice_of_error fs hres).1]
    · -- the open took a descriptor that was not open, so not `fd`
      obtain ⟨hleast, -, hother, -⟩ := openDevice_ok_spec fs hres
      have hne : fd ≠ fd' := fun he => hleast.2.2.1 (by simp [IsOpen, ← he, hdev])
      exact hother fd hne
  | close fd' =>
    simp only [call, Except.ok.injEq, Prod.mk.injEq] at h
    obtain ⟨-, rfl⟩ := h
    apply hsame
    have hne : fd ≠ fd' := fun he => hc (by rw [he])
    by_cases ho : s.IsOpen fd'
    · rw [close_device? ho, if_neg hne]
    · rw [close_of_not_isOpen ho]
  | write fd' msg =>
    simp only [call, Except.ok.injEq, Prod.mk.injEq] at h
    obtain ⟨-, rfl⟩ := h
    exact onDevice_keeps_device fd' _ hdev
  | read fd' size =>
    simp only [call, Except.ok.injEq, Prod.mk.injEq] at h
    obtain ⟨-, rfl⟩ := h
    exact onDevice_keeps_device fd' _ hdev
  | control fd' cmd =>
    simp only [call, Except.ok.injEq, Prod.mk.injEq] at h
    obtain ⟨-, rfl⟩ := h
    exact onDevice_keeps_device fd' _ hdev
  | select maxFd watch ready =>
    simp only [call, Except.ok.injEq, Prod.mk.injEq] at h
    obtain ⟨-, rfl⟩ := h
    exact hsame rfl
  | register d =>
    simp only [call, Except.ok.injEq, Prod.mk.injEq] at h
    obtain ⟨-, rfl⟩ := h
    exact hsame (device?_of_table (register_table fs d s) fd)
  | unregister d =>
    simp only [call] at h
    rcases hu : unregister fs d s with halt | ⟨r', s''⟩
    · rw [hu] at h
      cases h
    · rw [hu] at h
      simp only [Except.map, Except.ok.injEq, Prod.mk.injEq] at h
      obtain ⟨-, rfl⟩ := h
      exact hsame (device?_of_table (unregister_table fs hu) fd)
  | makeNode p =>
    simp only [call, Except.ok.injEq, Prod.mk.injEq] at h
    obtain ⟨-, rfl⟩ := h
    exact hsame (device?_of_table (makeServedNode_table fs p s) fd)

theorem Trace.keeps_device {s s' : Emulation σ} {t : List (Call × Reply)} (ht : Trace fs s t s')
    {fd : Int} {dev : OpenDevice} (hdev : s.device? fd = some dev) (hc : ∀ p ∈ t, p.1 ≠ .close fd) :
    ∃ q, s'.device? fd = some { dev with queue := q } := by
  induction ht generalizing dev with
  | nil => exact ⟨dev.queue, hdev⟩
  | cons hcall _ ih =>
    obtain ⟨q, hq⟩ := call_keeps_device hdev (hc _ List.mem_cons_self) hcall
    obtain ⟨q', hq'⟩ := ih hq fun p hp => hc p (List.mem_cons_of_mem _ hp)
    exact ⟨q', hq'⟩

/-- Every driver operation on an open descriptor is its device's driver's answer on its queue,
and a close of it succeeds. -/
theorem answers_of_device? {s : Emulation σ} {fd : Int} {dev : OpenDevice}
    (hdev : s.device? fd = some dev) :
    (∀ size, (read fd size s).1 = .ok (dev.driver.read dev.queue size).1) ∧
    (∀ msg, (write fd msg s).1 = .ok (dev.driver.write dev.queue msg).1) ∧
    (∀ cmd, (control fd cmd s).1 =
      ((dev.driver.control dev.queue cmd).map (·.1)).mapError .unknownCommand) ∧
    (close fd s).1 = .ok () := by
  refine ⟨fun size => (read_of_device? size hdev).1, fun msg => (write_of_device? msg hdev).1,
    fun cmd => ?_, (close_ok_iff s fd).2 (by simp [IsOpen, hdev])⟩
  rcases hc : dev.driver.control dev.queue cmd with e | ⟨n, q⟩
  · rw [control_of_error hdev hc]
    rfl
  · rw [(control_of_ok hdev hc).1]
    rfl

/-- From a service reached by any calls from its start with any drivers over any store, an open
of a name succeeds exactly when the cleaned name is in the store, the driver registered under the
longest prefix of it is enabled (a shorter enabled prefix does not stand in), a descriptor of
`[0, 1024)` is free, and that driver's open callback accepts the least free one. The new
descriptor's device is named by the cleaned name and holds that driver, and after any later calls
that do not close it, unregistering included, every read, write and control of it is that
driver's answer on its queue, and a close of it succeeds. -/
theorem open_serves_longest_prefix {t₀ : σ} {ds : List Driver} {t : List (Call × Reply)}
    {s : Emulation σ} (h : Trace fs (withDrivers fs t₀ ds) t s) (name : String) :
    ((openDevice fs name s).1.isOk ↔
      fs.present s.tree (DevicePath.clean name) = true ∧
      (∃ k d, s.LongestPrefix (DevicePath.clean name) k ∧ (k, d) ∈ s.registry ∧ d.enabled = true) ∧
      (∃ fd, 0 ≤ fd ∧ fd < 1024 ∧ ¬ s.IsOpen fd) ∧
      ∀ k d fd, s.LongestPrefix (DevicePath.clean name) k → (k, d) ∈ s.registry →
        s.LeastFree fd → d.onOpen fd (DevicePath.clean name) = .ok ()) ∧
    ∀ fd s₁, openDevice fs name s = (.ok fd, s₁) →
      ∃ k d, s.LongestPrefix (DevicePath.clean name) k ∧ (k, d) ∈ s.registry ∧
        s₁.device? fd = some ⟨DevicePath.clean name, d, []⟩ ∧
        ∀ t' s₂, Trace fs s₁ t' s₂ → (∀ p ∈ t', p.1 ≠ .close fd) →
          ∃ q, s₂.device? fd = some ⟨DevicePath.clean name, d, q⟩ ∧
            (∀ size, (read fd size s₂).1 = .ok (d.read q size).1) ∧
            (∀ msg, (write fd msg s₂).1 = .ok (d.write q msg).1) ∧
            (∀ cmd, (control fd cmd s₂).1 = ((d.control q cmd).map (·.1)).mapError .unknownCommand) ∧
            (close fd s₂).1 = .ok () := by
  have hk := Trace.keyed (withDrivers_keyed t₀ ds) h
  refine ⟨openDevice_isOk_iff hk name, fun fd s₁ ho => ?_⟩
  obtain ⟨k, d, hl, hmem, -, hdev⟩ := openDevice_ok_device hk ho
  refine ⟨k, d, hl, hmem, hdev, fun t' s₂ ht' hc => ?_⟩
  obtain ⟨q, hq⟩ := Trace.keeps_device ht' hdev hc
  exact ⟨q, hq, answers_of_device? hq⟩

/-- The service with the default drivers over an empty flat store is reached by no calls, and an
open of `/dev//echo1` there follows the longest registered prefix of `/dev/echo1`. -/
theorem flatStart_open_serves_longest_prefix :
    Trace NodeStore.flat (withDrivers NodeStore.flat [] Driver.defaults) [] flatStart ∧
    ((openDevice NodeStore.flat "/dev//echo1" flatStart).1.isOk ↔
      NodeStore.flat.present flatStart.tree (DevicePath.clean "/dev//echo1") = true ∧
      (∃ k d, flatStart.LongestPrefix (DevicePath.clean "/dev//echo1") k ∧
        (k, d) ∈ flatStart.registry ∧ d.enabled = true) ∧
      (∃ fd, 0 ≤ fd ∧ fd < 1024 ∧ ¬ flatStart.IsOpen fd) ∧
      ∀ k d fd, flatStart.LongestPrefix (DevicePath.clean "/dev//echo1") k →
        (k, d) ∈ flatStart.registry → flatStart.LeastFree fd →
        d.onOpen fd (DevicePath.clean "/dev//echo1") = .ok ()) ∧
    ∀ fd s₁, openDevice NodeStore.flat "/dev//echo1" flatStart = (.ok fd, s₁) →
      ∃ k d, flatStart.LongestPrefix (DevicePath.clean "/dev//echo1") k ∧ (k, d) ∈ flatStart.registry ∧
        s₁.device? fd = some ⟨DevicePath.clean "/dev//echo1", d, []⟩ ∧
        ∀ t' s₂, Trace NodeStore.flat s₁ t' s₂ → (∀ p ∈ t', p.1 ≠ .close fd) →
          ∃ q, s₂.device? fd = some ⟨DevicePath.clean "/dev//echo1", d, q⟩ ∧
            (∀ size, (read fd size s₂).1 = .ok (d.read q size).1) ∧
            (∀ msg, (write fd msg s₂).1 = .ok (d.write q msg).1) ∧
            (∀ cmd, (control fd cmd s₂).1 = ((d.control q cmd).map (·.1)).mapError .unknownCommand) ∧
            (close fd s₂).1 = .ok () :=
  ⟨.nil _, open_serves_longest_prefix (.nil _) "/dev//echo1"⟩

end PlatformLayer.Emulation
