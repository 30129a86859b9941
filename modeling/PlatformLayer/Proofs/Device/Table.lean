import PlatformLayer.Proofs.Device.Calls
/-!
# The descriptor table of the memory device service

A descriptor is the index of its slot, so the open descriptors lie in `[0, 1024)` and the
device stored under a descriptor is the one opened as it. An open reserves the lowest free slot
before its driver's open callback runs, and a refusal releases it (`setDevice_release`). Main
statement: an open takes the lowest free descriptor and adds exactly that one, the table is full
when an open says so, a close succeeds on exactly the open descriptors and frees exactly its
own, and a failing call on descriptors, a refused open included, changes nothing.
-/
namespace PlatformLayer.Emulation

variable {σ : Type} (fs : NodeStore σ)

/-- A descriptor with an open device. -/
def IsOpen (s : Emulation σ) (fd : Int) : Prop := (s.device? fd).isSome

/-- The least descriptor of `[0, 1024)` that is not open. -/
def LeastFree (s : Emulation σ) (fd : Int) : Prop :=
  0 ≤ fd ∧ fd < 1024 ∧ ¬ s.IsOpen fd ∧ ∀ g, 0 ≤ g → g < fd → s.IsOpen g

theorem LeastFree.unique {s : Emulation σ} {fd g : Int} (hf : s.LeastFree fd) (hg : s.LeastFree g) :
    fd = g := by
  obtain ⟨hf0, -, hfo, hfb⟩ := hf
  obtain ⟨hg0, -, hgo, hgb⟩ := hg
  rcases lt_trichotomy fd g with h | h | h
  · exact absurd (hgb fd hf0 h) hfo
  · exact h
  · exact absurd (hfb g hg0 h) hgo

theorem slotOf?_eq_some {fd : Int} {i : Fin 1024} : slotOf? fd = some i ↔ fd = i := by
  unfold slotOf?
  split
  · rename_i hfd
    constructor
    · rintro ⟨⟩
      exact (Int.toNat_of_nonneg hfd.1).symm
    · rintro rfl
      simp
  · simp only [reduceCtorEq, false_iff]
    omega

theorem slotOf?_eq_none {fd : Int} : slotOf? fd = none ↔ fd < 0 ∨ 1024 ≤ fd := by
  unfold slotOf?
  split <;> simp <;> omega

theorem device?_coe (s : Emulation σ) (i : Fin 1024) : s.device? i = s.table.get i := by
  simp [device?, slotOf?_eq_some.2 rfl]

theorem device?_of_out_of_range (s : Emulation σ) {fd : Int} (h : fd < 0 ∨ 1024 ≤ fd) :
    s.device? fd = none := by
  simp [device?, slotOf?_eq_none.2 h]

theorem setDevice_get (s : Emulation σ) (i j : Fin 1024) (d : Option OpenDevice) :
    (s.setDevice i d).table.get j = if i = j then d else s.table.get j := by
  show (s.table.set i d)[j] = if i = j then d else s.table[j]
  simp [Vector.getElem_set, Fin.val_inj]

/-- Reserving a free slot and releasing it again gives the service back. -/
theorem setDevice_release {s : Emulation σ} {i : Fin 1024} (h : s.table.get i = none)
    (d : Option OpenDevice) : (s.setDevice i d).setDevice i none = s := by
  obtain ⟨tree, registry, table⟩ := s
  have hi : table[(i : Nat)] = none := h
  simp only [setDevice, Vector.set_set, Emulation.mk.injEq, true_and]
  rw [← hi, Vector.set_getElem_self]

theorem device?_setDevice (s : Emulation σ) (i : Fin 1024) (d : Option OpenDevice) (fd : Int) :
    (s.setDevice i d).device? fd = if fd = i then d else s.device? fd := by
  rcases h : slotOf? fd with _ | j
  · have hne : fd ≠ i := by
      have := slotOf?_eq_none.1 h
      omega
    simp [device?, h, hne]
  · obtain rfl := slotOf?_eq_some.1 h
    have hji : ((j : Nat) : Int) = (i : Nat) ↔ i = j := by omega
    simp only [device?_coe, setDevice_get, hji]

theorem isOpen_range {s : Emulation σ} {fd : Int} (h : s.IsOpen fd) : 0 ≤ fd ∧ fd < 1024 := by
  by_cases hr : 0 ≤ fd ∧ fd < 1024
  · exact hr
  · have hnone : s.device? fd = none := s.device?_of_out_of_range (by omega)
    simp [IsOpen, hnone] at h

theorem isOpen_coe {s : Emulation σ} {i : Fin 1024} : s.IsOpen i ↔ (s.table.get i).isSome := by
  simp [IsOpen, device?_coe]

theorem exists_slot_of_device? {s : Emulation σ} {fd : Int} {dev : OpenDevice}
    (h : s.device? fd = some dev) : ∃ i : Fin 1024, fd = i ∧ s.table.get i = some dev := by
  rcases hs : slotOf? fd with _ | i
  · simp [device?, hs] at h
  · refine ⟨i, slotOf?_eq_some.1 hs, ?_⟩
    simpa [device?, hs] using h

theorem freeSlot?_eq_some {s : Emulation σ} {i : Fin 1024} :
    s.freeSlot? = some i ↔ s.table.get i = none ∧ ∀ j < i, (s.table.get j).isSome := by
  unfold freeSlot?
  rw [List.find?_eq_some_iff_getElem]
  simp only [Option.isNone_iff_eq_none, List.length_finRange, List.getElem_finRange, Fin.cast_mk]
  constructor
  · rintro ⟨hi, k, hk, rfl, hlt⟩
    exact ⟨hi, fun j hj => by simpa using hlt j hj⟩
  · rintro ⟨hi, hlt⟩
    exact ⟨hi, i, i.isLt, rfl, fun j hj => by simpa using hlt ⟨j, by omega⟩ hj⟩

theorem freeSlot?_eq_none {s : Emulation σ} :
    s.freeSlot? = none ↔ ∀ i : Fin 1024, (s.table.get i).isSome := by
  unfold freeSlot?
  simp [List.find?_eq_none, Option.isSome_iff_ne_none]

/-- With no free slot, every descriptor of `[0, 1024)` is open. -/
theorem isOpen_of_freeSlot?_none {s : Emulation σ} (h : s.freeSlot? = none) {fd : Int}
    (h0 : 0 ≤ fd) (h1 : fd < 1024) : s.IsOpen fd := by
  have hj : fd = ((⟨fd.toNat, by omega⟩ : Fin 1024) : Nat) := by simp; omega
  rw [hj, isOpen_coe]
  exact freeSlot?_eq_none.1 h _

theorem leastFree_of_freeSlot? {s : Emulation σ} {i : Fin 1024} (h : s.freeSlot? = some i) :
    s.LeastFree i := by
  obtain ⟨hfree, hbelow⟩ := freeSlot?_eq_some.1 h
  refine ⟨by omega, by omega, by simp [isOpen_coe, hfree], fun g hg hgi => ?_⟩
  have hj : g = ((⟨g.toNat, by omega⟩ : Fin 1024) : Nat) := by simp; omega
  rw [hj, isOpen_coe]
  exact hbelow _ (Fin.lt_def.2 (show g.toNat < i.val by omega))

/-! ### What each call does to the table -/

theorem openDevice_of_free {name : String} {s : Emulation σ} {d : Driver} {i : Fin 1024}
    (hp : fs.present s.tree (DevicePath.clean name)) (hd : s.servedBy? (DevicePath.clean name) = some d)
    (he : d.enabled) (hf : s.freeSlot? = some i) (ho : d.onOpen i (DevicePath.clean name) = .ok ()) :
    openDevice fs name s = (.ok i, s.setDevice i (some ⟨DevicePath.clean name, d, []⟩)) := by
  simp [openDevice, hp, hd, he, hf, ho]

/-- An open whose driver refuses it answers with the driver's error and leaves the service as it
was: the slot it reserved is released. -/
theorem openDevice_of_refused {name : String} {s : Emulation σ} {d : Driver} {i : Fin 1024}
    {e : String} (hp : fs.present s.tree (DevicePath.clean name))
    (hd : s.servedBy? (DevicePath.clean name) = some d) (he : d.enabled) (hf : s.freeSlot? = some i)
    (ho : d.onOpen i (DevicePath.clean name) = .error e) :
    openDevice fs name s = (.error (.refused e), s) := by
  have hrel := setDevice_release (freeSlot?_eq_some.1 hf).1 (some ⟨DevicePath.clean name, d, []⟩)
  simp [openDevice, hp, hd, he, hf, ho, hrel]

/-- An open either fails and changes nothing, or finds the path, its enabled driver and the
lowest free slot, is accepted by the driver, and puts a device with an empty queue there. -/
theorem openDevice_cases (name : String) (s : Emulation σ) :
    (∃ e, openDevice fs name s = (.error e, s) ∧ (e = .tableFull → s.freeSlot? = none)) ∨
    ∃ (i : Fin 1024) (d : Driver), fs.present s.tree (DevicePath.clean name) ∧
      s.servedBy? (DevicePath.clean name) = some d ∧ d.enabled ∧ s.freeSlot? = some i ∧
      d.onOpen i (DevicePath.clean name) = .ok () ∧
      openDevice fs name s =
        (.ok i, s.setDevice i (some ⟨DevicePath.clean name, d, []⟩)) := by
  by_cases hp : fs.present s.tree (DevicePath.clean name)
  · rcases hd : s.servedBy? (DevicePath.clean name) with _ | d
    · exact .inl ⟨.noDriver (DevicePath.clean name), by simp [openDevice, hp, hd], by simp⟩
    · by_cases he : d.enabled
      · rcases hf : s.freeSlot? with _ | i
        · exact .inl ⟨.tableFull, by simp [openDevice, hp, hd, he, hf], fun _ => rfl⟩
        · rcases ho : d.onOpen i (DevicePath.clean name) with e | ⟨⟩
          · exact .inl ⟨.refused e, openDevice_of_refused fs hp hd he hf ho, by simp⟩
          · exact .inr ⟨i, d, hp, rfl, he, rfl, ho, openDevice_of_free fs hp hd he hf ho⟩
      · exact .inl ⟨.noDriver (DevicePath.clean name), by simp [openDevice, hp, hd, he], by simp⟩
  · exact .inl ⟨.noDevice (DevicePath.clean name), by simp [openDevice, hp], by simp⟩

theorem openDevice_of_error {name : String} {s s' : Emulation σ} {e : DeviceError}
    (h : openDevice fs name s = (.error e, s')) : s' = s ∧ (e = .tableFull → s.freeSlot? = none) := by
  rcases openDevice_cases fs name s with ⟨e', he, hfull⟩ | ⟨i, d, -, -, -, -, -, hok⟩
  · rw [he] at h
    cases h
    exact ⟨rfl, hfull⟩
  · rw [hok] at h
    cases h

theorem close_of_isOpen {s : Emulation σ} {fd : Int} (h : s.IsOpen fd) :
    ∃ i : Fin 1024, fd = i ∧ close fd s = (.ok (), s.setDevice i none) := by
  obtain ⟨dev, hdev⟩ := Option.isSome_iff_exists.1 h
  obtain ⟨i, rfl, hi⟩ := exists_slot_of_device? hdev
  exact ⟨i, rfl, by simp [close, slotOf?_eq_some.2 rfl, hi]⟩

theorem close_of_not_isOpen {s : Emulation σ} {fd : Int} (h : ¬ s.IsOpen fd) :
    close fd s = (.error (.badDescriptor fd), s) := by
  unfold close
  rcases hs : slotOf? fd with _ | i
  · rfl
  · have hnone : s.table.get i = none := by
      obtain rfl := slotOf?_eq_some.1 hs
      simpa [isOpen_coe] using h
    simp [hnone]

theorem onDevice_of_ok {α : Type} {s : Emulation σ} {fd : Int} {dev : OpenDevice} {a : α}
    {q : MessageQueue} {act : OpenDevice → Except DeviceError (α × MessageQueue)}
    (h : s.device? fd = some dev) (ha : act dev = .ok (a, q)) :
    ∃ i : Fin 1024, fd = i ∧
      onDevice fd act s = (.ok a, s.setDevice i (some { dev with queue := q })) := by
  obtain ⟨i, rfl, hi⟩ := exists_slot_of_device? h
  exact ⟨i, rfl, by simp [onDevice, slotOf?_eq_some.2 rfl, hi, ha]⟩

theorem onDevice_coe_of_ok {α : Type} {s : Emulation σ} {i : Fin 1024} {dev : OpenDevice} {a : α}
    {q : MessageQueue} {act : OpenDevice → Except DeviceError (α × MessageQueue)}
    (h : s.table.get i = some dev) (ha : act dev = .ok (a, q)) :
    onDevice i act s = (.ok a, s.setDevice i (some { dev with queue := q })) := by
  simp [onDevice, slotOf?_eq_some.2 rfl, h, ha]

theorem onDevice_of_act_error {α : Type} {s : Emulation σ} {fd : Int} {dev : OpenDevice}
    {e : DeviceError} {act : OpenDevice → Except DeviceError (α × MessageQueue)}
    (h : s.device? fd = some dev) (ha : act dev = .error e) :
    onDevice fd act s = (.error e, s) := by
  obtain ⟨i, rfl, hi⟩ := exists_slot_of_device? h
  simp [onDevice, slotOf?_eq_some.2 rfl, hi, ha]

theorem onDevice_of_device?_none {α : Type} {s : Emulation σ} {fd : Int}
    (act : OpenDevice → Except DeviceError (α × MessageQueue)) (h : s.device? fd = none) :
    onDevice fd act s = (.error (.badDescriptor fd), s) := by
  unfold onDevice
  rcases hs : slotOf? fd with _ | i
  · rfl
  · have hnone : s.table.get i = none := by simpa [device?, hs] using h
    simp [hnone]

theorem onDevice_of_error {α : Type} {s s' : Emulation σ} {fd : Int} {e : DeviceError}
    {act : OpenDevice → Except DeviceError (α × MessageQueue)}
    (h : onDevice fd act s = (.error e, s')) : s' = s := by
  rcases hd : s.device? fd with _ | dev
  · rw [onDevice_of_device?_none act hd] at h
    cases h
    rfl
  · rcases ha : act dev with e' | ⟨a, q⟩
    · rw [onDevice_of_act_error hd ha] at h
      cases h
      rfl
    · obtain ⟨i, -, hon⟩ := onDevice_of_ok hd ha
      rw [hon] at h
      cases h

theorem onDevice_of_not_isOk {α : Type} {s : Emulation σ} {fd : Int}
    {act : OpenDevice → Except DeviceError (α × MessageQueue)}
    (h : (onDevice fd act s).1.isOk = false) : (onDevice fd act s).2 = s := by
  rcases hres : (onDevice fd act s).1 with e | a
  · exact onDevice_of_error (Prod.ext hres rfl)
  · simp [hres, Except.isOk, Except.toBool] at h

/-! ### Calls on drivers and nodes keep the table -/

@[simp] theorem makeNode_table (s : Emulation σ) (path : String) :
    (s.makeNode fs path).table = s.table := rfl

@[simp] theorem register_table (d : Driver) (s : Emulation σ) :
    (register fs d s).2.table = s.table := by
  simp only [register]
  split <;> rfl

@[simp] theorem makeServedNode_table (path : String) (s : Emulation σ) :
    (makeServedNode fs path s).2.table = s.table := by
  simp only [makeServedNode]
  split <;> rfl

theorem unregister_table {d : Driver} {s s' : Emulation σ} {r : Except DeviceError Unit}
    (h : unregister fs d s = .ok (r, s')) : s'.table = s.table := by
  simp only [unregister] at h
  split at h
  · cases h
    rfl
  · split at h
    · cases h
    · cases h
      rfl

theorem withDrivers_table (t : σ) (ds : List Driver) :
    (withDrivers fs t ds).table = Vector.replicate 1024 none := by
  -- registering keeps the table, whatever the state the fold has reached
  suffices h : ∀ s : Emulation σ,
      (ds.foldl (fun s d => if d.enabled then (register fs d s).2 else s) s).table = s.table from
    h (empty t)
  induction ds with
  | nil => intro s; rfl
  | cons d ds ih =>
    intro s
    rw [List.foldl_cons, ih]
    split <;> simp

@[simp] theorem withDrivers_get (t : σ) (ds : List Driver) (i : Fin 1024) :
    (withDrivers fs t ds).table.get i = none := by
  rw [withDrivers_table]
  exact Vector.getElem_replicate i.isLt

/-! ### The table as the service keeps it -/

/-- A failing call on descriptors changes nothing at all. -/
theorem call_failed_unchanged {c : Call} {r : Reply} {s s' : Emulation σ}
    (hc : c.onDescriptors) (h : call fs c s = .ok (r, s')) (hr : r.failed) : s' = s := by
  cases c with
  | openPath name =>
    simp only [call, Except.ok.injEq, Prod.mk.injEq] at h
    obtain ⟨rfl, rfl⟩ := h
    rcases hres : (openDevice fs name s).1 with e | fd
    · exact (openDevice_of_error fs (Prod.ext hres rfl)).1
    · simp [hres, Reply.failed, Except.isOk, Except.toBool] at hr
  | close fd =>
    simp only [call, Except.ok.injEq, Prod.mk.injEq] at h
    obtain ⟨rfl, rfl⟩ := h
    by_cases ho : s.IsOpen fd
    · obtain ⟨i, -, hcl⟩ := close_of_isOpen ho
      simp [hcl, Reply.failed, Except.isOk, Except.toBool] at hr
    · simp [close_of_not_isOpen ho]
  | write fd msg | read fd msg | control fd msg =>
    simp only [call, Except.ok.injEq, Prod.mk.injEq] at h
    obtain ⟨rfl, rfl⟩ := h
    -- the three are driver operations on the descriptor's device
    simp only [Reply.failed, Bool.not_eq_true'] at hr
    exact onDevice_of_not_isOk hr
  | select maxFd watch ready =>
    simp only [call, Except.ok.injEq, Prod.mk.injEq] at h
    exact h.2.symm
  | register d | unregister d | makeNode path => simp [Call.onDescriptors] at hc

/-! ### Allocation and release -/

/-- A successful open returns the least free descriptor, adds exactly it, and stores under it
a device with an empty queue named by the cleaned path, whose driver accepted the open of that
descriptor. -/
theorem openDevice_ok_spec {name : String} {s s' : Emulation σ} {fd : Int}
    (h : openDevice fs name s = (.ok fd, s')) :
    s.LeastFree fd ∧ (∀ g, s'.IsOpen g ↔ g = fd ∨ s.IsOpen g) ∧
      (∀ g, g ≠ fd → s'.device? g = s.device? g) ∧
      ∃ d, s'.device? fd = some ⟨DevicePath.clean name, d, []⟩ ∧
        d.onOpen fd (DevicePath.clean name) = .ok () := by
  rcases openDevice_cases fs name s with ⟨e, he, -⟩ | ⟨i, d, -, -, -, hfree, ho, hok⟩
  · rw [he] at h
    cases h
  · rw [hok] at h
    cases h
    refine ⟨leastFree_of_freeSlot? hfree, fun g => ?_, fun g hg => ?_, d, ?_, ho⟩
    · by_cases hg : g = i <;> simp [IsOpen, device?_setDevice, hg]
    · simp [device?_setDevice, hg]
    · simp [device?_setDevice]

/-- The least free descriptor is the slot an open reserves. -/
theorem freeSlot?_of_leastFree {s : Emulation σ} {fd : Int} (h : s.LeastFree fd) :
    ∃ i : Fin 1024, fd = i ∧ s.freeSlot? = some i := by
  rcases hf : s.freeSlot? with _ | i
  · exact absurd (isOpen_of_freeSlot?_none hf h.1 h.2.1) h.2.2.1
  · exact ⟨i, h.unique (leastFree_of_freeSlot? hf), rfl⟩

/-- The open of a path whose enabled driver refuses the least free descriptor answers with the
driver's error and changes nothing. -/
theorem openDevice_of_refused_leastFree {name : String} {s : Emulation σ} {d : Driver} {fd : Int}
    {e : String} (hp : fs.present s.tree (DevicePath.clean name))
    (hd : s.servedBy? (DevicePath.clean name) = some d) (he : d.enabled) (hl : s.LeastFree fd)
    (ho : d.onOpen fd (DevicePath.clean name) = .error e) :
    openDevice fs name s = (.error (.refused e), s) := by
  obtain ⟨i, rfl, hf⟩ := freeSlot?_of_leastFree hl
  exact openDevice_of_refused fs hp hd he hf ho

/-- An open reports a full table only when every descriptor of `[0, 1024)` is open. -/
theorem isOpen_of_tableFull {name : String} {s s' : Emulation σ}
    (h : openDevice fs name s = (.error .tableFull, s')) (fd : Int) (h0 : 0 ≤ fd)
    (h1 : fd < 1024) : s.IsOpen fd :=
  isOpen_of_freeSlot?_none ((openDevice_of_error fs h).2 rfl) h0 h1

theorem close_ok_iff (s : Emulation σ) (fd : Int) : (close fd s).1 = .ok () ↔ s.IsOpen fd := by
  constructor
  · intro h
    by_cases ho : s.IsOpen fd
    · exact ho
    · simp [close_of_not_isOpen ho] at h
  · intro ho
    obtain ⟨i, -, hcl⟩ := close_of_isOpen ho
    simp [hcl]

theorem close_device? {s : Emulation σ} {fd : Int} (ho : s.IsOpen fd) (g : Int) :
    (close fd s).2.device? g = if g = fd then none else s.device? g := by
  obtain ⟨i, rfl, hcl⟩ := close_of_isOpen ho
  simp [hcl, device?_setDevice]

/-- The descriptor table keeps its descriptors in `[0, 1024)` and allocates the lowest free one:
an open returns the least descriptor that is not open, adds exactly it and stores its new
device under it, after its driver accepted that descriptor; an open finds the table full only
when all 1024 descriptors are open; when the driver refuses the least free descriptor, the open
answers with the driver's error and the reservation is undone; a close succeeds exactly on an
open descriptor and frees exactly it; and a failing open, close, read, write, control or select
leaves the service as it was. -/
theorem open_allocates_lowest_free (s : Emulation σ) :
    (∀ fd, s.IsOpen fd → 0 ≤ fd ∧ fd < 1024) ∧
    (∀ name fd s', openDevice fs name s = (.ok fd, s') →
      s.LeastFree fd ∧ (∀ g, s'.IsOpen g ↔ g = fd ∨ s.IsOpen g) ∧
      (∀ g, g ≠ fd → s'.device? g = s.device? g) ∧
      ∃ d, s'.device? fd = some ⟨DevicePath.clean name, d, []⟩ ∧
        d.onOpen fd (DevicePath.clean name) = .ok ()) ∧
    (∀ name s', openDevice fs name s = (.error .tableFull, s') →
      ∀ fd, 0 ≤ fd → fd < 1024 → s.IsOpen fd) ∧
    (∀ name d fd e, fs.present s.tree (DevicePath.clean name) →
      s.servedBy? (DevicePath.clean name) = some d → d.enabled → s.LeastFree fd →
      d.onOpen fd (DevicePath.clean name) = .error e →
      openDevice fs name s = (.error (.refused e), s)) ∧
    (∀ fd, (close fd s).1 = .ok () ↔ s.IsOpen fd) ∧
    (∀ fd, s.IsOpen fd → ∀ g, (close fd s).2.device? g = if g = fd then none else s.device? g) ∧
    (∀ c r s', c.onDescriptors → call fs c s = .ok (r, s') → r.failed → s' = s) :=
  ⟨fun _ => isOpen_range, fun _ _ _ => openDevice_ok_spec fs,
    fun _ _ h => isOpen_of_tableFull fs h,
    fun _ _ _ _ hp hd he hl ho => openDevice_of_refused_leastFree fs hp hd he hl ho,
    close_ok_iff s, fun _ => close_device?, fun _ _ _ => call_failed_unchanged fs⟩

/-- A driver at `/dev/busy` that refuses every open with `device busy`. -/
def busyDriver : Driver :=
  { Driver.ofKind .echo "busy" "/dev/busy" true with onOpen := fun _ _ => .error "device busy" }

/-- With only the busy driver registered, an open of its node reserves descriptor 0, which the
driver refuses: the open answers `device busy` and the service is as it was. -/
theorem busy_open_refused_unchanged :
    FileTree.store.present (withDrivers FileTree.store FileTree.empty [busyDriver]).tree
        (DevicePath.clean "/dev/busy") = true ∧
      (withDrivers FileTree.store FileTree.empty [busyDriver]).servedBy?
        (DevicePath.clean "/dev/busy") = some busyDriver ∧
      (withDrivers FileTree.store FileTree.empty [busyDriver]).LeastFree 0 ∧
      openDevice FileTree.store "/dev/busy" (withDrivers FileTree.store FileTree.empty [busyDriver]) =
        (.error (.refused "device busy"), withDrivers FileTree.store FileTree.empty [busyDriver]) := by
  have hp : FileTree.store.present (withDrivers FileTree.store FileTree.empty [busyDriver]).tree
      (DevicePath.clean "/dev/busy") = true := by decide +kernel
  have hd : (withDrivers FileTree.store FileTree.empty [busyDriver]).servedBy?
      (DevicePath.clean "/dev/busy") = some busyDriver := by with_unfolding_all rfl
  -- no descriptor is open at the start, so slot 0 is the lowest free one
  have hfree : (withDrivers FileTree.store FileTree.empty [busyDriver]).freeSlot? = some 0 :=
    freeSlot?_eq_some.2 ⟨by simp, fun j hj => absurd hj (Fin.not_lt_zero j)⟩
  have hl : (withDrivers FileTree.store FileTree.empty [busyDriver]).LeastFree 0 :=
    leastFree_of_freeSlot? hfree
  exact ⟨hp, hd, hl, (open_allocates_lowest_free FileTree.store _).2.2.2.1 "/dev/busy" busyDriver 0
    "device busy" hp hd rfl hl rfl⟩

end PlatformLayer.Emulation
