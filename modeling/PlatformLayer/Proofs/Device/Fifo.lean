import PlatformLayer.Proofs.Device.Table
/-!
# The descriptor queues as one FIFO per descriptor

The queue model keeps, for each open descriptor, the kind of its driver and the list of
messages waiting on it. `Fifo.Step` says what one call may reply and do to the channels:
an open adds an empty channel under a descriptor that was not open, a close drops one, a write
to an echo channel appends the message to that channel alone, a read takes the oldest message,
the two echo commands count and drop the messages, and everything else leaves the channels as
they were. Main statement: every history of the service from its start is a run of the model
over the channels the table holds, and a null channel never holds a message.
-/
namespace PlatformLayer

/-- An open descriptor as the queue model sees it. -/
structure Channel where
  kind : DriverKind
  msgs : List Bytes
  deriving DecidableEq, Repr

/-- The channel of each open descriptor. -/
abbrev Fifo := Int → Option Channel

namespace Fifo

open Emulation

/-- No descriptor is open. -/
def closed : Fifo := fun _ => none

/-- The channels with the one of `fd` replaced. -/
def set (a : Fifo) (fd : Int) (c : Option Channel) : Fifo := fun g => if g = fd then c else a g

/-- No null channel holds a message. -/
def NullEmpty (a : Fifo) : Prop := ∀ fd msgs, a fd = some ⟨.null, msgs⟩ → msgs = []

/-- One call as the queue model allows it: the reply and the channels after. -/
inductive Step : Fifo → Call → Reply → Fifo → Prop
  | openOk {a : Fifo} {name : String} {fd : Int} {k : DriverKind} :
      a fd = none → Step a (.openPath name) (.opened (.ok fd)) (a.set fd (some ⟨k, []⟩))
  | openFailed {a : Fifo} {name : String} {e : DeviceError} :
      Step a (.openPath name) (.opened (.error e)) a
  | closeOk {a : Fifo} {fd : Int} {c : Channel} :
      a fd = some c → Step a (.close fd) (.closed (.ok ())) (a.set fd none)
  | closeFailed {a : Fifo} {fd : Int} {e : DeviceError} :
      a fd = none → Step a (.close fd) (.closed (.error e)) a
  | writeEcho {a : Fifo} {fd : Int} {q : List Bytes} {msg : Bytes} :
      a fd = some ⟨.echo, q⟩ →
        Step a (.write fd msg) (.wrote (.ok msg.length)) (a.set fd (some ⟨.echo, q ++ [msg]⟩))
  | writeNull {a : Fifo} {fd : Int} {q : List Bytes} {msg : Bytes} :
      a fd = some ⟨.null, q⟩ → Step a (.write fd msg) (.wrote (.ok msg.length)) a
  | writeFailed {a : Fifo} {fd : Int} {msg : Bytes} {e : DeviceError} :
      a fd = none → Step a (.write fd msg) (.wrote (.error e)) a
  | readEmpty {a : Fifo} {fd : Int} {size : Nat} {buf : Bytes} :
      a fd = some ⟨.echo, []⟩ → Step a (.read fd size) (.read (.ok (0, buf))) a
  | readMessage {a : Fifo} {fd : Int} {size : Nat} {m : Bytes} {q : List Bytes} {buf : Bytes} :
      a fd = some ⟨.echo, m :: q⟩ → buf.take (min size m.length) = m.take (min size m.length) →
        Step a (.read fd size) (.read (.ok (min size m.length, buf))) (a.set fd (some ⟨.echo, q⟩))
  | readNull {a : Fifo} {fd : Int} {size : Nat} {q : List Bytes} {buf : Bytes} :
      a fd = some ⟨.null, q⟩ → Step a (.read fd size) (.read (.ok (0, buf))) a
  | readFailed {a : Fifo} {fd : Int} {size : Nat} {e : DeviceError} :
      a fd = none → Step a (.read fd size) (.read (.error e)) a
  | pending {a : Fifo} {fd : Int} {q : List Bytes} :
      a fd = some ⟨.echo, q⟩ → Step a (.control fd pendingCommand) (.controlled (.ok q.length)) a
  | flush {a : Fifo} {fd : Int} {q : List Bytes} :
      a fd = some ⟨.echo, q⟩ →
        Step a (.control fd flushCommand) (.controlled (.ok 0)) (a.set fd (some ⟨.echo, []⟩))
  | controlFailed {a : Fifo} {fd : Int} {cmd : Nat} {e : DeviceError} :
      (∀ q, a fd = some ⟨.echo, q⟩ → cmd ≠ pendingCommand ∧ cmd ≠ flushCommand) →
        Step a (.control fd cmd) (.controlled (.error e)) a
  | select {a : Fifo} {maxFd : Int} {watch ready marked : DescriptorSet}
      {r : Except DeviceError Nat} :
      Step a (.select maxFd watch ready) (.selected r marked) a
  | changed {a : Fifo} {c : Call} {r : Except DeviceError Unit} :
      c.onDescriptors = false → Step a c (.changed r) a

/-- Calls made in order as the queue model allows them. -/
inductive Run : Fifo → List (Call × Reply) → Fifo → Prop
  | nil (a : Fifo) : Run a [] a
  | cons {a b a' : Fifo} {c : Call} {r : Reply} {t : List (Call × Reply)} :
      Step a c r b → Run b t a' → Run a ((c, r) :: t) a'

theorem set_apply (a : Fifo) (fd g : Int) (c : Option Channel) :
    a.set fd c g = if g = fd then c else a g := rfl

@[simp] theorem set_self (a : Fifo) (fd : Int) : a.set fd (a fd) = a := by
  funext g
  by_cases hg : g = fd <;> simp [set_apply, hg]

theorem nullEmpty_set {a : Fifo} {fd : Int} {c : Option Channel} (h : a.NullEmpty)
    (hc : ∀ msgs, c = some ⟨.null, msgs⟩ → msgs = []) : (a.set fd c).NullEmpty := by
  intro g msgs hg
  by_cases hgf : g = fd
  · exact hc msgs (by simpa [set_apply, hgf] using hg)
  · exact h g msgs (by simpa [set_apply, hgf] using hg)

theorem Step.nullEmpty {a b : Fifo} {c : Call} {r : Reply} (h : Step a c r b)
    (ha : a.NullEmpty) : b.NullEmpty := by
  cases h with
  | openOk => exact nullEmpty_set ha (by simp)
  | closeOk => exact nullEmpty_set ha (by simp)
  | writeEcho => exact nullEmpty_set ha (by simp)
  | readMessage => exact nullEmpty_set ha (by simp)
  | flush => exact nullEmpty_set ha (by simp)
  | openFailed | closeFailed | writeNull | writeFailed | readEmpty | readNull | readFailed
  | pending | controlFailed | select | changed => exact ha

theorem Run.nullEmpty {a a' : Fifo} {t : List (Call × Reply)} (h : Run a t a')
    (ha : a.NullEmpty) : a'.NullEmpty := by
  induction h with
  | nil => exact ha
  | cons hs _ ih => exact ih (hs.nullEmpty ha)

theorem closed_nullEmpty : closed.NullEmpty := by
  intro fd msgs h
  simp [closed] at h

end Fifo

namespace Emulation

variable {σ : Type} (fs : NodeStore σ)

/-- An open device as the queue model sees it. -/
def Channel.of (dev : OpenDevice) : Channel := ⟨dev.driver.kind, dev.queue⟩

/-- The channels the table holds. -/
def channels (s : Emulation σ) : Fifo := fun fd => (s.device? fd).map Channel.of

theorem channels_setDevice (s : Emulation σ) (i : Fin 1024) (d : Option OpenDevice) :
    (s.setDevice i d).channels = s.channels.set i (d.map Channel.of) := by
  funext g
  by_cases hg : g = i <;> simp [channels, Fifo.set_apply, device?_setDevice, hg]

theorem channels_of_table {s s' : Emulation σ} (h : s'.table = s.table) :
    s'.channels = s.channels := by
  funext g
  simp [channels, device?, h]

@[simp] theorem withDrivers_channels (t : σ) (ds : List Driver) :
    (withDrivers fs t ds).channels = Fifo.closed := by
  funext g
  rcases h : slotOf? g with _ | i
  · simp [channels, device?, h, Fifo.closed]
  · simp [channels, device?, h, Fifo.closed]

theorem channels_of_device? {s : Emulation σ} {fd : Int} {dev : OpenDevice}
    (h : s.device? fd = some dev) : s.channels fd = some (Channel.of dev) := by
  simp [channels, h]

theorem channels_of_device?_none {s : Emulation σ} {fd : Int} (h : s.device? fd = none) :
    s.channels fd = none := by
  simp [channels, h]

/-- A driver operation that works on the device of `fd` changes the channel of `fd` alone. -/
theorem onDevice_channels {α : Type} {s : Emulation σ} {fd : Int} {dev : OpenDevice}
    (act : OpenDevice → Except DeviceError (α × MessageQueue)) {a : α} {q : MessageQueue}
    (h : s.device? fd = some dev) (ha : act dev = .ok (a, q)) :
    onDevice fd act s = (.ok a, (onDevice fd act s).2) ∧
      (onDevice fd act s).2.channels = s.channels.set fd (some ⟨dev.driver.kind, q⟩) := by
  obtain ⟨i, rfl, hon⟩ := onDevice_of_ok h ha
  rw [hon]
  exact ⟨rfl, by simp [channels_setDevice, Channel.of]⟩

/-! ### Each call refines a step of the queue model -/

theorem openDevice_refines (name : String) (s : Emulation σ) :
    Fifo.Step s.channels (.openPath name) (.opened (openDevice fs name s).1)
      (openDevice fs name s).2.channels := by
  rcases openDevice_cases fs name s with ⟨e, he, -⟩ | ⟨i, d, -, -, -, hfree, -, hok⟩
  · rw [he]
    exact .openFailed
  · rw [hok, channels_setDevice]
    have hnone : s.device? i = none := by
      rw [device?_coe]
      exact (freeSlot?_eq_some.1 hfree).1
    exact .openOk (channels_of_device?_none hnone)

theorem close_refines (fd : Int) (s : Emulation σ) :
    Fifo.Step s.channels (.close fd) (.closed (close fd s).1) (close fd s).2.channels := by
  by_cases ho : s.IsOpen fd
  · obtain ⟨dev, hdev⟩ := Option.isSome_iff_exists.1 ho
    obtain ⟨i, rfl, hcl⟩ := close_of_isOpen ho
    rw [hcl, channels_setDevice]
    exact .closeOk (channels_of_device? hdev)
  · rw [close_of_not_isOpen ho]
    exact .closeFailed (by simpa [channels, IsOpen] using ho)

theorem write_of_device? {s : Emulation σ} {fd : Int} {dev : OpenDevice} (msg : Bytes)
    (h : s.device? fd = some dev) :
    (write fd msg s).1 = .ok (dev.driver.write dev.queue msg).1 ∧
      (write fd msg s).2.channels =
        s.channels.set fd (some ⟨dev.driver.kind, (dev.driver.write dev.queue msg).2⟩) := by
  obtain ⟨hw, hch⟩ := onDevice_channels (fun dev => .ok (dev.driver.write dev.queue msg)) h rfl
  exact ⟨congrArg Prod.fst hw, hch⟩

theorem write_refines (fd : Int) (msg : Bytes) (s : Emulation σ) :
    Fifo.Step s.channels (.write fd msg) (.wrote (write fd msg s).1)
      (write fd msg s).2.channels := by
  rcases hd : s.device? fd with _ | dev
  · rw [show write fd msg s = _ from onDevice_of_device?_none _ hd]
    exact .writeFailed (channels_of_device?_none hd)
  · have hc := channels_of_device? hd
    obtain ⟨hr, hch⟩ := write_of_device? msg hd
    rw [hr, hch]
    cases hk : dev.driver.kind with
    | echo =>
      rw [Driver.write_echo _ hk]
      exact .writeEcho (by simp [hc, Channel.of, hk])
    | null =>
      have hc' : s.channels fd = some ⟨.null, dev.queue⟩ := by simp [hc, Channel.of, hk]
      simp only [Driver.write, hk]
      rw [← hc', Fifo.set_self]
      exact .writeNull hc'

theorem read_of_device? {s : Emulation σ} {fd : Int} {dev : OpenDevice} (size : Nat)
    (h : s.device? fd = some dev) :
    (read fd size s).1 = .ok (dev.driver.read dev.queue size).1 ∧
      (read fd size s).2.channels =
        s.channels.set fd (some ⟨dev.driver.kind, (dev.driver.read dev.queue size).2⟩) := by
  obtain ⟨hw, hch⟩ := onDevice_channels (fun dev => .ok (dev.driver.read dev.queue size)) h rfl
  exact ⟨congrArg Prod.fst hw, hch⟩

/-- The bytes a read of a message hands back start with the part of the message it copies. -/
theorem take_read_buffer (m : Bytes) (size : Nat) :
    (m.take (min size m.length) ++ List.replicate (size - min size m.length) 0).take
      (min size m.length) = m.take (min size m.length) := by
  have hlen : (m.take (min size m.length)).length = min size m.length := by
    simp [List.length_take]
  rw [List.take_append_of_le_length (by omega), List.take_of_length_le (by omega)]

theorem read_refines (fd : Int) (size : Nat) (s : Emulation σ) :
    Fifo.Step s.channels (.read fd size) (.read (read fd size s).1)
      (read fd size s).2.channels := by
  rcases hd : s.device? fd with _ | dev
  · rw [show read fd size s = _ from onDevice_of_device?_none _ hd]
    exact .readFailed (channels_of_device?_none hd)
  · have hc := channels_of_device? hd
    obtain ⟨hr, hch⟩ := read_of_device? size hd
    rw [hr, hch]
    cases hk : dev.driver.kind with
    | echo =>
      cases hq : dev.queue with
      | nil =>
        have hc' : s.channels fd = some ⟨.echo, []⟩ := by simp [hc, Channel.of, hk, hq]
        simp only [Driver.read, hk]
        rw [← hc', Fifo.set_self]
        exact .readEmpty hc'
      | cons m q =>
        simp only [Driver.read, hk]
        exact .readMessage (by simp [hc, Channel.of, hk, hq]) (take_read_buffer m size)
    | null =>
      have hc' : s.channels fd = some ⟨.null, dev.queue⟩ := by simp [hc, Channel.of, hk]
      simp only [Driver.read, hk]
      rw [← hc', Fifo.set_self]
      exact .readNull hc'

theorem control_of_ok {s : Emulation σ} {fd : Int} {dev : OpenDevice} {cmd n : Nat}
    {q : MessageQueue} (h : s.device? fd = some dev)
    (hc : dev.driver.control dev.queue cmd = .ok (n, q)) :
    (control fd cmd s).1 = .ok n ∧
      (control fd cmd s).2.channels = s.channels.set fd (some ⟨dev.driver.kind, q⟩) := by
  have ha : (fun dev : OpenDevice => (dev.driver.control dev.queue cmd).mapError
      DeviceError.unknownCommand) dev = .ok (n, q) := by
    simp only [hc]
    rfl
  obtain ⟨hw, hch⟩ := onDevice_channels (fun dev => (dev.driver.control dev.queue cmd).mapError
    DeviceError.unknownCommand) h ha
  exact ⟨congrArg Prod.fst hw, hch⟩

theorem control_of_error {s : Emulation σ} {fd : Int} {dev : OpenDevice} {cmd : Nat}
    {e : UnknownCommand} (h : s.device? fd = some dev)
    (hc : dev.driver.control dev.queue cmd = .error e) :
    control fd cmd s = (.error (.unknownCommand e), s) := by
  have ha : (fun dev : OpenDevice => (dev.driver.control dev.queue cmd).mapError
      DeviceError.unknownCommand) dev = .error (.unknownCommand e) := by
    simp only [hc]
    rfl
  exact onDevice_of_act_error h ha

theorem control_refines (fd : Int) (cmd : Nat) (s : Emulation σ) :
    Fifo.Step s.channels (.control fd cmd) (.controlled (control fd cmd s).1)
      (control fd cmd s).2.channels := by
  rcases hd : s.device? fd with _ | dev
  · rw [show control fd cmd s = _ from onDevice_of_device?_none _ hd]
    exact .controlFailed (by simp [channels_of_device?_none hd])
  · have hc := channels_of_device? hd
    cases hk : dev.driver.kind with
    | echo =>
      have hq : s.channels fd = some ⟨.echo, dev.queue⟩ := by simp [hc, Channel.of, hk]
      by_cases h1 : cmd = pendingCommand
      · subst h1
        obtain ⟨hr, hch⟩ := control_of_ok hd (by simp [Driver.control, hk] :
          dev.driver.control dev.queue pendingCommand = .ok (dev.queue.length, dev.queue))
        rw [hr, hch, hk, ← hq, Fifo.set_self]
        exact .pending hq
      · by_cases h2 : cmd = flushCommand
        · subst h2
          obtain ⟨hr, hch⟩ := control_of_ok hd (by simp [Driver.control, hk, pendingCommand,
            flushCommand] : dev.driver.control dev.queue flushCommand = .ok (0, []))
          rw [hr, hch, hk]
          exact .flush hq
        · rw [control_of_error hd (by simp [Driver.control, hk, h1, h2] :
            dev.driver.control dev.queue cmd = .error ⟨dev.driver.name, cmd⟩)]
          exact .controlFailed fun _ _ => ⟨h1, h2⟩
    | null =>
      rw [control_of_error hd (by simp [Driver.control, hk] :
        dev.driver.control dev.queue cmd = .error ⟨dev.driver.name, cmd⟩)]
      exact .controlFailed fun q hq => by simp [hc, Channel.of, hk] at hq

/-- Every call refines a step of the queue model over the channels the table holds. -/
theorem call_refines {c : Call} {r : Reply} {s s' : Emulation σ}
    (h : call fs c s = .ok (r, s')) : Fifo.Step s.channels c r s'.channels := by
  cases c with
  | openPath name =>
    simp only [call, Except.ok.injEq, Prod.mk.injEq] at h
    obtain ⟨rfl, rfl⟩ := h
    exact openDevice_refines fs name s
  | close fd =>
    simp only [call, Except.ok.injEq, Prod.mk.injEq] at h
    obtain ⟨rfl, rfl⟩ := h
    exact close_refines fd s
  | write fd msg =>
    simp only [call, Except.ok.injEq, Prod.mk.injEq] at h
    obtain ⟨rfl, rfl⟩ := h
    exact write_refines fd msg s
  | read fd size =>
    simp only [call, Except.ok.injEq, Prod.mk.injEq] at h
    obtain ⟨rfl, rfl⟩ := h
    exact read_refines fd size s
  | control fd cmd =>
    simp only [call, Except.ok.injEq, Prod.mk.injEq] at h
    obtain ⟨rfl, rfl⟩ := h
    exact control_refines fd cmd s
  | select maxFd watch ready =>
    simp only [call, Except.ok.injEq, Prod.mk.injEq] at h
    obtain ⟨rfl, rfl⟩ := h
    exact .select
  | register d =>
    simp only [call, Except.ok.injEq, Prod.mk.injEq] at h
    obtain ⟨rfl, rfl⟩ := h
    rw [channels_of_table (register_table fs d s)]
    exact .changed rfl
  | unregister d =>
    rcases hu : unregister fs d s with halt | ⟨r', s''⟩
    · simp [call, hu, Except.map] at h
    · simp only [call, hu, Except.map, Except.ok.injEq, Prod.mk.injEq] at h
      obtain ⟨rfl, rfl⟩ := h
      rw [channels_of_table (unregister_table fs hu)]
      exact .changed rfl
  | makeNode path =>
    simp only [call, Except.ok.injEq, Prod.mk.injEq] at h
    obtain ⟨rfl, rfl⟩ := h
    rw [channels_of_table (makeServedNode_table fs path s)]
    exact .changed rfl

theorem trace_refines {s s' : Emulation σ} {t : List (Call × Reply)} (h : Trace fs s t s') :
    Fifo.Run s.channels t s'.channels := by
  induction h with
  | nil => exact .nil _
  | cons hc _ ih => exact .cons (call_refines fs hc) ih

/-- The queues of the service refine one FIFO per descriptor: every history of the service,
from its start over a store with its drivers registered, is a run of the queue model from no
open descriptor to the channels the table holds, and no null channel holds a message. -/
theorem queues_refine_fifo {t₀ : σ} {ds : List Driver} {t : List (Call × Reply)}
    {s : Emulation σ} (h : Trace fs (withDrivers fs t₀ ds) t s) :
    Fifo.Run Fifo.closed t s.channels ∧ s.channels.NullEmpty := by
  have hrun := trace_refines fs h
  rw [withDrivers_channels] at hrun
  exact ⟨hrun, hrun.nullEmpty Fifo.closed_nullEmpty⟩

/-- An echo session from the default drivers: open `/dev/echo`, write `hi`, read one byte. -/
theorem echo_session_refines_fifo :
    ∃ s, Trace FileTree.store (withDrivers FileTree.store FileTree.empty Driver.defaults)
        [(.openPath "/dev/echo", .opened (.ok 0)), (.write 0 [104, 105], .wrote (.ok 2)),
          (.read 0 1, .read (.ok (1, [104])))] s ∧
      Fifo.Run Fifo.closed
        [(.openPath "/dev/echo", .opened (.ok 0)), (.write 0 [104, 105], .wrote (.ok 2)),
          (.read 0 1, .read (.ok (1, [104])))] s.channels ∧ s.channels.NullEmpty := by
  let s₀ := withDrivers FileTree.store FileTree.empty Driver.defaults
  let echo : Driver := .ofKind .echo "echo" "/dev/echo" true
  let dev : OpenDevice := ⟨"/dev/echo", echo, []⟩
  -- open takes slot 0, the write queues one message, the read takes one byte of it
  have hopen : openDevice FileTree.store "/dev/echo" s₀ =
      (.ok ((0 : Fin 1024) : Int), s₀.setDevice 0 (some ⟨DevicePath.clean "/dev/echo", echo, []⟩)) :=
    openDevice_of_free FileTree.store (by decide +kernel) (by with_unfolding_all rfl) rfl
      (freeSlot?_eq_some.2 ⟨by simp [s₀], by simp⟩) rfl
  have hclean : DevicePath.clean "/dev/echo" = "/dev/echo" := by decide
  rw [hclean] at hopen
  let s₁ := s₀.setDevice 0 (some dev)
  let dev₂ : OpenDevice := { dev with queue := [[104, 105]] }
  let s₂ := s₁.setDevice 0 (some dev₂)
  let s₃ := s₂.setDevice 0 (some { dev₂ with queue := [] })
  have hwrite : write ((0 : Fin 1024) : Int) [104, 105] s₁ = (.ok 2, s₂) :=
    onDevice_coe_of_ok (by simp [s₁, setDevice_get]) rfl
  have hread : read ((0 : Fin 1024) : Int) 1 s₂ = (.ok (1, [104]), s₃) :=
    onDevice_coe_of_ok (by simp [s₂, setDevice_get]) rfl
  have c₁ : call FileTree.store (.openPath "/dev/echo") s₀ = .ok (.opened (.ok 0), s₁) := by
    simp only [call, hopen]
    rfl
  have c₂ : call FileTree.store (.write 0 [104, 105]) s₁ = .ok (.wrote (.ok 2), s₂) := by
    simp only [call, show (0 : Int) = ((0 : Fin 1024) : Int) from rfl, hwrite]
  have c₃ : call FileTree.store (.read 0 1) s₂ = .ok (.read (.ok (1, [104])), s₃) := by
    simp only [call, show (0 : Int) = ((0 : Fin 1024) : Int) from rfl, hread]
  have htrace : Trace FileTree.store s₀
      [(.openPath "/dev/echo", .opened (.ok 0)), (.write 0 [104, 105], .wrote (.ok 2)),
        (.read 0 1, .read (.ok (1, [104])))] s₃ :=
    .cons c₁ (.cons c₂ (.cons c₃ (.nil _)))
  exact ⟨s₃, htrace, queues_refine_fifo FileTree.store htrace⟩

end Emulation

end PlatformLayer
