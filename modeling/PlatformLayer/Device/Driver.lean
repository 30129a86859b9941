import PlatformLayer.Text.Hex
/-!
# Device drivers

A driver serves the device nodes under its path; its open callback is shown the new descriptor
and the node's path and may refuse the open. The echo driver queues what is written and hands
back one message a read, the null driver swallows writes and reads nothing, and both accept
every open.
-/
namespace PlatformLayer

inductive DriverKind where
  | echo
  | null
  deriving DecidableEq, Repr

/-- A driver: its kind, its name, the path it serves, whether it may be opened, and its open
callback, which is given the new descriptor and the cleaned path of the node. -/
structure Driver where
  kind : DriverKind
  name : String
  path : String
  enabled : Bool
  onOpen : Int → String → Except String Unit

instance : Repr Driver where
  reprPrec d _ := "⟨" ++ repr d.kind ++ ", " ++ repr d.name ++ ", " ++ repr d.path ++ ", " ++
    repr d.enabled ++ ", _⟩"

structure UnknownCommand where
  driver : String
  cmd : Nat
  deriving DecidableEq, Repr

/-- `<driver>: unknown ioctl command 0x<hex>`. -/
def UnknownCommand.message (e : UnknownCommand) : String :=
  e.driver ++ ": unknown ioctl command " ++ Hex.withMark e.cmd

abbrev MessageQueue := List Bytes

def pendingCommand : Nat := 1

def flushCommand : Nat := 2

namespace Driver

/-- A driver of a kind whose open callback accepts every open. -/
def ofKind (kind : DriverKind) (name path : String) (enabled : Bool) : Driver :=
  ⟨kind, name, path, enabled, fun _ _ => .ok ()⟩

def defaults : List Driver :=
  [ofKind .echo "echo" "/dev/echo" true, ofKind .null "null" "/dev/null" true]

/-- Read into a buffer of `size` bytes: the count and the buffer after, and the queue after. -/
def read (d : Driver) (q : MessageQueue) (size : Nat) : (Nat × Bytes) × MessageQueue :=
  match d.kind, q with
  | .echo, msg :: rest =>
    let n := min size msg.length
    ((n, msg.take n ++ List.replicate (size - n) 0), rest)
  | _, _ => ((0, List.replicate size 0), q)

def write (d : Driver) (q : MessageQueue) (msg : Bytes) : Nat × MessageQueue :=
  match d.kind with
  | .echo => (msg.length, q ++ [msg])
  | .null => (msg.length, q)

def control (d : Driver) (q : MessageQueue) (cmd : Nat) : Except UnknownCommand (Nat × MessageQueue) :=
  match d.kind with
  | .echo =>
    if cmd = pendingCommand then .ok (q.length, q)
    else if cmd = flushCommand then .ok (0, [])
    else .error ⟨d.name, cmd⟩
  | .null => .error ⟨d.name, cmd⟩

theorem write_echo (d : Driver) (h : d.kind = .echo) (q : MessageQueue) (msg : Bytes) :
    d.write q msg = (msg.length, q ++ [msg]) := by
  simp [write, h]

theorem read_echo_empty (d : Driver) (size : Nat) :
    d.read [] size = ((0, List.replicate size 0), []) := by
  cases h : d.kind <;> simp [read, h]

end Driver

end PlatformLayer
