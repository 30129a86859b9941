/-!
# The descriptor table of the host process

The kernel numbers the open files of a process with small integers, and every new file takes the
lowest number that is free, reusing the numbers of closed files. Descriptors 0 to 2 are the
standard streams, and the runtime of the process holds 3 and 4 itself: the event poll instance
it waits on and the event counter that wakes that wait. So the files a service opens start at
5, while 3 and 4 answer as the runtime's files do until they are closed.
-/
namespace PlatformLayer

inductive RuntimeFile where
  /-- The event poll instance the runtime waits on; nothing is ready in it. -/
  | eventPoll
  /-- The non-blocking event counter that wakes the runtime's wait; it stands at zero. -/
  | wakeEvent
  deriving DecidableEq, Repr

inductive Held (α : Type) where
  | runtime (f : RuntimeFile)
  | file (x : α)
  deriving Repr

structure HostTable (α : Type) where
  entries : List (Nat × Held α)
  deriving Repr

namespace HostTable

variable {α : Type}

/-- The table of a process that has opened nothing yet: only the runtime's files. -/
def initial : HostTable α := ⟨[(3, .runtime .eventPoll), (4, .runtime .wakeEvent)]⟩

def firstFree : Nat := 3

def isOpen (t : HostTable α) (fd : Nat) : Bool := t.entries.any (·.1 == fd)

/-- The lowest free descriptor from 3. Among the `n + 1` numbers from 3 one is free when `n`
descriptors are open. -/
def lowestFree (t : HostTable α) : Nat :=
  ((List.range (t.entries.length + 1)).map (· + firstFree)).find? (fun fd => !t.isOpen fd)
    |>.getD (t.entries.length + firstFree)

def held? (t : HostTable α) (fd : Int) : Option (Held α) :=
  if fd < 0 then none else (t.entries.find? (·.1 == fd.toNat)).map (·.2)

def get? (t : HostTable α) (fd : Int) : Option α :=
  match t.held? fd with
  | some (.file x) => some x
  | _ => none

def add (t : HostTable α) (x : α) : Nat × HostTable α :=
  let fd := t.lowestFree
  (fd, ⟨t.entries ++ [(fd, .file x)]⟩)

def set (t : HostTable α) (fd : Nat) (x : α) : HostTable α :=
  ⟨t.entries.map fun (k, y) =>
    match y with
    | .file _ => if k == fd then (k, .file x) else (k, y)
    | .runtime _ => (k, y)⟩

def remove (t : HostTable α) (fd : Int) : Option (HostTable α) :=
  if (t.held? fd).isSome then some ⟨t.entries.filter (·.1 ≠ fd.toNat)⟩ else none

def files (t : HostTable α) : List α :=
  t.entries.filterMap fun (_, y) =>
    match y with
    | .file x => some x
    | .runtime _ => none

example : (initial : HostTable Unit).lowestFree = 5 := by decide

end HostTable

end PlatformLayer
