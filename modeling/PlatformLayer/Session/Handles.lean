import PlatformLayer.Session.Read
/-!
# Handles for descriptors of the host

Descriptor numbers of the host are never written. Each descriptor a request opens gets the next
handle, its position in the request's handle list, and steps name descriptors by handle (`"s"`)
or give a raw number (`"fd"`) for descriptors that are not open. The kernel reuses the numbers
of closed descriptors, so in a set a descriptor is written as the latest handle that holds it.
-/
namespace PlatformLayer.Session

abbrev Handles := List Int

def readHandle (handles : Handles) (name : String) (v : Value) : Read Int := do
  let h ← readInt name .i64 v
  if h < 0 then refuse name "unknown handle"
  else
    match handles[h.toNat]? with
    | some fd => pure fd
    | none => refuse name "unknown handle"

/-- The descriptor of a step: its handle `"s"`, or else its raw number `"fd"`; a step that
names neither gets -1, which is no descriptor. -/
def descriptorField (handles : Handles) (v : Value) : Read Int :=
  match field? v "s" with
  | some h => readHandle handles "s" h
  | none => intField v "fd" .i64 (-1)

def handleSetField (handles : Handles) (v : Value) (key : String) : Read (Option DescriptorSet) :=
  match field? v key with
  | none => pure none
  | some (.arr hs) => do pure (some (DescriptorSet.ofList (← hs.mapM (readHandle handles key))))
  | some _ => refuse key "not a list"

/-- The latest handle that holds a descriptor. -/
def latestHandle (handles : Handles) (fd : Int) : Option Nat :=
  (handles.zipIdx.filter (·.1 == fd)).getLast?.map (·.2)

/-- A set in an answer: the handles, ascending, that are the latest to hold a member; `null`
for no set. -/
def handleSetValue (handles : Handles) : Option DescriptorSet → Value
  | some s =>
    .arr ((handles.zipIdx.filter fun (fd, h) =>
      s.contains fd && latestHandle handles fd == some h).map fun (_, h) => Value.nat h)
  | none => .null

/-- The bound of a select: `"auto"`, the default, is one past the largest descriptor that was
given a handle. -/
def maxField (handles : Handles) (v : Value) : Read Int :=
  match field? v "max" with
  | none | some (.str "auto") => pure (handles.foldl max (-1) + 1)
  | some m => readInt "max" .i64 m

def Handles.push (handles : Handles) (fd : Int) : Nat × Handles := (handles.length, handles ++ [fd])

end PlatformLayer.Session
