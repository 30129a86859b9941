import PlatformLayer.Session.Read
/-!
# Requests on descriptor sets

A request works on one set, or on no set at all; then every change is skipped, a membership test
is false, the count is 0 and the listing is empty. Each step answers the set after it.
-/
namespace PlatformLayer.Session

inductive SetStep where
  | insert (fd : Int)
  | erase (fd : Int)
  | contains (fd : Int)
  | clear
  | count
  | below (max : Int)
  | valid (fd : Int)
  deriving DecidableEq, Repr

def SetStep.read (v : Value) : Read SetStep := do
  let fd ← intField v "fd" .i64 0
  match ← stringField v "do" "" with
  | "set" => pure (.insert fd)
  | "clr" => pure (.erase fd)
  | "isset" => pure (.contains fd)
  | "zero" => pure .clear
  | "count" => pure .count
  | "fds" => pure (.below (← intField v "max" .i64 0))
  | "valid" => pure (.valid fd)
  | _ => refuse "fdset" "unknown step"

def SetStep.apply : SetStep → Option DescriptorSet → Option Value × Option DescriptorSet
  | .insert fd, s => (none, s.map (·.insert fd))
  | .erase fd, s => (none, s.map (·.erase fd))
  | .contains fd, s => (some (.bool ((s.map (·.contains fd)).getD false)), s)
  | .clear, s => (none, s.map fun _ => DescriptorSet.empty)
  | .count, s => (some (.nat ((s.map (·.count)).getD 0)), s)
  | .below max, s => (some (Value.ints ((s.map (·.below max)).getD [])), s)
  | .valid fd, s => (some (.bool (validDescriptor fd)), s)

def runSetSteps : List Value → Option DescriptorSet → Read (List Value)
  | [], _ => pure []
  | v :: rest, s => do
    let st ← SetStep.read v
    let (r, s') := st.apply s
    let fields := (match r with | some v => [("result", v)] | none => []) ++ [("set", setValue s')]
    pure (.obj fields :: (← runSetSteps rest s'))

/-- A request on a descriptor set: no set when `nil` holds, and otherwise a fresh set holding
`init`, which is read only then. -/
def setRequest (req : Value) : Read Value := do
  let start ←
    if ← boolField req "nil" false then pure none
    else
      match field? req "init" with
      | some v => do pure (some (DescriptorSet.ofList (← readInts "init" .i64 v)))
      | none => pure (some DescriptorSet.empty)
  pure (stepsAnswer (← runSetSteps (← stepsField req) start))

end PlatformLayer.Session
