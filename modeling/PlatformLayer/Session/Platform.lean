import PlatformLayer.Session.Read
import PlatformLayer.Fault
import PlatformLayer.Socket.Basic
/-!
# Requests about names, groups and failures

These requests look up the text of a platform, a set of capability groups, a socket type, the
standard build, or a failure.
-/
namespace PlatformLayer.Session

def platformRequest (req : Value) : Read Value := do
  let n ← intField req "value" .i64 0
  pure (.obj [("name", .str (platformName n)), ("has_vm", .bool (platformHasVirtualMemory n))])

def featuresRequest (req : Value) : Read Value := do
  let f ← featuresField req
  pure (.obj [("string", .str f.render)])

def socketTypeRequest (req : Value) : Read Value := do
  let n ← intField req "value" .i64 0
  pure (.obj [("string", .str (socketTypeName n))])

def buildAnswer (b : Build) : Value :=
  .obj [("platform", .str b.platform.name), ("features", .str b.features.render)]

def faultFields (fault : Fault String) : List (String × Value) :=
  [("error", .str fault.kind.name), ("message", .str (fault.message id))]

def failureRequest (req : Value) : Read Value := do
  let unsupported ← boolField req "unsupported" false
  let name ← stringField req "name" ""
  let fault : Fault String ←
    if unsupported then pure (.unsupported name)
    else do pure (.failed name (← providerError req "cause"))
  pure (.obj [("message", .str (fault.message id)), ("is_failure", .bool true),
    ("is_not_supported", .bool fault.isUnsupported)])

end PlatformLayer.Session
