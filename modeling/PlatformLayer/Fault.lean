/-!
# Failures of the layer

Every service of the layer reports a failed call as a `Fault`: either the operation failed,
optionally because of a cause from the backend below, or the capability is not part of the
build. Both carry the name of the operation. The message text and the three kinds that callers
can tell apart are fixed here, in one place.
-/
namespace PlatformLayer

def failureSentinel : String := "ifxos: operation failed"

def unsupportedText : String := "capability not supported"

inductive Fault (ε : Type) where
  /-- The operation `op` failed, because of `cause` when it is known. -/
  | failed (op : String) (cause : Option ε)
  /-- The capability behind `op` is not part of this build. -/
  | unsupported (op : String)
  deriving DecidableEq, Repr

inductive ErrorKind where
  | notSupported
  | failure
  | plain
  deriving DecidableEq, Repr

def ErrorKind.name : ErrorKind → String
  | .notSupported => "not_supported"
  | .failure => "failure"
  | .plain => "error"

namespace Fault

variable {ε : Type}

def op : Fault ε → String
  | .failed op _ => op
  | .unsupported op => op

def message (describe : ε → String) : Fault ε → String
  | .failed op none => op ++ ": " ++ failureSentinel
  | .failed op (some c) => op ++ ": " ++ describe c ++ ": " ++ failureSentinel
  | .unsupported op => op ++ ": " ++ unsupportedText ++ ": " ++ failureSentinel

/-- An unsupported capability matches both sentinels; a plain failure only the general one. -/
def kind : Fault ε → ErrorKind
  | .failed .. => .failure
  | .unsupported _ => .notSupported

def isUnsupported : Fault ε → Bool
  | .unsupported _ => true
  | .failed .. => false

def mapCause {δ : Type} (f : ε → δ) : Fault ε → Fault δ
  | .failed op c => .failed op (c.map f)
  | .unsupported op => .unsupported op

@[simp] theorem kind_failed (op : String) (c : Option ε) :
    (Fault.failed op c).kind = .failure := rfl

@[simp] theorem kind_unsupported (op : String) :
    (Fault.unsupported op : Fault ε).kind = .notSupported := rfl

@[simp] theorem isUnsupported_iff (f : Fault ε) :
    f.isUnsupported = true ↔ f.kind = .notSupported := by
  cases f <;> simp [isUnsupported, kind]

end Fault

end PlatformLayer
