import PlatformLayer.Session.Value
import PlatformLayer.Text.Hex
import PlatformLayer.DescriptorSet
import PlatformLayer.Platform
/-!
# Reading requests

A request is read field by field, each where it is first needed, so of two faults the one met
first stops the request. A missing field and a `null` field read as the default, and a field of
the wrong shape stops the request with `<field>: <what was expected>`.
-/
namespace PlatformLayer.Session

abbrev Read := Except String

def refuse {α : Type} (field problem : String) : Read α := throw (field ++ ": " ++ problem)

/-- A field of an object; `null` counts as absent. -/
def field? (v : Value) (key : String) : Option Value :=
  match v.get? key with
  | some .null => none
  | r => r

inductive Width where
  | u8 | u16 | u32 | u64 | i32 | i64
  deriving DecidableEq, Repr

namespace Width

def lo : Width → Int
  | .i32 => -2147483648
  | .i64 => -9223372036854775808
  | _ => 0

def hi : Width → Int
  | .u8 => 255
  | .u16 => 65535
  | .u32 => 4294967295
  | .u64 => 18446744073709551615
  | .i32 => 2147483647
  | .i64 => 9223372036854775807

def signed : Width → Bool
  | .i32 | .i64 => true
  | _ => false

def describe : Width → String
  | .u8 => "not an unsigned 8-bit integer"
  | .u16 => "not an unsigned 16-bit integer"
  | .u32 => "not an unsigned 32-bit integer"
  | .u64 => "not an unsigned 64-bit integer"
  | .i32 => "not an int32"
  | .i64 => "not an int64"

end Width

def decimalNumeral? (s : String) : Option Nat :=
  if !s.isEmpty && s.all Char.isDigit then
    some (s.foldl (fun n c => n * 10 + (c.toNat - 48)) 0)
  else none

def decimalText? (signed : Bool) (s : String) : Option Int :=
  match s.toList with
  | '-' :: rest =>
    if signed then (decimalNumeral? (String.ofList rest)).map fun n => -(n : Int) else none
  | '+' :: rest => if signed then (decimalNumeral? (String.ofList rest)).map Int.ofNat else none
  | _ => (decimalNumeral? s).map Int.ofNat

/-- An integer of the given range, reported under `name`: a number or a string whose text is a
decimal integer, with a sign only when the range is signed, so that a fraction, an exponent or
`-0` for an unsigned range does not read. A number or text that does not give one of the range
is refused by the range's description, and any other value as not a number. -/
def readInt (name : String) (w : Width) (v : Value) : Read Int :=
  let read : Option (Option Int) :=
    match v with
    | .num t | .str t => some (decimalText? w.signed t)
    | _ => none
  match read with
  | some (some n) => if w.lo ≤ n ∧ n ≤ w.hi then pure n else refuse name w.describe
  | some none => refuse name w.describe
  | none => refuse name "not a number"

def intField (o : Value) (key : String) (w : Width) (default : Int) : Read Int :=
  match field? o key with
  | some v => readInt key w v
  | none => pure default

def natField (o : Value) (key : String) (w : Width) (default : Nat) : Read Nat := do
  let n ← intField o key w default
  pure n.toNat

def boolField (o : Value) (key : String) (default : Bool) : Read Bool :=
  match field? o key with
  | some (.bool b) => pure b
  | some _ => refuse key "not a bool"
  | none => pure default

def stringField? (o : Value) (key : String) : Read (Option String) :=
  match field? o key with
  | some (.str s) => pure (some s)
  | some _ => refuse key "not a string"
  | none => pure none

def stringField (o : Value) (key : String) (default : String) : Read String := do
  pure ((← stringField? o key).getD default)

def listField? (o : Value) (key : String) : Read (Option (List Value)) :=
  match field? o key with
  | some (.arr xs) => pure (some xs)
  | some _ => refuse key "not a list"
  | none => pure none

def utf8 (s : String) : Bytes := s.toUTF8.toList

/-- Bytes given as a string (its UTF-8 bytes), as `{"hex": …}`, or as `null` (no buffer). An
object without hex digits is the empty buffer. -/
def readBytes (name : String) : Value → Read (Option Bytes)
  | .null => pure none
  | .str s => pure (some (utf8 s))
  | v@(.obj _) =>
    match field? v "hex" with
    | some (.str h) =>
      match Hex.decode? h with
      | some bs => pure (some bs)
      | none => refuse name "bad hex"
    | some _ => refuse "hex" "not a string"
    | none => pure (some [])
  | _ => refuse name "not bytes"

def bytesField (o : Value) (key : String) : Read (Option Bytes) :=
  match field? o key with
  | some v => readBytes key v
  | none => pure none

def maxBuffer : Nat := 1048576

def bufferSize (key : String) (n : Int) : Read Nat :=
  if n < 0 ∨ n > maxBuffer then refuse key "size out of range" else pure n.toNat

def providerError (v : Value) (key : String) : Read (Option String) :=
  match field? v key with
  | some (.str e) => pure (some e)
  | some _ => refuse "provider error" "not a string"
  | none => pure none

def bufferField (o : Value) (key : String) : Read (Option Nat) :=
  match field? o key with
  | some v => do pure (some (← bufferSize key (← readInt key .i64 v)))
  | none => pure none

/-- The longest wait a select may be asked for, in milliseconds: a request runs in real time. -/
def longestWait : Int := 100

def limitWait (t : Int) : Read Int :=
  -- the refusal's text is the one the answers carry, word for word
  if t > longestWait then refuse "select" "timeout too long for a harness run" else pure t

def waitField (o : Value) (w : Width) : Read Int := do limitWait (← intField o "timeout" w 0)

def readInts (name : String) (w : Width) : Value → Read (List Int)
  | .arr xs => xs.mapM (readInt name w)
  | _ => refuse name "not a list"

/-- A descriptor set given as a list of descriptors; absent is no set. Each member goes in by
`insert`, so those outside `[0, 1024)` are dropped. -/
def setField (o : Value) (key : String) : Read (Option DescriptorSet) :=
  match field? o key with
  | some v => do pure (some (DescriptorSet.ofList (← readInts key .i64 v)))
  | none => pure none

/-- The capability groups of a request; an absent key is on. -/
def featuresField (o : Value) : Read Features :=
  match field? o "features" with
  | none => pure Features.all
  | some f@(.obj _) => do
    pure { device := ← boolField f "device" true
           deviceSelect := ← boolField f "device_select" true
           socket := ← boolField f "socket" true
           socketShutdown := ← boolField f "socket_shutdown" true
           ipv6 := ← boolField f "ipv6" true
           termios := ← boolField f "termios" true
           misc := ← boolField f "misc" true }
  | some _ => refuse "features" "not an object"

def stepList (o : Value) : Read (List Value) := do
  pure ((← listField? o "steps").getD [])

/-- The steps of a request, each of which must be an object; absent is none. The list is
checked whole before the first step runs, and then each step is read just before it runs. -/
def stepsField (o : Value) : Read (List Value) := do
  (← stepList o).mapM fun
    | v@(.obj _) => pure v
    | _ => refuse "steps" "not an object"

/-- The answer to a list of steps: `null` for none, as a list that was never started. -/
def stepsAnswer (answers : List Value) : Value :=
  .obj [("steps", if answers.isEmpty then .null else .arr answers)]

def setValue : Option DescriptorSet → Value
  | some s => Value.ints s.toList
  | none => .null

/-- Bytes in an answer: lowercase hex; `null` for no buffer. -/
def bytesValue : Option Bytes → Value
  | some bs => .str (Hex.encode bs)
  | none => .null

/-- Why a request line gets no answer of its own: it could not be read, or the service it
drove stopped the program. -/
inductive Refusal where
  | badInput (message : String)
  | panic (message : String)
  deriving DecidableEq, Repr

abbrev Answer := Except Refusal Value

def Read.toAnswer {α : Type} (r : Read α) : Except Refusal α := r.mapError .badInput

def Refusal.toValue : Refusal → Value
  | .badInput m => .obj [("error", .str "bad_input"), ("message", .str m)]
  | .panic m => .obj [("error", .str "panic"), ("message", .str m)]

def answerLine : Answer → Value
  | .ok v => v
  | .error r => r.toValue

end PlatformLayer.Session
