/-!
# Request and answer values

A request line and its answer are trees of this type: the null value, booleans, numbers,
strings, arrays and objects. A number is kept as it is written, so `1.0`, `1e0` and `1` stay
apart until a reader asks for an integer. Objects keep their fields in the order they were
built; answers are compared as data, so that order carries no meaning.
-/
namespace PlatformLayer.Session

inductive Value where
  | null
  | bool (b : Bool)
  | num (text : String)
  | str (s : String)
  | arr (items : List Value)
  | obj (fields : List (String × Value))
  deriving Repr, Inhabited

namespace Value

def int (n : Int) : Value := .num (toString n)

def nat (n : Nat) : Value := .num (toString n)

def get? : Value → String → Option Value
  | .obj fields, key => (fields.find? (·.1 == key)).map (·.2)
  | _, _ => none

mutual

/-- How deeply arrays and objects nest in a value: 0 for a scalar. -/
def depth : Value → Nat
  | .arr items => depthItems items + 1
  | .obj fields => depthFields fields + 1
  | _ => 0

def depthItems : List Value → Nat
  | [] => 0
  | v :: vs => max (depth v) (depthItems vs)

def depthFields : List (String × Value) → Nat
  | [] => 0
  | (_, v) :: fs => max (depth v) (depthFields fs)

end

def ofOption {α : Type} (f : α → Value) : Option α → Value
  | some a => f a
  | none => .null

def ints (xs : List Int) : Value := .arr (xs.map int)

@[simp] theorem get?_obj (fields : List (String × Value)) (key : String) :
    (Value.obj fields).get? key = (fields.find? (·.1 == key)).map (·.2) := rfl

end Value

end PlatformLayer.Session
