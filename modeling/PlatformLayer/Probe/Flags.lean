import PlatformLayer.Text.IntLiteral
import PlatformLayer.Text.Quoted
/-!
# Flags of the probe's command line

A flag is `-name` or `--name`, with its value after `=` or as the next argument (a boolean flag
takes only `=value`). Flags are read from the front up to the first other argument or a lone
`--`, and reading stops at the first error.
-/
namespace PlatformLayer

inductive FlagKind where
  | text
  | int
  | uint
  | bool
  deriving DecidableEq, Repr

structure FlagSpec where
  names : List String
  kind : FlagKind
  usage : String
  default : String
  deriving DecidableEq, Repr

namespace FlagSpec

/-- A name with its dash: one for a single letter, two otherwise. -/
def dashed (name : String) : String := (if name.length = 1 then "-" else "--") ++ name

def helpLine (f : FlagSpec) : String :=
  let placeholder := if f.kind = .bool then "" else " value"
  let shown :=
    match f.kind with
    | .bool => ""
    | .int | .uint => " (default: " ++ f.default ++ ")"
    | .text => if f.default.isEmpty then "" else " (default: " ++ Quoted.quote f.default ++ ")"
  ", ".intercalate (f.names.map fun n => dashed n ++ placeholder) ++ "\t" ++ f.usage ++ shown

def hasName (f : FlagSpec) (name : String) : Bool := f.names.contains name

end FlagSpec

/-- What reading flags gave: each flag given, by the name it was given as, with its value, and
the arguments after the flags. -/
structure FlagsRead where
  given : List (String × String)
  rest : List String
  deriving DecidableEq, Repr

namespace FlagsRead

def value? (r : FlagsRead) (f : FlagSpec) : Option String :=
  (r.given.filter fun (n, _) => f.hasName n).getLast?.map (·.2)

def text (r : FlagsRead) (f : FlagSpec) : String := (r.value? f).getD f.default

/-- The value of a signed number flag; a value that does not read counts as 0. -/
def int (r : FlagsRead) (f : FlagSpec) : Int :=
  match IntLiteral.parseSigned (r.text f) with
  | .ok n => n
  | .error _ => 0

def nat (r : FlagsRead) (f : FlagSpec) : Nat :=
  match IntLiteral.parseNat (r.text f) with
  | .ok n => n
  | .error _ => 0

def isSet (r : FlagsRead) (f : FlagSpec) : Bool :=
  match r.value? f with
  | some v => ["1", "t", "T", "TRUE", "true", "True"].contains v
  | none => false

end FlagsRead

def boolSpellings : List String :=
  ["1", "t", "T", "TRUE", "true", "True", "0", "f", "F", "FALSE", "false", "False"]

def numberError {α : Type} (name value : String) : Except LiteralError α → Option String
  | .ok _ => none
  | .error e => some ("invalid value " ++ Quoted.quote value ++ " for flag -" ++ name ++ ": " ++ e.text)

def checkValue (f : FlagSpec) (name value : String) : Option String :=
  match f.kind with
  | .int => numberError name value (IntLiteral.parseSigned value)
  | .uint => numberError name value (IntLiteral.parseNat value)
  | _ => none

inductive FlagArg where
  /-- Not a flag: the flags end here. -/
  | operand
  /-- A lone `--`: the flags end after it. -/
  | terminator
  /-- A flag that cannot be read. -/
  | broken (error : String)
  /-- A flag, by the name given, with the value after `=` if there is one. -/
  | flag (name : String) (spec : FlagSpec) (attached : Option String)

def classifyArg (specs : List FlagSpec) (arg : String) : FlagArg :=
  match arg.toList with
  | '-' :: '-' :: [] => .terminator
  | '-' :: c :: rest =>
    let body := if c = '-' then rest else c :: rest
    match body with
    | [] | '-' :: _ | '=' :: _ => .broken ("bad flag syntax: " ++ arg)
    | first :: after =>
      let name := String.ofList (first :: after.takeWhile (· ≠ '='))
      let attached : Option String :=
        if after.contains '=' then some (String.ofList ((after.dropWhile (· ≠ '=')).drop 1))
        else none
      match specs.find? (·.hasName name) with
      | none => .broken ("flag provided but not defined: -" ++ name)
      | some f => .flag name f attached
  | _ => .operand

def valueError (f : FlagSpec) (name value : String) : Option String :=
  if f.kind = .bool then
    if boolSpellings.contains value then none
    else some ("invalid boolean value " ++ Quoted.quote value ++ " for -" ++ name ++ ": parse error")
  else checkValue f name value

def FlagsRead.cons (name value : String) : FlagsRead × Option String → FlagsRead × Option String
  | (r, e) => (⟨(name, value) :: r.given, r.rest⟩, e)

/-- Read flags from the front of the arguments: what was read, and the error that stopped the
reading, if one did. -/
def readFlags (specs : List FlagSpec) : List String → FlagsRead × Option String
  | [] => (⟨[], []⟩, none)
  | arg :: more =>
    match classifyArg specs arg with
    | .operand => (⟨[], arg :: more⟩, none)
    | .terminator => (⟨[], more⟩, none)
    | .broken e => (⟨[], []⟩, some e)
    | .flag name f attached =>
      match attached with
      | some v =>
        match valueError f name v with
        | some e => (⟨[], []⟩, some e)
        | none => FlagsRead.cons name v (readFlags specs more)
      | none =>
        if f.kind = .bool then FlagsRead.cons name "true" (readFlags specs more)
        else
          match more with
          | [] => (⟨[], []⟩, some ("flag needs an argument: -" ++ name))
          | v :: rest =>
            match valueError f name v with
            | some e => (⟨[], []⟩, some e)
            | none => FlagsRead.cons name v (readFlags specs rest)

/-- Two names of one flag given together: `Cannot use two forms of the same flag: <n> <m>`. -/
def twoFormsError (specs : List FlagSpec) (given : List (String × String)) : Option String :=
  let seen := given.map (·.1)
  specs.findSome? fun f =>
    match f.names.filter seen.contains with
    | first :: second :: _ => some ("Cannot use two forms of the same flag: " ++ second ++ " " ++ first)
    | _ => none

/-- Whether an argument names one of the flags: its name is what is left after taking off two
leading dashes and then one more, up to the first `=`. -/
def namesFlag (specs : List FlagSpec) (arg : String) : Bool :=
  arg != "-" && arg.startsWith "-" &&
    let afterTwo := match arg.toList with
      | '-' :: '-' :: rest => rest
      | cs => cs
    let body := match afterTwo with
      | '-' :: rest => rest
      | cs => cs
    let name := String.ofList (body.takeWhile (· ≠ '='))
    specs.any (·.hasName name)

/-- Move the arguments that name flags to the front, each with the value after it, keeping
everything from a lone `--` on in place. A flag without `=` takes as its value the next argument
that does not start with a dash and names no flag, even when other arguments stand between
them. -/
def reorderArgs (specs : List FlagSpec) (args : List String) : List String :=
  let rec go : List String → Bool → List String → List String → List String
    | [], _, flags, others => flags ++ others
    | a :: rest, mayValue, flags, others =>
      if a = "--" then flags ++ others ++ (a :: rest)
      else if mayValue ∧ !a.startsWith "-" then go rest false (flags ++ [a]) others
      else if namesFlag specs a then go rest (!a.contains '=') (flags ++ [a]) others
      else go rest mayValue flags (others ++ [a])
  go args false [] []

end PlatformLayer
