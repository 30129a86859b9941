import PlatformLayer.Session.Value
/-!
# Values as JSON text

A request arrives as one line of JSON text and its answer leaves as one. Reading keeps every
number as it is written and goes in two passes, `Token.scan` and `Value.ofTokens?`.
-/
namespace PlatformLayer.Session

inductive Token where
  | openObject
  | closeObject
  | openArray
  | closeArray
  | colon
  | comma
  | str (s : String)
  | num (text : String)
  | word (w : String)
  deriving DecidableEq, Repr

inductive Scan where
  /-- Between tokens. -/
  | between
  /-- In a string: its characters so far, last first, and a high surrogate that waits for the
  escape after it. -/
  | text (acc : List Char) (high : Option Nat)
  /-- After a backslash in a string. -/
  | escape (acc : List Char) (high : Option Nat)
  /-- In a `\u` escape, with the values of its hex digits so far. -/
  | unicode (acc : List Char) (high : Option Nat) (digits : List Nat)
  /-- In a number or a word: its characters so far, last first. -/
  | bare (acc : List Char)
  deriving Repr

namespace Token

def replacement : Char := '\uFFFD'

def isBlank (c : Char) : Bool := c == ' ' || c == '\t' || c == '\n' || c == '\r'

def hexValue? (c : Char) : Option Nat :=
  if c.isDigit then some (c.toNat - '0'.toNat)
  else if 'a' ≤ c ∧ c ≤ 'f' then some (c.toNat - 'a'.toNat + 10)
  else if 'A' ≤ c ∧ c ≤ 'F' then some (c.toNat - 'A'.toNat + 10)
  else none

def isHighSurrogate (u : Nat) : Bool := 0xD800 ≤ u && u < 0xDC00

def isLowSurrogate (u : Nat) : Bool := 0xDC00 ≤ u && u < 0xE000

/-- The characters of a string so far, with a waiting high surrogate given up as U+FFFD. -/
def settle (acc : List Char) : Option Nat → List Char
  | some _ => replacement :: acc
  | none => acc

/-- A string with the code unit of a finished `\u` escape added. A high surrogate waits for the
next escape; a low one finishes a waiting high one, and any other surrogate is U+FFFD. -/
def addUnit (acc : List Char) (high : Option Nat) (u : Nat) : Scan :=
  match high with
  | some h =>
    if isLowSurrogate u then
      .text (Char.ofNat (0x10000 + (h - 0xD800) * 0x400 + (u - 0xDC00)) :: acc) none
    else addFresh (replacement :: acc) u
  | none => addFresh acc u
where
  /-- A code unit with no high surrogate waiting. -/
  addFresh (acc : List Char) (u : Nat) : Scan :=
    if isHighSurrogate u then .text acc (some u)
    else if isLowSurrogate u then .text (replacement :: acc) none
    else .text (Char.ofNat u :: acc) none

def escaped? : Char → Option Char
  | '"' => some '"'
  | '\\' => some '\\'
  | '/' => some '/'
  | 'b' => some '\x08'
  | 'f' => some '\x0c'
  | 'n' => some '\n'
  | 'r' => some '\r'
  | 't' => some '\t'
  | _ => none

def isDigits (cs : List Char) : Bool := !cs.isEmpty && cs.all Char.isDigit

def isExponent : List Char → Bool
  | [] => true
  | c :: rest =>
    (c == 'e' || c == 'E') &&
      match rest with
      | '+' :: ds | '-' :: ds => isDigits ds
      | ds => isDigits ds

def isFractionExponent : List Char → Bool
  | '.' :: rest =>
    isDigits (rest.takeWhile Char.isDigit) && isExponent (rest.dropWhile Char.isDigit)
  | rest => isExponent rest

def isUnsignedNumber : List Char → Bool
  | '0' :: rest => isFractionExponent rest
  | c :: rest => c.isDigit && isFractionExponent (rest.dropWhile Char.isDigit)
  | [] => false

def isNumber : List Char → Bool
  | '-' :: rest => isUnsignedNumber rest
  | cs => isUnsignedNumber cs

def ofBare (cs : List Char) : Except String Token :=
  match cs with
  | ['t', 'r', 'u', 'e'] | ['f', 'a', 'l', 's', 'e'] | ['n', 'u', 'l', 'l'] =>
    .ok (.word (String.ofList cs))
  | _ => if isNumber cs then .ok (.num (String.ofList cs)) else .error "invalid literal"

def begin (c : Char) : Except String (Scan × List Token) :=
  match c with
  | '\x7b' => .ok (.between, [.openObject])
  | '\x7d' => .ok (.between, [.closeObject])
  | '[' => .ok (.between, [.openArray])
  | ']' => .ok (.between, [.closeArray])
  | ':' => .ok (.between, [.colon])
  | ',' => .ok (.between, [.comma])
  | '"' => .ok (.text [] none, [])
  | _ =>
    if isBlank c then .ok (.between, [])
    else if c == '-' || c.isAlphanum then .ok (.bare [c], [])
    else .error "invalid character"

def step : Scan → Char → Except String (Scan × List Token)
  | .between, c => begin c
  | .text acc high, c =>
    if c == '"' then .ok (.between, [.str (String.ofList (settle acc high).reverse)])
    else if c == '\\' then .ok (.escape acc high, [])
    else if c.toNat < 0x20 then .error "control character in string"
    else .ok (.text (c :: settle acc high) none, [])
  | .escape acc high, c =>
    if c == 'u' then .ok (.unicode acc high [], [])
    else match escaped? c with
      | some e => .ok (.text (e :: settle acc high) none, [])
      | none => .error "invalid escape"
  | .unicode acc high digits, c =>
    match hexValue? c with
    | some d =>
      if digits.length = 3 then
        .ok (addUnit acc high ((digits ++ [d]).foldl (fun n x => n * 16 + x) 0), [])
      else .ok (.unicode acc high (digits ++ [d]), [])
    | none => .error "invalid escape"
  | .bare acc, c =>
    if isBlank c || "\x7b\x7d[]:,\"".contains c then do
      let t ← ofBare acc.reverse
      let (s, ts) ← begin c
      pure (s, t :: ts)
    else .ok (.bare (c :: acc), [])

def finish : Scan → Except String (List Token)
  | .between => .ok []
  | .bare acc => do pure [← ofBare acc.reverse]
  | _ => .error "unexpected end of input"

/-- The tokens of JSON text, read one character at a time; they are gathered last first. -/
def scan (s : String) : Except String (List Token) := do
  let (st, ts) ← s.toList.foldlM
    (fun (st, ts) c => do
      let (st', new) ← step st c
      pure (st', new.foldl (fun acc t => t :: acc) ts))
    (Scan.between, [])
  pure (ts.reverse ++ (← finish st))

end Token

namespace Value

def putField (fields : List (String × Value)) (key : String) (v : Value) :
    List (String × Value) :=
  (key, v) :: fields.filter (·.1 != key)

mutual

/-- A value at the start of tokens, and the tokens after it, within `fuel` nested steps. -/
def parseWith : Nat → List Token → Except String (Value × List Token)
  | 0, _ => .error "nested too deeply"
  | fuel + 1, ts =>
    match ts with
    | .openObject :: .closeObject :: rest => .ok (.obj [], rest)
    | .openObject :: rest => parseFields fuel [] rest
    | .openArray :: .closeArray :: rest => .ok (.arr [], rest)
    | .openArray :: rest => parseItems fuel [] rest
    | .str s :: rest => .ok (.str s, rest)
    | .num t :: rest => .ok (.num t, rest)
    | .word "true" :: rest => .ok (.bool true, rest)
    | .word "false" :: rest => .ok (.bool false, rest)
    | .word _ :: rest => .ok (.null, rest)
    | _ => .error "unexpected token"

def parseItems : Nat → List Value → List Token → Except String (Value × List Token)
  | 0, _, _ => .error "nested too deeply"
  | fuel + 1, items, ts => do
    let (v, rest) ← parseWith fuel ts
    match rest with
    | .comma :: more => parseItems fuel (v :: items) more
    | .closeArray :: more => pure (.arr (v :: items).reverse, more)
    | _ => .error "expected a comma or a closing bracket"

def parseFields : Nat → List (String × Value) → List Token →
    Except String (Value × List Token)
  | 0, _, _ => .error "nested too deeply"
  | fuel + 1, fields, .str key :: .colon :: ts => do
    let (v, rest) ← parseWith fuel ts
    let fields := putField fields key v
    match rest with
    | .comma :: more => parseFields fuel fields more
    | .closeObject :: more => pure (.obj fields.reverse, more)
    | _ => .error "expected a comma or a closing brace"
  | _ + 1, _, _ => .error "expected a key"

end

def ofTokens? (ts : List Token) : Except String Value := do
  let (v, rest) ← parseWith (ts.length + 1) ts
  if rest.isEmpty then pure v else .error "text after the value"

def ofText? (s : String) : Except String Value := do ofTokens? (← Token.scan s)

def hex4 (n : Nat) : String :=
  String.ofList ((List.range 4).reverse.map fun i => Nat.digitChar (n / Nat.pow 16 i % 16))

def escapeChar (c : Char) : String :=
  match c with
  | '"' => "\\\""
  | '\\' => "\\\\"
  | '\n' => "\\n"
  | '\r' => "\\r"
  | '\t' => "\\t"
  | _ =>
    if c.toNat < 0x20 || c == '\u2028' || c == '\u2029' then "\\u" ++ hex4 c.toNat
    else c.toString

def quote (s : String) : String := "\"" ++ String.join (s.toList.map escapeChar) ++ "\""

mutual

def render : Value → String
  | .null => "null"
  | .bool b => if b then "true" else "false"
  | .num t => t
  | .str s => quote s
  | .arr items => "[" ++ renderItems items ++ "]"
  | .obj fields => "\x7b" ++ renderFields fields ++ "\x7d"

def renderItems : List Value → String
  | [] => ""
  | [v] => render v
  | v :: vs => render v ++ "," ++ renderItems vs

def renderFields : List (String × Value) → String
  | [] => ""
  | [(k, v)] => quote k ++ ":" ++ render v
  | (k, v) :: fs => quote k ++ ":" ++ render v ++ "," ++ renderFields fs

end

example : ((ofText? "\x7b\"a\": [1, -0, 1e2, \"x\\u00e9\"], \"b\": 2, \"a\": true\x7d").map
    render).toOption = some "\x7b\"b\":2,\"a\":true\x7d" := by cbv

example : ((ofText? "[-0, 1e2, 1.50, \"\\ud83d\\ude00\\udc00x\"]").map render).toOption =
    some "[-0,1e2,1.50,\"😀\uFFFDx\"]" := by cbv

example : (Value.obj [("n", .num "-0"), ("s", .str "\"\n")]).render =
    "\x7b\"n\":-0,\"s\":\"\\\"\\n\"\x7d" := by decide

end Value

end PlatformLayer.Session
