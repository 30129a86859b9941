/-!
# Slash-separated paths

`clean` gives the shortest path that names the same file by lexical rules alone: runs of
slashes become one, `.` components go, a `..` removes the component before it, a `..` at the
start of a rooted path goes, and a trailing slash goes. The empty path cleans to `.`.
`dirPart` and `basePart` split a path at its last slash; `dir` is the cleaned directory part.
-/
namespace PlatformLayer.DevicePath

abbrev Part := List Char

/-- Split text at every slash; empty parts stay. -/
def splitSlash : List Char → List Part
  | [] => [[]]
  | c :: cs =>
    if c = '/' then [] :: splitSlash cs
    else
      match splitSlash cs with
      | [] => [[c]]
      | p :: ps => (c :: p) :: ps

/-- Push one component onto the stack of kept components, reversed (top first). `..` pops a
component that is not `..`; in a rooted path it is dropped when there is nothing to pop. -/
def pushPart (rooted : Bool) (stack : List Part) (p : Part) : List Part :=
  if p = [] ∨ p = ['.'] then stack
  else if p = ['.', '.'] then
    match stack with
    | top :: rest => if top = ['.', '.'] then p :: stack else rest
    | [] => if rooted then [] else [p]
  else p :: stack

def joinParts (ps : List Part) : List Char := ['/'].intercalate ps

def cleanChars (cs : List Char) : List Char :=
  let rooted := cs.head? = some '/'
  let stack := (splitSlash cs).foldl (pushPart rooted) []
  let body := joinParts stack.reverse
  if rooted then '/' :: body
  else if body.isEmpty then ['.'] else body

def clean (p : String) : String := String.ofList (cleanChars p.toList)

def dirPart (p : String) : String :=
  String.ofList ((p.toList.reverse.dropWhile (· ≠ '/')).reverse)

def basePart (p : String) : String :=
  String.ofList ((p.toList.reverse.takeWhile (· ≠ '/')).reverse)

/-- The directory of a path, cleaned; `.` when it has no slash. -/
def dir (p : String) : String := clean (dirPart p)

def join (p name : String) : String := clean (p ++ "/" ++ name)

theorem cleanChars_nonempty (cs : List Char) : cleanChars cs ≠ [] := by
  simp only [cleanChars]
  by_cases h : cs.head? = some '/'
  · simp [h]
  · simp only [h, decide_false, if_false]
    split <;> simp_all

example : clean "/dev//null" = "/dev/null" := by decide
example : clean "/dev/../dev/echo" = "/dev/echo" := by decide
example : clean "//dev//echo//" = "/dev/echo" := by decide
example : clean "/../dev/null" = "/dev/null" := by decide
example : clean "" = "." := by decide
example : clean "a/../../b" = "../b" := by decide
example : dir "/dev/echo" = "/dev" := by decide
example : dir "echo" = "." := by decide
example : dir "/echo" = "/" := by decide

end PlatformLayer.DevicePath
