import ServiceMonitor.Url.Percent

/-!
The path of an address.

A path is a list of segments, or, under a scheme without hosts, a plain text. A segment of one dot means the place itself, one of
two dots the place above; a dot may be escaped. Below the drive of a file nothing is above.
-/

namespace ServiceMonitor.Url

abbrev Segment := List Char

inductive Path where
  | plain (text : List Char)
  | segments (list : List Segment)
  deriving DecidableEq, Repr

namespace Path

def text : Path → List Char
  | .plain cs => cs
  | .segments list => list.flatMap fun s => '/' :: s

def lowered (s : Segment) : String := String.ofList (s.map Char.toLower)

/-- the place itself -/
def isHere (s : Segment) : Bool := lowered s = "." || lowered s = "%2e"

/-- the place above -/
def isAbove (s : Segment) : Bool :=
  lowered s = ".." || lowered s = ".%2e" || lowered s = "%2e." || lowered s = "%2e%2e"

/-- a letter and a colon or a bar -/
def isDrive : Segment → Bool
  | [c, m] => c.isAlpha && (m = ':' || m = '|')
  | _ => false

def drive : Segment → Segment
  | c :: _ => [c, ':']
  | [] => []

/-- the segments above the last one, in reverse; the drive of a file stays -/
def above (file : Bool) : List Segment → List Segment
  | [] => []
  | s :: rest => if file && rest.isEmpty && isDrive s then [s] else rest

/-- the places that segments lead to, in reverse, from given ones on -/
def resolve (file : Bool) : List Segment → List Segment → List Segment
  | done, [] => done
  | done, s :: rest =>
    if isAbove s then resolve file (if rest.isEmpty then [] :: above file done else above file done) rest
    else if isHere s then resolve file (if rest.isEmpty then [] :: done else done) rest
    else resolve file ((if file && done.isEmpty && isDrive s then drive s else s) :: done) rest

/-- the segments of a text, whose first slash has been read -/
def splitSegments (backslash : Bool) (cs : List Char) : List Segment :=
  (cs.map fun c => if backslash && c = '\\' then '/' else c).splitOn '/'

def ofText (backslash file : Bool) (cs : List Char) : Path :=
  let done := resolve file [] ((splitSegments backslash cs).map (escape escapedInPath))
  let list := done.reverse
  .segments (if file then
    match list.dropWhile List.isEmpty with
    | [] => [[]]
    | l => l
  else list)

end Path

end ServiceMonitor.Url
