import ServiceMonitor.Text.Blank

/-!
Environment variables, and a text that supplies those that are missing.

Each line of the text gives one variable; a variable that has a value keeps it. A value may be quoted: between single quotes
everything stands for itself, outside them a backslash escapes and a dollar sign puts in the value of another variable. A
comment may follow behind a blank. A line that is not of this form ends the text.
-/

namespace ServiceMonitor

/-- variables and their values; the first of a name counts -/
abbrev Environment := List (String × String)

namespace Environment

def get? (env : Environment) (name : String) : Option String := env.lookup name

/-- a value for a variable that has none -/
def supply (env : Environment) (name value : String) : Environment :=
  if (env.get? name).isSome then env else (name, value) :: env

/-- what a variable puts in: nothing if it has no value -/
def insertion (env : Environment) (name : List Char) : List Char :=
  ((env.get? (String.ofList name)).getD "").toList

/-! ## Values -/

/-- a name that is being read: up to the closing brace, or while letters and digits follow -/
structure Reference where
  braced : Bool
  name : List Char

structure ValueReader where
  single : Bool
  double : Bool
  escaped : Bool
  /-- only blanks and a comment may follow -/
  ending : Bool
  /-- the rest is a comment -/
  comment : Bool
  reference? : Option Reference
  out : List Char

namespace ValueReader

def start : ValueReader := ⟨false, false, false, false, false, none, []⟩

def put (r : ValueReader) (cs : List Char) : ValueReader := { r with out := r.out ++ cs }

def unescape? (c : Char) : Option Char :=
  if c = 'n' then some '\n' else if ['\\', '\'', '"', '$', ' '].contains c then some c else none

/-- a character while a name is being read -/
def refer (env : Environment) (r : ValueReader) (ref : Reference) (c : Char) : ValueReader :=
  if c.isAlphanum then { r with reference? := some { ref with name := ref.name ++ [c] } }
  else if ref.braced then
    if c = '\x7d' then { r.put (env.insertion ref.name) with reference? := none }
    else { r with reference? := some { ref with name := ref.name ++ [c] } }
  else if c = '\x7b' && ref.name.isEmpty then { r with reference? := some { ref with braced := true } }
  else
    let r := r.put (env.insertion ref.name)
    if c = '$' then { r with reference? := some ⟨false, []⟩ } else { r.put [c] with reference? := none }

/-- a character outside names, escapes and single quotes -/
def bare (r : ValueReader) (c : Char) : ValueReader :=
  if c = '$' then { r with reference? := some ⟨false, []⟩ }
  else if c = '\\' then { r with escaped := true }
  else if c = '"' then { r with double := !r.double }
  else if r.double then r.put [c]
  else if c = '\'' then { r with single := true }
  else if c = ' ' || c = '\t' then { r with ending := true }
  else r.put [c]

def feed (env : Environment) (r : ValueReader) (c : Char) : Option ValueReader :=
  if r.comment then some r
  else if r.ending then
    if c = ' ' || c = '\t' then some r else if c = '#' then some { r with comment := true } else none
  else if r.escaped then (unescape? c).map fun d => { r.put [d] with escaped := false }
  else if r.single then some (if c = '\'' then { r with single := false } else r.put [c])
  else
    match r.reference? with
    | some ref => some (refer env r ref c)
    | none => some (r.bare c)

/-- the value that has been read; quotes and braces must be closed -/
def finish (env : Environment) (r : ValueReader) : Option String :=
  if r.single || r.double || r.reference?.any (·.braced) then none
  else some (String.ofList (r.out ++ (r.reference?.map fun ref => env.insertion ref.name).getD []))

end ValueReader

def value? (env : Environment) (cs : List Char) : Option String :=
  (cs.foldlM (ValueReader.feed env) ValueReader.start).bind (ValueReader.finish env)

/-! ## Lines -/

def inName (c : Char) : Bool := c.isAlphanum || c = '_' || c = '.'

/-- a variable's name at the front -/
def name? (cs : List Char) : Option (List Char × List Char) :=
  match cs with
  | [] => none
  | c :: _ => if c.isAlpha || c = '_' then some (cs.takeWhile inName, Text.trimStart (cs.dropWhile inName)) else none

def behindEquals? : List Char → Option (List Char)
  | '=' :: cs => some (Text.trimStart cs)
  | _ => none

/-- a name, and what follows its equals sign; the word `export` may stand in front -/
def assignment? (cs : List Char) : Option (List Char × List Char) := do
  let (name, rest) ← name? cs
  if name = "export".toList && (behindEquals? rest).isNone then
    let (name, rest) ← name? rest
    some (name, ← behindEquals? rest)
  else some (name, ← behindEquals? rest)

def isSkipped (cs : List Char) : Bool := cs.isEmpty || cs.head? = some '#'

/-- the variables after a line; none if it is not of the right form -/
def readLine (env : Environment) (line : List Char) : Option Environment :=
  let cs := Text.trim line
  if isSkipped cs then some env
  else do
    let (name, rest) ← assignment? cs
    let value ← if isSkipped rest then some "" else value? env rest
    some (env.supply (String.ofList name) value)

/-- the variables after lines, up to the first that is not of the right form -/
def readLines : Environment → List (List Char) → Environment
  | env, [] => env
  | env, l :: ls =>
    match readLine env l with
    | some env => readLines env ls
    | none => env

def supplyText (env : Environment) (text : String) : Environment := readLines env (text.toList.splitOn '\n')

end Environment

end ServiceMonitor
