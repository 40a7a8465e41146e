import ServiceMonitor.Number.Shortest

/-!
JSON values and their text.

An object keeps its members in the order they were given. `render` writes a value without blanks; strings escape the
quote, the backslash and the control characters below U+0020 and nothing else. `canonical` puts the members of every
object in the order of their names, the last one of a name standing for all.
-/

namespace ServiceMonitor

/-- a number: a whole one, a negative whole one given by its size, or a double -/
inductive Json.Number where
  | nat (n : Nat)
  | negative (n : Nat)
  | real (d : Double)
  deriving DecidableEq, Repr

inductive Json where
  | null
  | bool (b : Bool)
  | num (n : Json.Number)
  | str (s : String)
  | arr (items : List Json)
  | obj (members : List (String × Json))
  deriving Repr, Inhabited, BEq

namespace Json

/-- doubles are positional below 10^16; beyond, an exponent has a sign and two digits at least -/
def doubles : Double.Layout := ⟨-5, 15, "+", 2⟩

def Number.text : Number → String
  | .nat n => toString n
  | .negative n => "-" ++ toString n
  | .real d => doubles.text d

/-! ## Text -/

def escapeChar (c : Char) : List Char :=
  if c = '"' then ['\\', '"']
  else if c = '\\' then ['\\', '\\']
  else if c = '\n' then ['\\', 'n']
  else if c = '\r' then ['\\', 'r']
  else if c = '\t' then ['\\', 't']
  else if c = '\x08' then ['\\', 'b']
  else if c = '\x0c' then ['\\', 'f']
  else if c.toNat < 0x20 then
    ['\\', 'u', '0', '0', Nat.digitChar (c.toNat / 16), Nat.digitChar (c.toNat % 16)]
  else [c]

def renderString (s : String) : List Char := '"' :: s.toList.flatMap escapeChar ++ ['"']

mutual

def chars : Json → List Char
  | .null => "null".toList
  | .bool true => "true".toList
  | .bool false => "false".toList
  | .num n => n.text.toList
  | .str s => renderString s
  | .arr items => '[' :: itemChars items ++ [']']
  | .obj members => '{' :: memberChars members ++ ['}']

def itemChars : List Json → List Char
  | [] => []
  | [v] => chars v
  | v :: w :: vs => chars v ++ ',' :: itemChars (w :: vs)

def memberChars : List (String × Json) → List Char
  | [] => []
  | [(k, v)] => renderString k ++ ':' :: chars v
  | (k, v) :: m :: ms => renderString k ++ ':' :: chars v ++ ',' :: memberChars (m :: ms)

end

def render (v : Json) : String := String.ofList (chars v)

/-! ## Canonical form -/

/-- puts a member in its place by name; a member of that name gives way -/
def insertMember (k : String) (v : Json) : List (String × Json) → List (String × Json)
  | [] => [(k, v)]
  | (k', v') :: ms =>
    if k = k' then (k, v) :: ms
    else if k < k' then (k, v) :: (k', v') :: ms
    else (k', v') :: insertMember k v ms

/-- members in order of their names, the last of a name kept -/
def sortMembers (ms : List (String × Json)) : List (String × Json) :=
  ms.foldl (fun acc m => insertMember m.1 m.2 acc) []

mutual

/-- the value with the members of every object sorted -/
def canonical : Json → Json
  | .arr items => .arr (canonicalItems items)
  | .obj members => .obj (sortMembers (canonicalMembers members))
  | v => v

def canonicalItems : List Json → List Json
  | [] => []
  | v :: vs => canonical v :: canonicalItems vs

def canonicalMembers : List (String × Json) → List (String × Json)
  | [] => []
  | (k, v) :: ms => (k, canonical v) :: canonicalMembers ms

end

/-- the value of the first member of a name -/
def member? (k : String) : Json → Option Json
  | .obj ms => (ms.find? (fun m => m.1 == k)).map (·.2)
  | _ => none

end Json

end ServiceMonitor
