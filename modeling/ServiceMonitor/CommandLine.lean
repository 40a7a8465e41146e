import ServiceMonitor.Config.File
import ServiceMonitor.Environment

/-!
The command line: what it asks for, and how a start ends.

One option names the configuration file, and has to be there once. A start that fails says why and leaves with status 1; a
command line that cannot be understood leaves with status 2.
-/

namespace ServiceMonitor.CommandLine

open Config (FileError LoadError Settings)
open Json (Bytes)

/-! ## What is asked for -/

inductive Request where
  | help
  | file (path : String)
  deriving DecidableEq, Repr

/-- a word that can be an option's value: a hyphen in front makes it an option of its own -/
def isValue (word : String) : Bool :=
  match word.toList with
  | '-' :: _ :: _ => false
  | _ => true

/-- a value written together with its option, maybe behind an equals sign -/
def attached : List Char → String
  | '=' :: cs => String.ofList cs
  | cs => String.ofList cs

/-- what words ask for, where a file may have been named before; none if they cannot be understood -/
def parse : Option String → List String → Option Request
  | file?, [] => file?.map .file
  | file?, word :: words =>
    match word.toList with
    | ['-', '-'] => if words.isEmpty then file?.map .file else none
    | '-' :: '-' :: name => if name = "help".toList then some .help else none
    | '-' :: 'h' :: _ => some .help
    | ['-', 'f'] =>
      match words with
      | value :: words => if isValue value && file?.isNone then parse (some value) words else none
      | [] => none
    | '-' :: 'f' :: cs => if file?.isNone then parse (some (attached cs)) words else none
    | _ => none

/-! ## How a start ends -/

structure Outcome where
  status : Nat
  started : Option String
  report : Option String
  deriving DecidableEq, Repr

/-- a text whose further lines are set in as far as the first -/
def setIn (cs : List Char) : List Char :=
  cs.flatMap fun c => if c = '\n' then "\n    ".toList else [c]

def report (headline : String) (cause? : Option String) : String :=
  "Error: " ++ headline
    ++ (cause?.map fun c => "\n\nCaused by:\n    " ++ String.ofList (setIn c.toList)).getD ""

def failed (headline : String) (cause? : Option String) : Outcome := ⟨1, none, some (report headline cause?)⟩

def startLine (s : Settings) (address : String) : String :=
  "monitoring " ++ toString s.hosts.length ++ " host(s), " ++ toString s.backends.length
    ++ " notifier(s), streaming on ws://" ++ address ++ "/api/v1/stream"

def endpoint (s : Settings) (env : Environment) : Net.Endpoint :=
  Net.listenOn s.api.bind (env.get? Net.addressVariable) (env.get? Net.portVariable)

/-- starts with a loaded configuration; `listen` gives the address that the server got, or why it got none -/
def start (env : Environment) (listen : Net.Endpoint → Except String String) (s : Settings) : Outcome :=
  match listen (endpoint s env) with
  | .ok address => ⟨0, some (startLine s address), none⟩
  | .error reason => failed reason none

def run (words : List String) (env : Environment) (files : String → Except FileError Bytes)
    (listen : Net.Endpoint → Except String String) : Outcome :=
  match parse none words with
  | none => ⟨2, none, none⟩
  | some .help => ⟨0, none, none⟩
  | some (.file path) =>
    match Config.load (files path) with
    | .error e => failed (e.headline path) e.cause?
    | .ok s => start env listen s

end ServiceMonitor.CommandLine
