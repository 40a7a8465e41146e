import ServiceMonitor.Config.Check

/-!
Loading a configuration from a file: its bytes must be there, be text, be JSON of the right shape, and pass the check.

A fault is reported as a headline and, except where the check failed, a cause.
-/

namespace ServiceMonitor.Config

open Json (Bytes)

/-- why a file's bytes cannot be had -/
inductive FileError where
  | missing
  | directory
  | notDirectory
  deriving DecidableEq, Repr

def FileError.message : FileError → String
  | .missing => "No such file or directory (os error 2)"
  | .directory => "Is a directory (os error 21)"
  | .notDirectory => "Not a directory (os error 20)"

/-- why a configuration was not loaded -/
inductive LoadError where
  | unreadable (e : FileError)
  | notText
  | malformed (e : Json.Error)
  | refused (e : ConfigError)
  deriving DecidableEq, Repr

namespace LoadError

def headline (path : String) : LoadError → String
  | .unreadable _ | .notText => "failed to read " ++ path
  | .malformed _ => "Invalid configuration file provided!"
  | .refused e => e.message

def cause? : LoadError → Option String
  | .unreadable e => some e.message
  | .notText => some "stream did not contain valid UTF-8"
  | .malformed e => some e.message
  | .refused _ => none

/-- headline and cause in one line -/
def chain (path : String) (e : LoadError) : String :=
  e.headline path ++ (e.cause?.map fun c => ": " ++ c).getD ""

end LoadError

def load (file : Except FileError Bytes) : Except LoadError Settings :=
  match file with
  | .error e => .error (.unreadable e)
  | .ok bytes =>
    if (Utf8.decode bytes).isNone then .error .notText
    else
      match Json.decode Settings.reader bytes with
      | .error e => .error (.malformed e)
      | .ok s =>
        match s.check with
        | .error e => .error (.refused e)
        | .ok _ => .ok s

end ServiceMonitor.Config
