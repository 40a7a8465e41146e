import ServiceMonitor.CommandLine

/-!
The program: reads the environment, the file beside it that supplies variables, and the configuration, and tells how the start
ended.
-/

open ServiceMonitor

/-- the words of a text that could be names of variables -/
def wordsOf (text : String) : List String :=
  ((text.toList.map fun c => if Environment.inName c then c else ' ').splitOn ' ').map String.ofList

/-- the variables that the start or the supplying text may ask for -/
def surroundings (text : String) : IO Environment := do
  let mut env : Environment := []
  for name in [Net.addressVariable, Net.portVariable] ++ wordsOf text do
    if !name.isEmpty then
      if let some value ← IO.getEnv name then
        env := (name, value) :: env
  return env

/-- the text that supplies variables; empty if there is none -/
def supplyingText : IO String :=
  try IO.FS.readFile ".env" catch _ => pure ""

def bytesOf (path : String) : IO (Except Config.FileError (List UInt8)) :=
  try
    return .ok (← IO.FS.readBinFile path).toList
  catch e =>
    return .error (match e with
      | .inappropriateType _ code _ => if code = 21 then .directory else .notDirectory
      | _ => .missing)

def main (args : List String) : IO UInt32 := do
  let text ← supplyingText
  let env := (← surroundings text).supplyText text
  let file ← match CommandLine.parse none args with
    | some (.file path) => bytesOf path
    | _ => pure (.error .missing)
  let outcome := CommandLine.run args env (fun _ => file) fun e => .ok e.text
  for line in outcome.started.toList ++ outcome.report.toList do
    IO.eprintln line
  return outcome.status.toUInt32
