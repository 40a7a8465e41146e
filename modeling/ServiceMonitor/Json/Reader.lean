import ServiceMonitor.Json.Scan

/-!
Reading typed values straight off a JSON text.

A reader gets the number of levels that may still be opened and the bytes, and returns what it read and the bytes
left. Nothing is read ahead, so of two faults in a text the first one in reading order is reported.

`value` reads any value, `skip` passes over one and checks less: neither the size of numbers, nor the characters of
strings, nor how deep it goes. `record` describes a structure by its fields and reads it from an object or, in the
order of the fields, from an array.
-/

namespace ServiceMonitor.Json

/-- opening this many levels is too many -/
def maxDepth : Nat := 128

/-- reads one value: levels left, bytes, value and bytes left -/
abbrev Reader (α : Type) := Nat → Bytes → Except Error (α × Bytes)

/-! ## Passing over a value -/

/-- a bracket or a brace that is still open -/
inductive Frame where
  | bracket
  | brace
  deriving DecidableEq, Repr

/-- at the end of the text inside a frame -/
def Frame.atEnd : Frame → Error
  | .bracket => .eofList
  | .brace => .eofObject

/-- without the comma or the closing sign of a frame -/
def Frame.noComma : Frame → Error
  | .bracket => .expectedCommaOrBracket
  | .brace => .expectedCommaOrBrace

def Frame.close : Frame → UInt8
  | .bracket => 0x5D
  | .brace => 0x7D

/-- passes over the name of a member and its colon, if the frame is an object -/
def skipName (f : Frame) (bs : Bytes) : Except Error Bytes :=
  match f with
  | .bracket => .ok bs
  | .brace =>
    match skipBlank bs with
    | [] => .error .eofObject
    | b :: r =>
      if b = 0x22 then do
        let (_, r) ← skipString (r.length + 1) r
        match skipBlank r with
        | [] => .error .eofObject
        | c :: r => if c = 0x3A then .ok r else .error .expectedColon
      else .error .keyNotString

mutual

def skipValue : Nat → List Frame → Bytes → Except Error Bytes
  | 0, _, _ => .error .eofValue
  | fuel + 1, open_, bs =>
    match skipBlank bs with
    | [] => .error .eofValue
    | b :: r =>
      if b = 0x5B then skipRest fuel .bracket open_ false r
      else if b = 0x7B then skipRest fuel .brace open_ false r
      else
        let scalar : Except Error (Unit × Bytes) :=
          if b = 0x6E then restOfNull r
          else if b = 0x74 then restOfTrue r
          else if b = 0x66 then restOfFalse r
          else if b = 0x2D then skipNumber r
          else if isDigitByte b then skipNumber (b :: r)
          else if b = 0x22 then skipString (r.length + 1) r
          else .error .expectedValue
        match scalar, open_ with
        | .error e, _ => .error e
        | .ok (_, r), [] => .ok r
        | .ok (_, r), f :: fs => skipRest fuel f fs true r

/-- passes over what is left of frame `f`: `comma` tells whether an item stands before -/
def skipRest : Nat → Frame → List Frame → Bool → Bytes → Except Error Bytes
  | 0, f, _, _, _ => .error f.atEnd
  | fuel + 1, f, fs, comma, bs =>
    match skipBlank bs with
    | [] => .error f.atEnd
    | b :: r =>
      if comma && b = 0x2C then
        match skipName f r with
        | .ok r => skipValue fuel (f :: fs) r
        | .error e => .error e
      else if b = f.close then
        match fs with
        | [] => .ok r
        | g :: gs => skipRest fuel g gs true r
      else if comma then .error f.noComma
      else
        match skipName f (b :: r) with
        | .ok r => skipValue fuel (f :: fs) r
        | .error e => .error e

end

def skip (bs : Bytes) : Except Error Bytes := skipValue (2 * bs.length + 2) [] bs

/-! ## Items and members -/

/-- whether another item follows, at the end of the array or before its next item; `first` before the first -/
def nextItem (first : Bool) (bs : Bytes) : Except Error (Bool × Bytes) :=
  match skipBlank bs with
  | [] => .error .eofList
  | b :: r =>
    if b = 0x5D then .ok (false, b :: r)
    else if first then .ok (true, b :: r)
    else if b = 0x2C then
      match skipBlank r with
      | [] => .error .eofValue
      | c :: r => if c = 0x5D then .error .trailingComma else .ok (true, c :: r)
    else .error .expectedCommaOrBracket

/-- whether another member follows; its name's quote is consumed -/
def nextMember (first : Bool) (bs : Bytes) : Except Error (Bool × Bytes) :=
  match skipBlank bs with
  | [] => .error .eofObject
  | b :: r =>
    if b = 0x7D then .ok (false, b :: r)
    else if first then
      if b = 0x22 then .ok (true, r) else .error .keyNotString
    else if b = 0x2C then
      match skipBlank r with
      | [] => .error .eofValue
      | c :: r =>
        if c = 0x22 then .ok (true, r)
        else if c = 0x7D then .error .trailingComma
        else .error .keyNotString
    else .error .expectedCommaOrBrace

def colon (bs : Bytes) : Except Error Bytes :=
  match skipBlank bs with
  | [] => .error .eofObject
  | b :: r => if b = 0x3A then .ok r else .error .expectedColon

/-- the closing bracket, where more items may stand that were not asked for -/
def endArray (bs : Bytes) : Except Error Bytes :=
  match skipBlank bs with
  | [] => .error .eofList
  | b :: r =>
    if b = 0x5D then .ok r
    else if b = 0x2C then
      match skipBlank r with
      | c :: _ => if c = 0x5D then .error .trailingComma else .error .trailingCharacters
      | [] => .error .trailingCharacters
    else .error .trailingCharacters

def endObject (bs : Bytes) : Except Error Bytes :=
  match skipBlank bs with
  | [] => .error .eofObject
  | b :: r =>
    if b = 0x7D then .ok r
    else if b = 0x2C then .error .trailingComma
    else .error .trailingCharacters

/-- goes through the members up to the closing brace; `step` gets a name and the bytes behind it -/
def foldMembers {σ : Type} (step : σ → String → Bytes → Except Error (σ × Bytes)) :
    Nat → Bool → σ → Bytes → Except Error (σ × Bytes)
  | 0, _, _, _ => .error .eofObject
  | fuel + 1, first, s, bs => do
    let (more, r) ← nextMember first bs
    if more then
      let (name, r) ← string r
      let (s, r) ← step s name r
      foldMembers step fuel false s r
    else .ok (s, r)

def foldItems {σ : Type} (step : σ → Bytes → Except Error (σ × Bytes)) :
    Nat → Bool → σ → Bytes → Except Error (σ × Bytes)
  | 0, _, _, _ => .error .eofList
  | fuel + 1, first, s, bs => do
    let (more, r) ← nextItem first bs
    if more then
      let (s, r) ← step s r
      foldItems step fuel false s r
    else .ok (s, r)

/-! ## Any value -/

/-- reads any value; members keep their order and their repetitions -/
def valueWith : Nat → Reader Json
  | 0, _, _ => .error .eofValue
  | fuel + 1, depth, bs =>
    match skipBlank bs with
    | [] => .error .eofValue
    | b :: r =>
      if b = 0x6E then do let (_, r) ← restOfNull r; .ok (.null, r)
      else if b = 0x74 then do let (_, r) ← restOfTrue r; .ok (.bool true, r)
      else if b = 0x66 then do let (_, r) ← restOfFalse r; .ok (.bool false, r)
      else if b = 0x2D then do let (n, r) ← number false r; .ok (.num n, r)
      else if isDigitByte b then do let (n, r) ← number true (b :: r); .ok (.num n, r)
      else if b = 0x22 then do let (s, r) ← string r; .ok (.str s, r)
      else if b = 0x5B then
        if depth ≤ 1 then .error .recursionLimit
        else do
          let (items, r) ← foldItems
            (fun acc r => do let (v, r) ← valueWith fuel (depth - 1) r; .ok (v :: acc, r)) (r.length + 1) true [] r
          let r ← endArray r
          .ok (.arr items.reverse, r)
      else if b = 0x7B then
        if depth ≤ 1 then .error .recursionLimit
        else do
          let (members, r) ← foldMembers
            (fun acc name r => do
              let r ← colon r
              let (v, r) ← valueWith fuel (depth - 1) r
              .ok ((name, v) :: acc, r)) (r.length + 1) true [] r
          let r ← endObject r
          .ok (.obj members.reverse, r)
      else .error .expectedValue

/-- reads any value; a level is opened at each step, so the levels left bound the steps -/
def value : Reader Json := fun depth bs => valueWith (depth + 1) depth bs

/-! ## What stands there instead -/

/-- the fault of finding something else than `expected`; a broken value is a fault of its own -/
def mismatch (expected : String) (bs : Bytes) : Error :=
  let of {α : Type} (f : α → Found) : Except Error (α × Bytes) → Error
    | .ok (v, _) => .invalidType (f v) expected
    | .error e => e
  match bs with
  | [] => .eofValue
  | b :: r =>
    if b = 0x6E then of (fun _ => .null) (restOfNull r)
    else if b = 0x74 then of (fun _ => .bool true) (restOfTrue r)
    else if b = 0x66 then of (fun _ => .bool false) (restOfFalse r)
    else if b = 0x2D then of .num (number false r)
    else if isDigitByte b then of .num (number true (b :: r))
    else if b = 0x22 then of .str (string r)
    else if b = 0x5B then .invalidType .sequence expected
    else if b = 0x7B then .invalidType .map expected
    else .expectedValue

/-! ## Scalars -/

def text (expected : String) : Reader String := fun _ bs =>
  match skipBlank bs with
  | [] => .error .eofValue
  | b :: r => if b = 0x22 then string r else .error (mismatch expected (b :: r))

def anyString : Reader String := text "a string"

/-- a string that another reader takes further -/
def parsed {α : Type} (expected : String) (parse : String → Except String α) : Reader α := fun depth bs => do
  let (s, r) ← text expected depth bs
  match parse s with
  | .ok v => .ok (v, r)
  | .error message => .error (.custom message)

def boolean : Reader Bool := fun _ bs =>
  match skipBlank bs with
  | [] => .error .eofValue
  | b :: r =>
    if b = 0x74 then do let (_, r) ← restOfTrue r; .ok (true, r)
    else if b = 0x66 then do let (_, r) ← restOfFalse r; .ok (false, r)
    else .error (mismatch "a boolean" (b :: r))

/-- a whole number that fits a word -/
def word : Reader Nat := fun _ bs =>
  let take : Except Error (Number × Bytes) → Except Error (Nat × Bytes)
    | .ok (.nat n, r) => .ok (n, r)
    | .ok (.negative n, _) => .error (.invalidValue (.num (.negative n)) "usize")
    | .ok (n, _) => .error (.invalidType (.num n) "usize")
    | .error e => .error e
  match skipBlank bs with
  | [] => .error .eofValue
  | b :: r =>
    if b = 0x2D then take (number false r)
    else if isDigitByte b then take (number true (b :: r))
    else .error (mismatch "usize" (b :: r))

def optional {α : Type} (read : Reader α) : Reader (Option α) := fun depth bs =>
  match skipBlank bs with
  | [] => do let (v, r) ← read depth []; .ok (some v, r)
  | b :: r =>
    if b = 0x6E then do let (_, r) ← restOfNull r; .ok (none, r)
    else do let (v, r) ← read depth (b :: r); .ok (some v, r)

def listOf {α : Type} (read : Reader α) : Reader (List α) := fun depth bs =>
  match skipBlank bs with
  | [] => .error .eofValue
  | b :: r =>
    if b = 0x5B then
      if depth ≤ 1 then .error .recursionLimit
      else do
        let (items, r) ← foldItems
          (fun acc r => do let (v, r) ← read (depth - 1) r; .ok (v :: acc, r)) (r.length + 1) true [] r
        let r ← endArray r
        .ok (items.reverse, r)
    else .error (mismatch "a sequence" (b :: r))

/-! ## Variants -/

def lookup {α : Type} (known : List (String × α)) (name : String) : Except Error α :=
  match known.find? (fun k => k.1 == name) with
  | some (_, v) => .ok v
  | none => .error (.unknownVariant name (known.map (·.1)))

/-- one of several shapes: a name alone, or an object of one member whose name tells the shape and whose value holds
its contents -/
def variant {α : Type} (known : List (String × (Reader α))) (bare : String → Except Error α) : Reader α :=
  fun depth bs =>
    match skipBlank bs with
    | [] => .error .eofValue
    | b :: r =>
      if b = 0x7B then
        if depth ≤ 1 then .error .recursionLimit
        else do
          let (name, r) ← text "variant identifier" (depth - 1) r
          let read ← lookup known name
          let r ← colon r
          let (v, r) ← read (depth - 1) r
          match skipBlank r with
          | [] => .error .eofObject
          | c :: r => if c = 0x7D then .ok (v, r) else .error .expectedValue
      else if b = 0x22 then do
        let (name, r) ← string r
        let _ ← lookup known name
        let v ← bare name
        .ok (v, r)
      else .error .expectedValue

def unit : Reader Unit := fun _ bs =>
  match skipBlank bs with
  | [] => .error .eofValue
  | b :: r => if b = 0x6E then restOfNull r else .error (mismatch "unit" (b :: r))

/-- one of several names; as an object's only member with the value `null` a name is accepted too -/
def oneOf {α : Type} (known : List (String × α)) : Reader α :=
  variant
    (known.map fun (name, v) => (name, fun depth bs => do let (_, r) ← unit depth bs; .ok (v, r)))
    (lookup known)

/-! ## Records -/

/-- what is done about a field that is left out -/
inductive Absent (α : Type) where
  /-- it must be there -/
  | required
  /-- an object may leave it out, an array not -/
  | optional
  /-- both may leave it out, and then it gets a value -/
  | default (set : α → α)

/-- a field of a record: its name, a reader that puts what it reads into the record, and what its absence means -/
structure Field (α : Type) where
  name : String
  read : Nat → α → Bytes → Except Error (α × Bytes)
  absent : Absent α

/-- a field read by `r` and set by `set` -/
def Field.of {α β : Type} (name : String) (r : Reader β) (set : β → α → α) (absent : Absent α) : Field α :=
  ⟨name, fun depth a bs => do let (v, bs) ← r depth bs; .ok (set v a, bs), absent⟩

def structName (name : String) : String := "struct " ++ name

def withElements (name : String) (n : Nat) : String :=
  structName name ++ " with " ++ toString n ++ (if n = 1 then " element" else " elements")

/-- the fields that no member of the object gave, in order -/
def fillAbsent {α : Type} : List (Field α) → List String → α → Except Error α
  | [], _, a => .ok a
  | f :: fs, seen, a =>
    if seen.contains f.name then fillAbsent fs seen a
    else
      match f.absent with
      | .required => .error (.missingField f.name)
      | .optional => fillAbsent fs seen a
      | .default set => fillAbsent fs seen (set a)

/-- one member of an object: a field at most once, members of other names are passed over -/
def readMember {α : Type} (fields : List (Field α)) (depth : Nat) (s : List String × α) (name : String) (bs : Bytes) :
    Except Error ((List String × α) × Bytes) :=
  match fields.find? (fun f => f.name == name) with
  | some f =>
    if s.1.contains name then .error (.duplicateField name)
    else do
      let bs ← colon bs
      let (a, bs) ← f.read depth s.2 bs
      .ok ((name :: s.1, a), bs)
  | none => do
    let bs ← colon bs
    let bs ← skip bs
    .ok (s, bs)

/-- the items of an array, one for each field in order -/
def readItems {α : Type} (size : String) (depth : Nat) :
    List (Field α) → Nat → α → Bytes → Except Error (α × Bytes)
  | [], _, a, bs => .ok (a, bs)
  | f :: fs, i, a, bs => do
    let (more, bs) ← nextItem (i = 0) bs
    if more then
      let (a, bs) ← f.read depth a bs
      readItems size depth fs (i + 1) a bs
    else
      match f.absent with
      | .default set => readItems size depth fs (i + 1) (set a) bs
      | _ => .error (.invalidLength i size)

/-- a record, as an object or as an array of its fields; `blank` is what the fields are put into -/
def record {α : Type} (name : String) (fields : List (Field α)) (blank : α) : Reader α := fun depth bs =>
  match skipBlank bs with
  | [] => .error .eofValue
  | b :: r =>
    if b = 0x7B then
      if depth ≤ 1 then .error .recursionLimit
      else do
        let ((seen, a), r) ← foldMembers (readMember fields (depth - 1)) (r.length + 1) true ([], blank) r
        let a ← fillAbsent fields seen a
        let r ← endObject r
        .ok (a, r)
    else if b = 0x5B then
      if depth ≤ 1 then .error .recursionLimit
      else do
        let (a, r) ← readItems (withElements name fields.length) (depth - 1) fields 0 blank r
        let r ← endArray r
        .ok (a, r)
    else .error (mismatch (structName name) (b :: r))

/-! ## Whole texts -/

/-- reads a text that holds one value and nothing else -/
def decode {α : Type} (read : Reader α) (bs : Bytes) : Except Error α := do
  let (v, r) ← read maxDepth bs
  if (skipBlank r).isEmpty then .ok v else .error .trailingCharacters

def ofString? (s : String) : Except Error Json := decode value (Utf8.ofString s)

end ServiceMonitor.Json
