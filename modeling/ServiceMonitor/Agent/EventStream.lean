import ServiceMonitor.Agent.Service
import ServiceMonitor.Error
import ServiceMonitor.Text.Blank

/-!
The event stream of an agent: one service per line, blank lines in between to keep the connection alive.

Bytes arrive in pieces of any size. A splitter holds what it has not yet used; at each step it takes a complete line out, or
gives up because it holds more than a line may have, or takes the next piece. A line yields the service in it or the
reason why it holds none; a blank one yields nothing. What is left when the bytes end yields nothing either.
-/

namespace ServiceMonitor.Agent

open Json (Bytes)

abbrev Item := Except SubscriptionError Observation

/-- a piece of the stream, or the reason why it broke off -/
abbrev Piece := Except String Bytes

def newline : UInt8 := 0x0A

def maxLine : Nat := 65536

/-! ## Lines -/

/-- the first line, without its end, and what follows it -/
def cut : Bytes → Option (Bytes × Bytes)
  | [] => none
  | b :: bs => if b = newline then some ([], bs) else (cut bs).map fun p => (b :: p.1, p.2)

theorem eq_of_cut {bs line rest : Bytes} (h : cut bs = some (line, rest)) : bs = line ++ newline :: rest := by
  induction bs generalizing line with
  | nil => simp [cut] at h
  | cons b bs ih =>
    by_cases hb : b = newline
    · simp [cut, hb] at h
      simp [hb, ← h.1, h.2]
    · simp only [cut, hb, if_false, Option.map_eq_some_iff] at h
      obtain ⟨⟨l, r⟩, hc, he⟩ := h
      cases he
      simpa using ih hc

def item? (line : Bytes) : Option Item :=
  match Text.trim (Utf8.decodeLossy line) with
  | [] => none
  | text =>
    match Service.ofBytes (Utf8.encode text) with
    | .ok s => some (.ok s.observation)
    | .error e => some (.error (.closed ("invalid event: " ++ e.message)))

/-- what a line beyond the limit yields -/
def overlong : Item := .error (.closed ("event line exceeds " ++ toString maxLine ++ " bytes"))

/-! ## The splitter -/

/-- what it holds, and what has yet to arrive -/
structure Splitter where
  buffer : Bytes
  coming : List Piece

inductive Step where
  /-- an item, and where it goes on; with none the stream is over -/
  | yields (item : Item) (next : Option Splitter)
  | goesOn (next : Splitter)
  | ends

namespace Splitter

def step (s : Splitter) : Step :=
  match cut s.buffer with
  | some (line, rest) =>
    match item? line with
    | some item => .yields item (some ⟨rest, s.coming⟩)
    | none => .goesOn ⟨rest, s.coming⟩
  | none =>
    if maxLine < s.buffer.length then .yields overlong none
    else
      match s.coming with
      | .ok bytes :: coming => .goesOn ⟨s.buffer ++ bytes, coming⟩
      | .error reason :: _ => .yields (.error (.closed reason)) none
      | [] => .ends

/-- pieces that have not been used, and their bytes -/
def waiting : List Piece → Nat
  | [] => 0
  | .ok bytes :: ps => bytes.length + 1 + waiting ps
  | .error _ :: ps => 1 + waiting ps

/-- bytes and pieces that have not been used -/
def size (s : Splitter) : Nat := s.buffer.length + waiting s.coming

theorem size_rest {s : Splitter} {line rest : Bytes} (h : cut s.buffer = some (line, rest)) :
    size ⟨rest, s.coming⟩ < s.size := by
  have := congrArg List.length (eq_of_cut h)
  simp only [List.length_append, List.length_cons] at this
  simp only [size]
  omega

theorem size_of_goesOn {s t : Splitter} (h : s.step = .goesOn t) : t.size < s.size := by
  unfold step at h
  split at h
  · next line rest hc =>
    split at h
    · cases h
    · cases h; exact size_rest hc
  · split at h
    · cases h
    · split at h
      · next bytes coming he =>
        cases h
        simp only [size, he, waiting, List.length_append]
        omega
      · cases h
      · cases h

theorem size_of_yields {s t : Splitter} {item : Item} (h : s.step = .yields item (some t)) : t.size < s.size := by
  unfold step at h
  split at h
  · next line rest hc =>
    split at h
    · cases h; exact size_rest hc
    · cases h
  · split at h
    · cases h
    · split at h <;> cases h

/-- all that the stream yields from here on -/
def items (s : Splitter) : List Item :=
  match _h : s.step with
  | .ends => []
  | .goesOn t => t.items
  | .yields item none => [item]
  | .yields item (some t) => item :: t.items
termination_by s.size
decreasing_by
  · exact size_of_goesOn _h
  · exact size_of_yields _h

end Splitter

def streamItems (pieces : List Piece) : List Item := Splitter.items ⟨[], pieces⟩

end ServiceMonitor.Agent
