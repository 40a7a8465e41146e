import Mathlib.Tactic
import ServiceMonitor.Agent.EventStream

/-!
The event stream line by line.

The splitter takes lines out of a buffer that grows piece by piece. Beside it stands the plain reading: put all pieces
together, split at the newlines, and read each line that has one behind it (`endedLines`).

- `items_eq`: from any state on, what the splitter yields are the lines of its buffer and of what has yet to arrive, and
  then why that broke off, if it did. No line may be too long.
- `framed_lines`: so the way in which the bytes were cut does not matter.
-/

namespace ServiceMonitor.Agent

open Json (Bytes)

/-! ## Lines -/

/-- the lines that are ended by a newline, without it; what follows the last newline is none -/
def endedLines (bs : Bytes) : List Bytes := (bs.splitOn newline).dropLast

/-- no line is longer than the limit, one that is not ended included -/
def WithinLimit (bs : Bytes) : Prop := ∀ line ∈ bs.splitOn newline, line.length ≤ maxLine

theorem newline_notMem_of_cut {bs : Bytes} (h : cut bs = none) : newline ∉ bs := by
  induction bs with
  | nil => simp
  | cons b bs ih =>
    by_cases hb : b = newline
    · simp [cut, hb] at h
    · simp only [cut, hb, if_false, Option.map_eq_none_iff] at h
      simpa [Ne.symm hb] using ih h

/-- the line that is taken off the front holds no newline -/
theorem newline_notMem_line {bs line rest : Bytes} (h : cut bs = some (line, rest)) : newline ∉ line := by
  induction bs generalizing line with
  | nil => simp [cut] at h
  | cons b bs ih =>
    by_cases hb : b = newline
    · simp only [cut, hb, if_true, Option.some.injEq, Prod.mk.injEq] at h
      simp [← h.1]
    · simp only [cut, hb, if_false, Option.map_eq_some_iff] at h
      obtain ⟨⟨l, r⟩, hc, he⟩ := h
      cases he
      simpa [Ne.symm hb] using ih hc

/-- the line that is taken off the front is the first of the lines, whatever follows -/
theorem splitOn_of_cut {bs line rest : Bytes} (h : cut bs = some (line, rest)) (more : Bytes) :
    (bs ++ more).splitOn newline = line :: (rest ++ more).splitOn newline := by
  rw [eq_of_cut h, List.append_assoc, List.cons_append,
    List.splitOn_append_cons_self_of_not_mem (newline_notMem_line h)]

theorem endedLines_of_cut {bs line rest : Bytes} (h : cut bs = some (line, rest)) (more : Bytes) :
    endedLines (bs ++ more) = line :: endedLines (rest ++ more) := by
  rw [endedLines, splitOn_of_cut h, List.dropLast_cons_of_ne_nil (List.splitOn_ne_nil _ _), endedLines]

theorem endedLines_of_notMem {bs : Bytes} (h : newline ∉ bs) : endedLines bs = [] := by
  rw [endedLines, List.splitOn_eq_singleton h]
  rfl

/-- what holds no newline is a part of the first line -/
theorem WithinLimit.length_le {bs more : Bytes} (h : WithinLimit (bs ++ more)) (hb : newline ∉ bs) :
    bs.length ≤ maxLine := by
  cases hc : cut more with
  | none =>
    have hmore := newline_notMem_of_cut hc
    have hlen := h (bs ++ more) (by rw [List.splitOn_eq_singleton (by simp [hb, hmore])]; exact List.mem_singleton_self _)
    rw [List.length_append] at hlen
    omega
  | some p =>
    obtain ⟨line, rest⟩ := p
    have hsplit : (bs ++ more).splitOn newline = (bs ++ line) :: rest.splitOn newline := by
      rw [eq_of_cut hc, ← List.append_assoc, List.splitOn_append_cons_self_of_not_mem]
      simp [hb, newline_notMem_line hc]
    have hlen := h (bs ++ line) (by rw [hsplit]; exact List.mem_cons_self)
    rw [List.length_append] at hlen
    omega

theorem WithinLimit.of_cut {bs line rest more : Bytes} (h : WithinLimit (bs ++ more)) (hc : cut bs = some (line, rest)) :
    WithinLimit (rest ++ more) := by
  intro l hl
  refine h l ?_
  rw [splitOn_of_cut hc]
  exact List.mem_cons_of_mem _ hl

/-! ## Pieces -/

/-- the bytes that arrive before the stream ends or breaks off -/
def received : List Piece → Bytes
  | .ok bytes :: ps => bytes ++ received ps
  | .error _ :: _ | [] => []

/-- what the end of the pieces yields: nothing, or why they broke off -/
def ending : List Piece → List Item
  | .ok _ :: ps => ending ps
  | .error reason :: _ => [.error (.closed reason)]
  | [] => []

theorem received_ok (chunks : List Bytes) (rest : List Piece) :
    received (chunks.map .ok ++ rest) = chunks.flatten ++ received rest := by
  induction chunks with
  | nil => rfl
  | cons c chunks ih => rw [List.map_cons, List.cons_append, received, ih, List.flatten_cons, List.append_assoc]

theorem ending_ok (chunks : List Bytes) (rest : List Piece) : ending (chunks.map .ok ++ rest) = ending rest := by
  induction chunks with
  | nil => rfl
  | cons c chunks ih => exact ih

/-! ## The splitter -/

namespace Splitter

theorem items_of_ends {s : Splitter} (h : s.step = .ends) : s.items = [] := by
  rw [items]
  split <;> simp_all

theorem items_of_goesOn {s t : Splitter} (h : s.step = .goesOn t) : s.items = t.items := by
  rw [items]
  split <;> simp_all

theorem items_of_last {s : Splitter} {item : Item} (h : s.step = .yields item none) : s.items = [item] := by
  rw [items]
  split <;> simp_all

theorem items_of_yields {s t : Splitter} {item : Item} (h : s.step = .yields item (some t)) :
    s.items = item :: t.items := by
  rw [items]
  split <;> simp_all

/-- a complete line in the buffer is read next -/
theorem items_of_cut {s : Splitter} {line rest : Bytes} (h : cut s.buffer = some (line, rest)) :
    s.items = (item? line).toList ++ items ⟨rest, s.coming⟩ := by
  cases hi : item? line with
  | none => exact items_of_goesOn (by simp only [step, h, hi])
  | some item => exact items_of_yields (by simp only [step, h, hi])

/-- **From any state on** the splitter yields what the lines still to come hold, and then why the pieces broke off. -/
theorem items_eq (s : Splitter) (h : WithinLimit (s.buffer ++ received s.coming)) :
    s.items = (endedLines (s.buffer ++ received s.coming)).filterMap item? ++ ending s.coming := by
  -- on the bytes and pieces that have not been used
  induction hn : s.size using Nat.strongRecOn generalizing s with
  | _ n ih =>
    cases hc : cut s.buffer with
    | some p =>
      obtain ⟨line, rest⟩ := p
      have hsize : size ⟨rest, s.coming⟩ < n := hn ▸ size_rest hc
      rw [items_of_cut hc, ih _ hsize ⟨rest, s.coming⟩ (h.of_cut hc) rfl, endedLines_of_cut hc, ← List.append_assoc]
      congr 1
      cases hi : item? line <;> simp [hi]
    | none =>
      have hnone := newline_notMem_of_cut hc
      have hroom : ¬maxLine < s.buffer.length := not_lt.2 (h.length_le hnone)
      obtain ⟨buffer, coming⟩ := s
      cases coming with
      | nil =>
        have hstep : step ⟨buffer, []⟩ = .ends := by simp only [step, hc, hroom, if_false]
        rw [items_of_ends hstep, received, ending, List.append_nil, List.append_nil, endedLines_of_notMem hnone]
        rfl
      | cons piece coming =>
        cases piece with
        | ok bytes =>
          have hstep : step ⟨buffer, .ok bytes :: coming⟩ = .goesOn ⟨buffer ++ bytes, coming⟩ := by
            simp only [step, hc, hroom, if_false]
          have hsame : buffer ++ received (.ok bytes :: coming) = (buffer ++ bytes) ++ received coming :=
            (List.append_assoc _ _ _).symm
          rw [hsame] at h ⊢
          rw [items_of_goesOn hstep, ih _ (hn ▸ size_of_goesOn hstep) ⟨buffer ++ bytes, coming⟩ h rfl]
          rfl
        | error reason =>
          have hstep : step ⟨buffer, .error reason :: coming⟩ = .yields (.error (.closed reason)) none := by
            simp only [step, hc, hroom, if_false]
          rw [items_of_last hstep, received, ending, List.append_nil, endedLines_of_notMem hnone]
          rfl

end Splitter

/-- **Framed by lines.** Bytes without an overlong line may arrive in any chunks, empty ones and cuts inside of a
character included:
- the stream yields what the lines hold that are ended by a newline, in order, and nothing for a blank one; then it
  ends, without a word about a line that is not ended;
- if it breaks off behind these chunks, the same items are followed by the reason, and by nothing else;
- so other chunks of the same bytes yield the same items. -/
theorem framed_lines (chunks : List Bytes) (h : WithinLimit chunks.flatten) :
    let items := (endedLines chunks.flatten).filterMap item?
    streamItems (chunks.map .ok) = items ∧
      (∀ reason rest, streamItems (chunks.map .ok ++ .error reason :: rest) = items ++ [.error (.closed reason)]) ∧
      ∀ chunks' : List Bytes, chunks'.flatten = chunks.flatten → streamItems (chunks'.map .ok) = items := by
  have hitems (cs : List Bytes) (rest : List Piece) (hcs : cs.flatten = chunks.flatten) (hrest : received rest = []) :
      streamItems (cs.map .ok ++ rest) = (endedLines chunks.flatten).filterMap item? ++ ending rest := by
    have hbytes : received (cs.map .ok ++ rest) = chunks.flatten := by
      rw [received_ok, hrest, List.append_nil, hcs]
    have heq := Splitter.items_eq ⟨[], cs.map .ok ++ rest⟩ (by rw [List.nil_append, hbytes]; exact h)
    rwa [List.nil_append, hbytes, ending_ok] at heq
  have hended (cs : List Bytes) (hcs : cs.flatten = chunks.flatten) :
      streamItems (cs.map .ok) = (endedLines chunks.flatten).filterMap item? := by
    simpa [ending] using hitems cs [] hcs rfl
  exact ⟨hended chunks rfl, fun reason rest => hitems chunks (.error reason :: rest) rfl rfl, hended⟩

/-! ## Cut inside of a character -/

/-- two services and a keepalive; a character of the first name is cut in two, and the last line is not ended -/
def torn : List Bytes :=
  let whole := Utf8.ofString
    "\x7b\"name\":\"café\",\"state\":\"up\"\x7d\n \n\x7b\"name\":\"web\",\"state\":\"down\"\x7d\n\x7b\"name"
  [whole.take 13, [], whole.drop 13]

theorem framed_lines_torn :
    WithinLimit torn.flatten ∧
      streamItems (torn.map .ok ++ [.error "reset"]) =
        [.ok ⟨"café", .running, ""⟩, .ok ⟨"web", .stopped, ""⟩, .error (.closed "reset")] := by
  have hlimit : WithinLimit torn.flatten := by
    unfold WithinLimit
    decide +kernel
  refine ⟨hlimit, ?_⟩
  rw [(framed_lines torn hlimit).2.1]
  decide +kernel

end ServiceMonitor.Agent
