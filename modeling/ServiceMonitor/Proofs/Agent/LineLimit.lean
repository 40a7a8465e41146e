import ServiceMonitor.Proofs.Agent.Framing

/-!
The event stream and lines beyond the limit.

The splitter measures what it holds when it has taken out every complete line and before it takes the next piece. So a
line is refused where a piece ends in it beyond the limit, and one whose rest arrives together with its end is read like
any other.

- `items_taken`: from any state on, the splitter reads the ended lines of the bytes that it takes (`taken`), and says
  how that ended.
- `line_limit`: where a piece ends in the first overlong line beyond the limit, that line is where the stream ends.
- `overlong_line_read`: elsewhere it is not.
-/

namespace ServiceMonitor.Agent

open Json (Bytes)

/-! ## The line that is not ended -/

/-- what stands behind the last newline -/
def unended (bs : Bytes) : Bytes := (bs.splitOn newline).getLast (List.splitOn_ne_nil _ _)

/-- the line that is not ended is beyond the limit -/
def overfull (bs : Bytes) : Bool := maxLine < (unended bs).length

/-- the lines in front of the first one that is beyond the limit -/
def soundLines (bs : Bytes) : List Bytes := (bs.splitOn newline).takeWhile (·.length ≤ maxLine)

theorem splitOn_behind {line : Bytes} (h : newline ∉ line) (rest : Bytes) :
    (line ++ newline :: rest).splitOn newline = line :: rest.splitOn newline :=
  List.splitOn_append_cons_self_of_not_mem h rest

theorem endedLines_behind {line : Bytes} (h : newline ∉ line) (rest : Bytes) :
    endedLines (line ++ newline :: rest) = line :: endedLines rest := by
  rw [endedLines, splitOn_behind h, List.dropLast_cons_of_ne_nil (List.splitOn_ne_nil _ _), endedLines]

theorem unended_behind {line : Bytes} (h : newline ∉ line) (rest : Bytes) :
    unended (line ++ newline :: rest) = unended rest := by
  simp only [unended, splitOn_behind h, List.getLast_cons (List.splitOn_ne_nil newline rest)]

theorem overfull_behind {line : Bytes} (h : newline ∉ line) (rest : Bytes) :
    overfull (line ++ newline :: rest) = overfull rest := by
  rw [overfull, unended_behind h, overfull]

theorem unended_of_notMem {bs : Bytes} (h : newline ∉ bs) : unended bs = bs := by
  simp only [unended, List.splitOn_eq_singleton h, List.getLast_singleton]

/-- bytes without a newline belong to the first line -/
theorem first_line {bs : Bytes} (h : newline ∉ bs) (more : Bytes) :
    ∃ tail lines, (bs ++ more).splitOn newline = (bs ++ tail) :: lines := by
  cases hc : cut more with
  | none =>
    refine ⟨more, [], List.splitOn_eq_singleton ?_⟩
    simp [h, newline_notMem_of_cut hc]
  | some p =>
    obtain ⟨line, rest⟩ := p
    refine ⟨line, rest.splitOn newline, ?_⟩
    rw [eq_of_cut hc, ← List.append_assoc]
    exact splitOn_behind (by simp [h, newline_notMem_line hc]) rest

/-- **What follows** changes no line that is ended, and only adds to the one that is not. -/
theorem lines_append (bs more : Bytes) :
    ∃ tail lines, (bs ++ more).splitOn newline = endedLines bs ++ (unended bs ++ tail) :: lines := by
  induction hn : bs.length using Nat.strongRecOn generalizing bs with
  | _ n ih =>
    cases hc : cut bs with
    | none =>
      have hbs := newline_notMem_of_cut hc
      rw [endedLines_of_notMem hbs, unended_of_notMem hbs]
      exact first_line hbs more
    | some p =>
      obtain ⟨line, rest⟩ := p
      have hline := newline_notMem_line hc
      obtain rfl := eq_of_cut hc
      have hshort : rest.length < n := by
        rw [← hn]
        simp only [List.length_append, List.length_cons]
        omega
      obtain ⟨tail, lines, hrest⟩ := ih rest.length hshort rest rfl
      refine ⟨tail, lines, ?_⟩
      rw [endedLines_behind hline, unended_behind hline, List.append_assoc, List.cons_append, splitOn_behind hline,
        hrest]
      rfl

theorem endedLines_subset (bs more : Bytes) : endedLines bs ⊆ endedLines (bs ++ more) := by
  intro line hline
  obtain ⟨tail, lines, heq⟩ := lines_append bs more
  rw [endedLines, heq, List.dropLast_append_of_ne_nil (List.cons_ne_nil _ _)]
  exact List.mem_append_left _ hline

/-- where the line that is not ended is the first one beyond the limit, the sound ones are those that are -/
theorem soundLines_of_overfull {bs : Bytes} (hfull : overfull bs = true)
    (hsound : ∀ line ∈ endedLines bs, line.length ≤ maxLine) (more : Bytes) :
    soundLines (bs ++ more) = endedLines bs := by
  obtain ⟨tail, lines, heq⟩ := lines_append bs more
  have hover : ¬(unended bs ++ tail).length ≤ maxLine := by
    simp only [overfull, decide_eq_true_eq] at hfull
    rw [List.length_append]
    omega
  rw [soundLines, heq, List.takeWhile_append_of_pos (by simpa using hsound),
    List.takeWhile_cons_of_neg (by simpa using hover), List.append_nil]

/-! ## What the splitter takes -/

/-- the bytes that are taken behind those held, and what is yielded when that ends: a line beyond the limit is
refused, the pieces break off, or there are none any more -/
def taken (bs : Bytes) (pieces : List Piece) : Bytes × List Item :=
  if overfull bs then (bs, [overlong])
  else
    match pieces with
    | .ok chunk :: rest => taken (bs ++ chunk) rest
    | .error reason :: _ => (bs, [.error (.closed reason)])
    | [] => (bs, [])

theorem taken_of_overfull {bs : Bytes} (h : overfull bs = true) (pieces : List Piece) :
    taken bs pieces = (bs, [overlong]) := by
  unfold taken
  rw [if_pos h]

/-- a line in front is taken with the rest, and changes nothing else -/
theorem taken_behind {line : Bytes} (h : newline ∉ line) (rest : Bytes) (pieces : List Piece) :
    taken (line ++ newline :: rest) pieces = (line ++ newline :: (taken rest pieces).1, (taken rest pieces).2) := by
  induction pieces generalizing rest with
  | nil =>
    simp only [taken, overfull_behind h]
    split <;> rfl
  | cons piece pieces ih =>
    by_cases hfull : overfull rest = true
    · rw [taken_of_overfull hfull, taken_of_overfull (by rw [overfull_behind h]; exact hfull)]
    · cases piece with
      | ok chunk =>
        simp only [taken, overfull_behind h, hfull, List.append_assoc, List.cons_append, ih]
        rfl
      | error reason =>
        simp only [taken, overfull_behind h, hfull]
        rfl

/-- where the line that is not ended is beyond the limit, the pieces are taken up to the first place where it is -/
theorem taken_of_later {bs : Bytes} {chunks : List Bytes} (h : overfull (bs ++ chunks.flatten) = true)
    (rest : List Piece) :
    ∃ sooner later, chunks = sooner ++ later ∧ overfull (bs ++ sooner.flatten) = true ∧
      taken bs (chunks.map .ok ++ rest) = (bs ++ sooner.flatten, [overlong]) := by
  by_cases hfull : overfull bs = true
  · refine ⟨[], chunks, rfl, ?_, ?_⟩
    · rw [List.flatten_nil, List.append_nil]
      exact hfull
    · rw [taken_of_overfull hfull, List.flatten_nil, List.append_nil]
  · induction chunks generalizing bs with
    | nil =>
      rw [List.flatten_nil, List.append_nil] at h
      exact absurd h hfull
    | cons chunk chunks ih =>
      rw [List.flatten_cons, ← List.append_assoc] at h
      have hstep : taken bs ((chunk :: chunks).map .ok ++ rest) = taken (bs ++ chunk) (chunks.map .ok ++ rest) := by
        rw [List.map_cons, List.cons_append, taken, if_neg hfull]
      rw [hstep]
      by_cases hnext : overfull (bs ++ chunk) = true
      · refine ⟨[chunk], chunks, rfl, ?_, ?_⟩
        · simpa using hnext
        · rw [taken_of_overfull hnext, List.flatten_singleton]
      · obtain ⟨sooner, later, rfl, hsooner, htaken⟩ := ih h hnext
        refine ⟨chunk :: sooner, later, rfl, ?_, ?_⟩
        · rw [List.flatten_cons, ← List.append_assoc]
          exact hsooner
        · rw [htaken, List.flatten_cons, ← List.append_assoc]

/-- where it never is, all pieces are taken -/
theorem taken_of_never {bs : Bytes} {chunks : List Bytes}
    (h : ∀ sooner, sooner <+: chunks → overfull (bs ++ sooner.flatten) = false) :
    taken bs (chunks.map .ok) = (bs ++ chunks.flatten, []) := by
  have hbs : overfull bs = false := by simpa using h [] List.nil_prefix
  induction chunks generalizing bs with
  | nil => simp [taken, hbs]
  | cons chunk chunks ih =>
    have hlater : ∀ sooner, sooner <+: chunks → overfull (bs ++ chunk ++ sooner.flatten) = false := by
      intro sooner hsooner
      have := h (chunk :: sooner) (List.cons_prefix_cons.2 ⟨rfl, hsooner⟩)
      rwa [List.flatten_cons, ← List.append_assoc] at this
    rw [List.map_cons, taken, if_neg (by simp [hbs]), List.flatten_cons, ← List.append_assoc]
    exact ih hlater (by simpa using hlater [] List.nil_prefix)

namespace Splitter

/-- what the splitter does with a buffer that holds no complete line -/
theorem step_of_notMem {s : Splitter} (hc : cut s.buffer = none) :
    s.step =
      if overfull s.buffer then .yields overlong none
      else
        match s.coming with
        | .ok bytes :: coming => .goesOn ⟨s.buffer ++ bytes, coming⟩
        | .error reason :: _ => .yields (.error (.closed reason)) none
        | [] => .ends := by
  have hsame : overfull s.buffer = decide (maxLine < s.buffer.length) := by
    rw [overfull, unended_of_notMem (newline_notMem_of_cut hc)]
  unfold step
  rw [hc, hsame]
  by_cases hfull : maxLine < s.buffer.length
  · exact (if_pos hfull).trans (if_pos (decide_eq_true hfull)).symm
  · exact (if_neg hfull).trans (if_neg (by simp [hfull])).symm

/-- **From any state on** the splitter reads the lines that are ended in what it takes, however long they are, and
then says how that ended. -/
theorem items_taken (s : Splitter) :
    s.items = (endedLines (taken s.buffer s.coming).1).filterMap item? ++ (taken s.buffer s.coming).2 := by
  -- on the bytes and pieces that have not been used
  induction hn : s.size using Nat.strongRecOn generalizing s with
  | _ n ih =>
    obtain ⟨buffer, coming⟩ := s
    cases hc : cut buffer with
    | some p =>
      obtain ⟨line, rest⟩ := p
      have hline := newline_notMem_line hc
      have hsize : size ⟨rest, coming⟩ < n := hn ▸ size_rest (s := ⟨buffer, coming⟩) hc
      rw [items_of_cut (s := ⟨buffer, coming⟩) hc, ih _ hsize ⟨rest, coming⟩ rfl]
      obtain rfl := eq_of_cut hc
      rw [taken_behind hline, endedLines_behind hline, ← List.append_assoc]
      congr 1
      cases hi : item? line <;> simp [hi]
    | none =>
      have hnone := newline_notMem_of_cut hc
      have hstep := step_of_notMem (s := ⟨buffer, coming⟩) hc
      by_cases hfull : overfull buffer = true
      · rw [taken_of_overfull hfull, endedLines_of_notMem hnone]
        exact items_of_last (by rw [hstep, if_pos hfull])
      · rw [if_neg hfull] at hstep
        cases coming with
        | nil =>
          rw [items_of_ends hstep, taken, if_neg hfull, endedLines_of_notMem hnone]
          rfl
        | cons piece coming =>
          cases piece with
          | ok bytes =>
            rw [items_of_goesOn hstep, ih _ (hn ▸ size_of_goesOn hstep) ⟨buffer ++ bytes, coming⟩ rfl, taken,
              if_neg hfull]
          | error reason =>
            rw [items_of_last hstep, taken, if_neg hfull, endedLines_of_notMem hnone]
            rfl

end Splitter

/-- **The line limit.** Whatever pieces arrive:
- the stream yields what the lines hold that are ended in the bytes taken, however long they are, and then what ends the
  taking: a line that is not ended where a chunk is, and is beyond the limit by then; or that the pieces break off;
- so if a chunk ends in the first overlong line beyond the limit, the stream yields what the lines in front of it
  hold, then that a line is beyond the limit, and nothing any more. Neither what follows nor the cuts in front of it
  matter, and a line that is overlong when the bytes end is such a one;
- and if no chunk ends in a line beyond the limit, all lines that are ended are read, the overlong ones too. -/
theorem line_limit (pieces : List Piece) :
    streamItems pieces = (endedLines (taken [] pieces).1).filterMap item? ++ (taken [] pieces).2 ∧
    (∀ (chunks : List Bytes) (rest : List Piece), pieces = chunks.map .ok ++ rest → overfull chunks.flatten = true →
      (∀ line ∈ endedLines chunks.flatten, line.length ≤ maxLine) →
      streamItems pieces = (soundLines (received pieces)).filterMap item? ++ [overlong]) ∧
    ∀ chunks : List Bytes, pieces = chunks.map .ok → (∀ sooner, sooner <+: chunks → overfull sooner.flatten = false) →
      streamItems pieces = (endedLines chunks.flatten).filterMap item? := by
  have hitems : streamItems pieces = (endedLines (taken [] pieces).1).filterMap item? ++ (taken [] pieces).2 :=
    Splitter.items_taken ⟨[], pieces⟩
  refine ⟨hitems, ?_, ?_⟩
  · rintro chunks rest rfl hfull hsound
    obtain ⟨sooner, later, rfl, hsooner, htaken⟩ := @taken_of_later [] chunks hfull rest
    rw [List.nil_append] at hsooner htaken
    -- the lines in front are ended by then
    have hlines : soundLines (received ((sooner ++ later).map .ok ++ rest)) = endedLines sooner.flatten := by
      rw [received_ok, List.flatten_append, List.append_assoc]
      refine soundLines_of_overfull hsooner (fun line hline => hsound line ?_) _
      rw [List.flatten_append]
      exact endedLines_subset _ _ hline
    rw [hitems, htaken, hlines]
  · rintro chunks rfl hnever
    rw [hitems, @taken_of_never [] chunks hnever, List.nil_append, List.append_nil]

/-! ## Overlong lines, refused and read -/

/-- blanks in front of a line do not matter to what it holds -/
theorem item?_blanks (n : ℕ) (line : Bytes) : item? (List.replicate n 0x20 ++ line) = item? line := by
  have hone (bs : Bytes) : item? (0x20 :: bs) = item? bs := by
    have htext : Utf8.decodeLossy (0x20 :: bs) = ' ' :: Utf8.decodeLossy bs := rfl
    have htrim : Text.trim (' ' :: Utf8.decodeLossy bs) = Text.trim (Utf8.decodeLossy bs) := rfl
    rw [item?, htext, htrim, item?]
  induction n with
  | zero => rfl
  | succ n ih => rw [List.replicate_succ, List.cons_append, hone, ih]

/-- a line with a service that runs -/
def running : Bytes := Utf8.ofString "\x7b\"name\":\"db\",\"state\":\"up\"\x7d"

theorem running_line : newline ∉ running ∧ item? running = some (.ok ⟨"db", .running, ""⟩) ∧ overfull [] = false := by
  decide +kernel

/-- a line that is too long by one byte, between two lines with a service; its end arrives late -/
def flood : List Piece :=
  [.ok (running ++ [newline]), .ok (List.replicate (maxLine + 1) 0x78), .ok (newline :: running ++ [newline])]

/-- the line in front of the flood is read, and none behind it -/
theorem line_limit_flood :
    let chunks := [running ++ [newline], List.replicate (maxLine + 1) 0x78]
    overfull chunks.flatten = true ∧ (∀ line ∈ endedLines chunks.flatten, line.length ≤ maxLine) ∧
      streamItems flood = [.ok ⟨"db", .running, ""⟩, overlong] := by
  intro chunks
  obtain ⟨hline, hitem, -⟩ := running_line
  have hflood : newline ∉ List.replicate (maxLine + 1) (0x78 : UInt8) := by
    rw [List.mem_replicate]
    rintro ⟨-, h⟩
    exact absurd h (by decide)
  have hbytes : chunks.flatten = running ++ newline :: List.replicate (maxLine + 1) 0x78 := by
    simp [chunks]
  have hlines : endedLines chunks.flatten = [running] := by
    rw [hbytes, endedLines_behind hline, endedLines_of_notMem hflood]
  have hfull : overfull chunks.flatten = true := by
    rw [hbytes, overfull_behind hline, overfull, unended_of_notMem hflood, List.length_replicate]
    decide
  have hsound : ∀ line ∈ endedLines chunks.flatten, line.length ≤ maxLine := by
    rw [hlines]
    decide +kernel
  refine ⟨hfull, hsound, ?_⟩
  have hreceived : received flood = chunks.flatten ++ (newline :: running ++ [newline]) := by
    simp [flood, received, chunks]
  rw [(line_limit flood).2.1 chunks [.ok (newline :: running ++ [newline])] rfl hfull hsound, hreceived,
    soundLines_of_overfull hfull hsound, hlines, List.filterMap_cons_some hitem]
  rfl

/-- a service behind as many blanks as a line may have bytes, and the end of the line: two chunks -/
def padded : List Bytes := [List.replicate maxLine 0x20, running ++ [newline]]

/-- **An overlong line that is read.** No chunk ends in it beyond the limit, so its service is yielded and nothing is
refused. -/
theorem overlong_line_read :
    ¬WithinLimit padded.flatten ∧ soundLines padded.flatten = [] ∧
      streamItems (padded.map .ok) = [.ok ⟨"db", .running, ""⟩] ∧
      streamItems (padded.map .ok) ≠ (soundLines padded.flatten).filterMap item? ++ [overlong] := by
  obtain ⟨hrunning, hitem, hempty⟩ := running_line
  have hblanks : newline ∉ List.replicate maxLine (0x20 : UInt8) := by
    rw [List.mem_replicate]
    rintro ⟨-, h⟩
    exact absurd h (by decide)
  have hline : newline ∉ List.replicate maxLine (0x20 : UInt8) ++ running := by simp [hblanks, hrunning]
  have hbytes : padded.flatten = (List.replicate maxLine 0x20 ++ running) ++ newline :: [] := by simp [padded]
  have hlines : padded.flatten.splitOn newline = [List.replicate maxLine 0x20 ++ running, []] := by
    rw [hbytes, splitOn_behind hline]
    rfl
  have hlong : maxLine < (List.replicate maxLine (0x20 : UInt8) ++ running).length := by
    rw [List.length_append, List.length_replicate]
    exact Nat.lt_add_of_pos_right (by decide +kernel)
  have hsound : soundLines padded.flatten = [] := by
    rw [soundLines, hlines, List.takeWhile_cons_of_neg (by rw [decide_eq_true_eq]; exact not_le.2 hlong)]
  have htaken : taken [] (padded.map .ok) = (padded.flatten, []) := by
    have hfirst : overfull (List.replicate maxLine (0x20 : UInt8)) = false := by
      rw [overfull, unended_of_notMem hblanks, List.length_replicate]
      decide
    have hsecond : overfull (List.replicate maxLine (0x20 : UInt8) ++ (running ++ [newline])) = false := by
      rw [← List.append_assoc, overfull_behind hline]
      exact hempty
    simp [padded, taken, hempty, hfirst, hsecond]
  have hread : streamItems (padded.map .ok) = [.ok ⟨"db", .running, ""⟩] := by
    rw [streamItems, Splitter.items_taken, htaken, endedLines, hlines]
    change [_].filterMap item? ++ [] = _
    rw [List.filterMap_cons_some ((item?_blanks maxLine running).trans hitem)]
    rfl
  refine ⟨fun h => ?_, hsound, hread, ?_⟩
  · exact absurd (h _ (by rw [hlines]; exact List.mem_cons_self)) (not_le.2 hlong)
  · rw [hread, hsound]
    simp [overlong]

end ServiceMonitor.Agent
