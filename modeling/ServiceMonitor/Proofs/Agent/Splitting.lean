import ServiceMonitor.Proofs.Agent.LineLimit

/-!
The splitter step by step, and what it holds when it asks for the next piece.

A step that goes on moves bytes: a chunk that has arrived into the buffer, or bytes off its front, with the item that they
yield. What has moved is read off the states before and after (`Moves`), and a run puts steps together. `move_cases` says what
a move can be: a line with its end, or a chunk into a buffer without one.

- `Run.bytes`, `Run.lines`: nothing is lost and nothing taken twice, and what is taken out are lines, one by one.
- `Run.length_of_fed`: a step that takes no chunk in uses up a newline.
- `buffer_exact`: so whenever the splitter asks for more, it holds what follows the last newline, and no more than a line may
  have.
-/

namespace ServiceMonitor.Agent

open Json (Bytes)

/-! ## Moves -/

/-- what a step moves: a chunk into the buffer, or bytes out of it, with what they yield -/
inductive Move where
  | into (chunk : Bytes)
  | out (bytes : Bytes) (item : Option Item)

namespace Move

def chunk? : Move → Option Bytes
  | into chunk => some chunk
  | out .. => none

def bytes? : Move → Option Bytes
  | into _ => none
  | out bytes _ => some bytes

def item? : Move → Option Item
  | into _ => none
  | out _ item => item

end Move

/-- the chunks that moves take in -/
def fed (ms : List Move) : List Bytes := ms.filterMap Move.chunk?

/-- what moves take out -/
def drained (ms : List Move) : List Bytes := ms.filterMap Move.bytes?

/-- what moves yield -/
def yielded (ms : List Move) : List Item := ms.filterMap Move.item?

namespace Splitter

/-- a step that goes on, by what is different behind it -/
inductive Moves (s : Splitter) : Move → Splitter → Prop where
  | into {chunk : Bytes} {t : Splitter} : s.step = .goesOn t → s.coming = .ok chunk :: t.coming → Moves s (.into chunk) t
  | skips {bytes : Bytes} {t : Splitter} : s.step = .goesOn t → s.coming = t.coming → s.buffer = bytes ++ t.buffer →
      Moves s (.out bytes none) t
  | yields {bytes : Bytes} {item : Item} {t : Splitter} : s.step = .yields item (some t) → s.coming = t.coming →
      s.buffer = bytes ++ t.buffer → Moves s (.out bytes (some item)) t

/-- steps one behind the other -/
inductive Run : Splitter → List Move → Splitter → Prop where
  | nil (s : Splitter) : Run s [] s
  | cons {s t u : Splitter} {m : Move} {ms : List Move} : s.Moves m t → Run t ms u → Run s (m :: ms) u

/-- it asks for the next piece: whatever chunk this is, the step takes it in -/
def Asks (s : Splitter) : Prop :=
  ∀ chunk coming, step ⟨s.buffer, .ok chunk :: coming⟩ = .goesOn ⟨s.buffer ++ chunk, coming⟩

/-- with a complete line it does not ask: that line goes first -/
theorem not_asks_of_cut {s : Splitter} {p : Bytes × Bytes} (h : cut s.buffer = some p) : ¬s.Asks := by
  intro hasks
  have hstep := hasks [] []
  cases hi : Agent.item? p.1 <;> simp [step, h, hi] at hstep

/-- it asks where it holds no complete line and no more than a line may have -/
theorem asks_iff (s : Splitter) : s.Asks ↔ newline ∉ s.buffer ∧ s.buffer.length ≤ maxLine := by
  cases hc : cut s.buffer with
  | some p =>
    refine iff_of_false (not_asks_of_cut hc) fun ⟨hnone, _⟩ => hnone ?_
    rw [eq_of_cut hc]
    exact List.mem_append_right _ List.mem_cons_self
  | none =>
    rw [and_iff_right (newline_notMem_of_cut hc)]
    by_cases hfull : maxLine < s.buffer.length
    · refine iff_of_false (fun hasks => ?_) (not_le.2 hfull)
      have hstep := hasks [] []
      simp [step, hc, hfull] at hstep
    · exact iff_of_true (fun chunk coming => by simp [step, hc, hfull]) (not_lt.1 hfull)

/-- an item and more to come: a line has been taken out that holds the item -/
theorem yields_cases {s t : Splitter} {item : Item} (h : s.step = .yields item (some t)) :
    ∃ line, newline ∉ line ∧ s.buffer = line ++ newline :: t.buffer ∧ s.coming = t.coming ∧
      Agent.item? line = some item := by
  unfold step at h
  split at h
  · next line rest hc =>
    split at h
    · next hitem =>
      cases h
      exact ⟨line, newline_notMem_line hc, eq_of_cut hc, rfl, hitem⟩
    · cases h
  · split at h
    · cases h
    · split at h <;> cases h

/-- no item and more to come: a blank line has been taken out, or a chunk has been taken in that was asked for -/
theorem goesOn_cases {s t : Splitter} (h : s.step = .goesOn t) :
    (∃ line, newline ∉ line ∧ s.buffer = line ++ newline :: t.buffer ∧ s.coming = t.coming ∧
      Agent.item? line = none) ∨
    ∃ chunk, s.Asks ∧ t.buffer = s.buffer ++ chunk ∧ s.coming = .ok chunk :: t.coming := by
  unfold step at h
  split at h
  · next line rest hc =>
    split at h
    · cases h
    · next hitem =>
      cases h
      exact .inl ⟨line, newline_notMem_line hc, eq_of_cut hc, rfl, hitem⟩
  · next hc =>
    split at h
    · cases h
    · next hroom =>
      have hasks : s.Asks := (asks_iff s).2 ⟨newline_notMem_of_cut hc, not_lt.1 hroom⟩
      split at h
      · next chunk coming hcoming =>
        cases h
        exact .inr ⟨chunk, hasks, rfl, hcoming⟩
      · cases h
      · cases h

/-- **A move** takes out a line with its end, and yields what the line holds; or it takes in a chunk that was asked for. -/
theorem move_cases {s t : Splitter} {m : Move} (h : s.Moves m t) :
    (∃ line, newline ∉ line ∧ s.buffer = line ++ newline :: t.buffer ∧ s.coming = t.coming ∧
      m = .out (line ++ [newline]) (Agent.item? line)) ∨
    ∃ chunk, s.Asks ∧ t.buffer = s.buffer ++ chunk ∧ s.coming = .ok chunk :: t.coming ∧ m = .into chunk := by
  -- what a line leaves behind it says what has gone
  have hgone {line bytes : Bytes} (hline : s.buffer = line ++ newline :: t.buffer) (hbytes : s.buffer = bytes ++ t.buffer) :
      bytes = line ++ [newline] :=
    List.append_cancel_right (by rw [← hbytes, hline, List.append_assoc, List.singleton_append])
  cases h with
  | into hgo hcoming =>
    rcases goesOn_cases hgo with ⟨line, -, -, hsame, -⟩ | ⟨chunk, hasks, hbuffer, hnext⟩
    · exact absurd (hcoming.symm.trans hsame) (List.cons_ne_self _ _)
    · obtain ⟨⟨⟩, -⟩ := List.cons.inj (hcoming.symm.trans hnext)
      exact .inr ⟨_, hasks, hbuffer, hnext, rfl⟩
  | skips hgo hsame hbytes =>
    rcases goesOn_cases hgo with ⟨line, hnone, hline, -, hitem⟩ | ⟨chunk, -, -, hnext⟩
    · exact .inl ⟨line, hnone, hline, hsame, by rw [hgone hline hbytes, hitem]⟩
    · exact absurd (hnext.symm.trans hsame) (List.cons_ne_self _ _)
  | yields hyields hsame hbytes =>
    obtain ⟨line, hnone, hline, -, hitem⟩ := yields_cases hyields
    exact .inl ⟨line, hnone, hline, hsame, by rw [hgone hline hbytes, hitem]⟩

/-- taking out the first line is a move -/
theorem moves_of_cut {s : Splitter} {line rest : Bytes} (h : cut s.buffer = some (line, rest)) :
    s.Moves (.out (line ++ [newline]) (Agent.item? line)) ⟨rest, s.coming⟩ := by
  have hbuffer : s.buffer = (line ++ [newline]) ++ rest := by rw [eq_of_cut h, List.append_assoc, List.singleton_append]
  cases hi : Agent.item? line with
  | some item => exact .yields (by simp only [step, h, hi]) rfl hbuffer
  | none => exact .skips (by simp only [step, h, hi]) rfl hbuffer

/-- taking in a chunk that was asked for is a move -/
theorem moves_of_asks {s : Splitter} {chunk : Bytes} {coming : List Piece} (h : s.Asks) (hnext : s.coming = .ok chunk :: coming) :
    s.Moves (.into chunk) ⟨s.buffer ++ chunk, coming⟩ := by
  obtain ⟨buffer, coming'⟩ := s
  obtain rfl : coming' = .ok chunk :: coming := hnext
  exact .into (h chunk coming) rfl

/-- a step that goes on is a move -/
theorem exists_move {s t : Splitter} (h : s.step = .goesOn t ∨ ∃ item, s.step = .yields item (some t)) :
    ∃ m, s.Moves m t := by
  rcases h with hgo | ⟨item, hyields⟩
  · rcases goesOn_cases hgo with ⟨line, -, hline, hsame, -⟩ | ⟨chunk, -, -, hnext⟩
    · exact ⟨.out (line ++ [newline]) none, .skips hgo hsame (by rw [hline, List.append_assoc, List.singleton_append])⟩
    · exact ⟨.into chunk, .into hgo hnext⟩
  · obtain ⟨line, -, hline, hsame, -⟩ := yields_cases hyields
    exact ⟨.out (line ++ [newline]) (some item), .yields hyields hsame
      (by rw [hline, List.append_assoc, List.singleton_append])⟩

/-! ## Runs -/

namespace Run

/-- the pieces are taken in one by one -/
theorem coming {s t : Splitter} {ms : List Move} (h : Run s ms t) : s.coming = (fed ms).map .ok ++ t.coming := by
  induction h with
  | nil s => rfl
  | cons hmove hrun ih =>
    rcases move_cases hmove with ⟨line, -, -, hsame, rfl⟩ | ⟨chunk, -, -, hnext, rfl⟩
    · rw [hsame, ih]
      rfl
    · rw [hnext, ih]
      rfl

/-- **Nothing is lost:** what was held and has come in has gone out or is held. -/
theorem bytes {s t : Splitter} {ms : List Move} (h : Run s ms t) :
    s.buffer ++ (fed ms).flatten = (drained ms).flatten ++ t.buffer := by
  induction h with
  | nil s => exact List.append_nil _
  | @cons s t u m ms hmove hrun ih =>
    rcases move_cases hmove with ⟨line, -, hline, -, rfl⟩ | ⟨chunk, -, hbuffer, -, rfl⟩
    · have hfed : fed (.out (line ++ [newline]) (Agent.item? line) :: ms) = fed ms := rfl
      have hout : drained (.out (line ++ [newline]) (Agent.item? line) :: ms) = (line ++ [newline]) :: drained ms := rfl
      rw [hfed, hout, hline, List.flatten_cons, List.append_assoc, List.append_assoc, List.append_assoc, List.cons_append, ih]
      rfl
    · have hfed : fed (.into chunk :: ms) = chunk :: fed ms := rfl
      have hout : drained (.into chunk :: ms) = drained ms := rfl
      rw [hfed, hout, List.flatten_cons, ← List.append_assoc, ← hbuffer, ih]

/-- **What goes out are lines,** each with its end, and what is yielded is what they hold. -/
theorem lines {s t : Splitter} {ms : List Move} (h : Run s ms t) :
    ∃ lines : List Bytes, (∀ line ∈ lines, newline ∉ line) ∧ drained ms = lines.map (· ++ [newline]) ∧
      yielded ms = lines.filterMap Agent.item? := by
  induction h with
  | nil s => exact ⟨[], nofun, rfl, rfl⟩
  | @cons s t u m ms hmove hrun ih =>
    obtain ⟨lines, hnone, hout, hitems⟩ := ih
    rcases move_cases hmove with ⟨line, hline, -, -, rfl⟩ | ⟨chunk, -, -, -, rfl⟩
    · refine ⟨line :: lines, List.forall_mem_cons.2 ⟨hline, hnone⟩, ?_, ?_⟩
      · rw [List.map_cons, ← hout]
        rfl
      · rw [List.filterMap_cons, ← hitems]
        rfl
    · exact ⟨lines, hnone, hout, hitems⟩

/-- what is yielded in a run is what the stream yields first -/
theorem items {s t : Splitter} {ms : List Move} (h : Run s ms t) : s.items = yielded ms ++ t.items := by
  induction h with
  | nil s => rfl
  | @cons s t u m ms hmove hrun ih =>
    cases hmove with
    | into hgo hcoming =>
      rw [items_of_goesOn hgo, ih]
      rfl
    | skips hgo hsame hbytes =>
      rw [items_of_goesOn hgo, ih]
      rfl
    | yields hyields hsame hbytes =>
      rw [items_of_yields hyields, ih]
      rfl

/-- **Between two chunks** every step uses up a newline. -/
theorem length_of_fed {s t : Splitter} {ms : List Move} (h : Run s ms t) (hfed : fed ms = []) :
    ms.length + t.buffer.count newline = s.buffer.count newline := by
  induction h with
  | nil s => exact Nat.zero_add _
  | @cons s t u m ms hmove hrun ih =>
    rcases move_cases hmove with ⟨line, hnone, hline, -, rfl⟩ | ⟨chunk, -, -, -, rfl⟩
    · rw [hline, List.count_append, List.count_eq_zero_of_not_mem hnone, List.count_cons_self, ← ih hfed, List.length_cons]
      omega
    · exact absurd hfed (List.cons_ne_nil _ _)

/-- **An item, the limit or the next chunk:** the splitter skips blank lines until it yields an item, refuses what it holds or
asks for more, and each line that it skips is a newline of the buffer. -/
theorem exists_reaching (s : Splitter) :
    ∃ ms t, Run s ms t ∧ fed ms = [] ∧ yielded ms = [] ∧ ms.length ≤ s.buffer.count newline ∧
      ((∃ item u, t.step = .yields item (some u)) ∨ (maxLine < t.buffer.length ∧ t.step = .yields overlong none) ∨
        t.Asks) := by
  -- on the newlines in the buffer
  induction hn : s.buffer.count newline using Nat.strongRecOn generalizing s with
  | _ n ih =>
    cases hc : cut s.buffer with
    | none =>
      refine ⟨[], s, .nil s, rfl, rfl, Nat.zero_le _, .inr ?_⟩
      by_cases hfull : maxLine < s.buffer.length
      · exact .inl ⟨hfull, by simp only [step, hc, if_pos hfull]⟩
      · exact .inr ((asks_iff s).2 ⟨newline_notMem_of_cut hc, not_lt.1 hfull⟩)
    | some p =>
      obtain ⟨line, rest⟩ := p
      cases hi : Agent.item? line with
      | some item =>
        exact ⟨[], s, .nil s, rfl, rfl, Nat.zero_le _, .inl ⟨item, ⟨rest, s.coming⟩, by simp only [step, hc, hi]⟩⟩
      | none =>
        have hmove : s.Moves (.out (line ++ [newline]) none) ⟨rest, s.coming⟩ := hi ▸ moves_of_cut hc
        have hfewer : 1 + rest.count newline = n := hn ▸ length_of_fed (.cons hmove (.nil _)) rfl
        obtain ⟨ms, t, hrun, hfed, hyielded, hlength, hend⟩ := ih (rest.count newline) (by omega) ⟨rest, s.coming⟩ rfl
        exact ⟨_ :: ms, t, .cons hmove hrun, hfed, hyielded, by rw [List.length_cons]; omega, hend⟩

end Run

end Splitter

/-! ## The buffer -/

/-- lines that are put together with their ends are the ended lines, whatever is behind them -/
theorem endedLines_joined {lines : List Bytes} (h : ∀ line ∈ lines, newline ∉ line) (bs : Bytes) :
    endedLines ((lines.map (· ++ [newline])).flatten ++ bs) = lines ++ endedLines bs ∧
      unended ((lines.map (· ++ [newline])).flatten ++ bs) = unended bs := by
  induction lines with
  | nil => exact ⟨rfl, rfl⟩
  | cons line lines ih =>
    obtain ⟨hline, hlines⟩ := List.forall_mem_cons.1 h
    obtain ⟨hended, hunended⟩ := ih hlines
    have hsplit : ((line :: lines).map (· ++ [newline])).flatten ++ bs =
        line ++ newline :: ((lines.map (· ++ [newline])).flatten ++ bs) := by simp
    rw [hsplit, endedLines_behind hline, unended_behind hline, hended, hunended]
    exact ⟨rfl, rfl⟩

/-- **What the splitter holds.** Behind any run from the start:
- a step that goes on is a move, which the run can be continued with;
- the chunks that it has taken in are the first pieces, and the stream yields what it has yielded and then what it has yet to
  yield;
- if it asks for the next piece, the buffer holds no newline and no more than a line may have: just what follows the last
  newline of the chunks so far. All lines in front of that have gone out, each of them once and in order, and what they hold has
  been yielded;
- until it takes in a chunk, each step uses up a newline of the buffer;
- so it gets to an item, the limit or the next chunk, and skips no more lines on the way than there are newlines. -/
theorem buffer_exact {pieces : List Piece} {moves : List Move} {s : Splitter} (h : Splitter.Run ⟨[], pieces⟩ moves s) :
    let bytes := (fed moves).flatten
    (∀ t, (s.step = .goesOn t ∨ ∃ item, s.step = .yields item (some t)) → ∃ m, s.Moves m t) ∧
    pieces = (fed moves).map .ok ++ s.coming ∧ streamItems pieces = yielded moves ++ s.items ∧
    (s.Asks → newline ∉ s.buffer ∧ s.buffer.length ≤ maxLine ∧ s.buffer = unended bytes ∧
      drained moves = (endedLines bytes).map (· ++ [newline]) ∧ yielded moves = (endedLines bytes).filterMap item?) ∧
    (∀ more t, s.Run more t → fed more = [] → more.length + t.buffer.count newline = s.buffer.count newline) ∧
    ∃ skipped t, s.Run skipped t ∧ fed skipped = [] ∧ yielded skipped = [] ∧ skipped.length ≤ s.buffer.count newline ∧
      ((∃ item u, t.step = .yields item (some u)) ∨ (maxLine < t.buffer.length ∧ t.step = .yields overlong none) ∨
        t.Asks) := by
  intro bytes
  refine ⟨fun _ => Splitter.exists_move, h.coming, h.items, fun hasks => ?_,
    fun more t hrun hfed => hrun.length_of_fed hfed, Splitter.Run.exists_reaching s⟩
  obtain ⟨hnone, hroom⟩ := (Splitter.asks_iff s).1 hasks
  obtain ⟨lines, hlines, hdrained, hyielded⟩ := h.lines
  have hbytes : bytes = (lines.map (· ++ [newline])).flatten ++ s.buffer := hdrained ▸ h.bytes
  obtain ⟨hended, hunended⟩ := endedLines_joined hlines s.buffer
  rw [endedLines_of_notMem hnone, List.append_nil] at hended
  rw [unended_of_notMem hnone] at hunended
  rw [hbytes, hended, hunended]
  exact ⟨hnone, hroom, rfl, hdrained, hyielded⟩

/-- three chunks, then three lines of which one is blank; what is left is a line that has only begun -/
theorem buffer_exact_torn :
    ∃ moves s, Splitter.Run ⟨[], torn.map .ok ++ [.error "reset"]⟩ moves s ∧ s.Asks ∧ moves.length = 6 ∧
      s.buffer = Utf8.ofString "\x7b\"name" ∧
      yielded moves = [.ok ⟨"café", .running, ""⟩, .ok ⟨"web", .stopped, ""⟩] := by
  let café := Utf8.ofString "\x7b\"name\":\"café\",\"state\":\"up\"\x7d"
  let web := Utf8.ofString "\x7b\"name\":\"web\",\"state\":\"down\"\x7d"
  let begun := Utf8.ofString "\x7b\"name"
  let first := torn.flatten.take 13
  let rest := torn.flatten.drop 13
  have hasks (bs : Bytes) (coming : List Piece) (h : newline ∉ bs ∧ bs.length ≤ maxLine) : Splitter.Asks ⟨bs, coming⟩ :=
    (Splitter.asks_iff _).2 h
  have hrun : Splitter.Run ⟨[], torn.map .ok ++ [.error "reset"]⟩
      [.into first, .into [], .into rest, .out (café ++ [newline]) (item? café), .out ([0x20] ++ [newline]) (item? [0x20]),
        .out (web ++ [newline]) (item? web)] ⟨begun, [.error "reset"]⟩ := by
    have hpieces : (torn.map .ok ++ [.error "reset"] : List Piece) = [.ok first, .ok [], .ok rest, .error "reset"] := by
      decide +kernel
    have hlines : cut (first ++ rest) = some (café, [0x20, newline] ++ web ++ newline :: begun) := by decide +kernel
    have hblank : cut ([0x20, newline] ++ web ++ newline :: begun) = some ([0x20], web ++ newline :: begun) := by
      decide +kernel
    rw [hpieces]
    refine .cons (Splitter.moves_of_asks (hasks [] _ (by decide)) rfl) ?_
    refine .cons (Splitter.moves_of_asks (hasks first _ (by decide +kernel)) rfl) ?_
    refine .cons (Splitter.moves_of_asks (hasks (first ++ []) _ (by decide +kernel)) rfl) ?_
    refine .cons (Splitter.moves_of_cut (by rw [List.append_nil]; exact hlines)) ?_
    refine .cons (Splitter.moves_of_cut hblank) ?_
    exact .cons (Splitter.moves_of_cut (by decide +kernel)) (.nil _)
  obtain ⟨-, -, -, hheld, -, -⟩ := buffer_exact hrun
  obtain ⟨-, -, -, -, hyielded⟩ := hheld (hasks begun _ (by decide +kernel))
  refine ⟨_, _, hrun, hasks begun _ (by decide +kernel), rfl, rfl, ?_⟩
  rw [hyielded]
  decide +kernel

end ServiceMonitor.Agent
