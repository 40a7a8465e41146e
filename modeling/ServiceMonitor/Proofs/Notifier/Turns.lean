import Mathlib.Data.List.DropRight
import ServiceMonitor.Proofs.Notifier.Panics

/-!
The manager turn by turn.

A call of close waits for each backend in turn, and meanwhile everything else goes on: backends are registered, events are
published and delivered, close is called again. Here a call of close is a state of its own (`Closing`), and `play` lets calls,
deliveries and the clock take turns in any order. A delivery that has been spawned begins at some later turn, in either mode:
a publisher that waits may wait for other handlers of the bus first.

- `goOn_todo`, `goOn_iterate`: a call of close does one thing after the other, as its script says.
- `act_turns`, `run_turns`: a run of the manager in which close takes all its turns at once is one of these.
-/

namespace ServiceMonitor.Notifier

open Bus (Dispatch)

/-! ## A call of close -/

/-- a moment in a call of close -/
inductive Mark where
  | began (b : Backend)
  | ended (b : Backend)
  | returned (result : Option NotifierError)
  deriving DecidableEq, Repr

/-- where a call of close is -/
inductive Stage where
  /-- these are not closed yet -/
  | next (rest : List Backend)
  /-- one of them is being closed -/
  | busy (b : Backend) (rest : List Backend)
  | complete
  deriving DecidableEq, Repr

/-- a call of close, from the moment on at which it has taken the backends out -/
structure Closing where
  taken : List Backend
  stage : Stage
  lastError : Option NotifierError
  /-- what it has done -/
  marks : List Mark
  deriving DecidableEq, Repr

def Closing.start (bs : List Backend) : Closing := ⟨bs, .next bs, none, []⟩

/-- it goes on to its next moment -/
def Closing.goOn (c : Closing) : Closing :=
  match c.stage with
  | .next [] => { c with stage := .complete, marks := c.marks ++ [.returned c.lastError] }
  | .next (b :: rest) => { c with stage := .busy b rest, marks := c.marks ++ [.began b] }
  | .busy b rest =>
    { c with stage := .next rest, lastError := b.closeFault.or c.lastError, marks := c.marks ++ [.ended b] }
  | .complete => c

/-- the record that this leaves -/
def Closing.record? (now : ℕ) (c : Closing) : Option Record :=
  match c.stage with
  | .next (b :: _) => some ⟨b, .closeBegin, now⟩
  | .busy b _ => some ⟨b, .closeEnd, now⟩
  | .next [] | .complete => none

/-- what a call of close does: it closes the backends in their order, whatever comes of it, and returns the last error -/
def script (bs : List Backend) : List Mark :=
  bs.flatMap (fun b => [.began b, .ended b]) ++ [.returned (bs.filterMap (·.closeFault)).getLast?]

/-- the same behind an error -/
def scriptFrom (lastError : Option NotifierError) (bs : List Backend) : List Mark :=
  bs.flatMap (fun b => [.began b, .ended b]) ++ [.returned ((bs.filterMap (·.closeFault)).getLast?.or lastError)]

/-- what a call has still to do -/
def Closing.todo (c : Closing) : List Mark :=
  match c.stage with
  | .next rest => scriptFrom c.lastError rest
  | .busy b rest => .ended b :: scriptFrom (b.closeFault.or c.lastError) rest
  | .complete => []

/-- the last error of some backends, or else an earlier one -/
theorem lastFault_cons (lastError : Option NotifierError) (b : Backend) (bs : List Backend) :
    ((b :: bs).filterMap (·.closeFault)).getLast?.or lastError =
      (bs.filterMap (·.closeFault)).getLast?.or (b.closeFault.or lastError) := by
  cases hb : b.closeFault with
  | none => simp [hb]
  | some e =>
    rw [List.filterMap_cons_some hb, List.getLast?_cons]
    cases (bs.filterMap (·.closeFault)).getLast? <;> rfl

theorem scriptFrom_cons (lastError : Option NotifierError) (b : Backend) (bs : List Backend) :
    scriptFrom lastError (b :: bs) = .began b :: .ended b :: scriptFrom (b.closeFault.or lastError) bs := by
  rw [scriptFrom, lastFault_cons]
  rfl

theorem start_todo (bs : List Backend) : (Closing.start bs).todo = script bs := by
  simp [Closing.todo, Closing.start, scriptFrom, script]

/-- **One turn** of a call: the first thing that it has to do is done. -/
theorem goOn_todo (c : Closing) : c.goOn.marks = c.marks ++ c.todo.take 1 ∧ c.goOn.todo = c.todo.drop 1 := by
  obtain ⟨taken, stage, lastError, marks⟩ := c
  cases stage with
  | next rest =>
    cases rest with
    | nil => simp [Closing.goOn, Closing.todo, scriptFrom]
    | cons b rest => simp [Closing.goOn, Closing.todo, scriptFrom_cons]
  | busy b rest => simp [Closing.goOn, Closing.todo]
  | complete => simp [Closing.goOn, Closing.todo]

/-- so many turns -/
theorem goOn_iterate (n : ℕ) (c : Closing) :
    (Closing.goOn^[n] c).marks = c.marks ++ c.todo.take n ∧ (Closing.goOn^[n] c).todo = c.todo.drop n := by
  induction n with
  | zero => simp
  | succ n ih =>
    obtain ⟨hmarks, htodo⟩ := ih
    rw [Function.iterate_succ_apply']
    obtain ⟨hmarks', htodo'⟩ := goOn_todo (Closing.goOn^[n] c)
    refine ⟨?_, ?_⟩
    · rw [hmarks', hmarks, htodo, List.append_assoc, ← List.take_add]
    · rw [htodo', htodo, List.drop_drop]

theorem goOn_taken (c : Closing) : c.goOn.taken = c.taken := by
  unfold Closing.goOn
  split <;> rfl

theorem iterate_taken (n : ℕ) (c : Closing) : (Closing.goOn^[n] c).taken = c.taken := by
  induction n with
  | zero => rfl
  | succ n ih => rw [Function.iterate_succ_apply', goOn_taken, ih]

/-! ## Turns -/

/-- the manager, and the calls of close in the order in which they were made -/
structure Calls where
  manager : St
  closings : List Closing

/-- what can happen next -/
inductive Turn where
  | register (b : Backend)
  | publish (e : Event)
  /-- a delivery begins that has been spawned -/
  | begin (n : ℕ)
  /-- the clock goes on -/
  | tick (t : ℕ)
  | close
  /-- a call of close goes on -/
  | goOn (n : ℕ)
  deriving DecidableEq, Repr

def Calls.turn (s : Calls) : Turn → Calls
  | .register b => { s with manager := s.manager.register b }
  | .publish e =>
    if s.manager.subscribed then { s with manager := { s.manager with spawned := s.manager.spawned ++ [e] } } else s
  | .begin n =>
    match s.manager.spawned[n]? with
    | some e => { s with manager := { s.manager with spawned := s.manager.spawned.eraseIdx n }.beginOne e }
    | none => s
  | .tick t => if s.manager.now ≤ t then { s with manager := s.manager.advanceTo t } else s
  | .close =>
    { manager := { s.manager with subscribed := false, backends := [] }
      closings := s.closings ++ [.start s.manager.backends] }
  | .goOn n =>
    match s.closings[n]? with
    | some c =>
      { manager := { s.manager with log := s.manager.log ++ (c.record? s.manager.now).toList }
        closings := s.closings.modify n Closing.goOn }
    | none => s

def Calls.run (s : Calls) (ts : List Turn) : Calls := ts.foldl Calls.turn s

/-- a manager and whatever takes turns with it -/
def play (mode : Dispatch) (ts : List Turn) : Calls := Calls.run ⟨start mode, []⟩ ts

theorem run_snoc (s : Calls) (ts : List Turn) (t : Turn) : s.run (ts ++ [t]) = (s.run ts).turn t := by
  simp [Calls.run]

theorem run_cons (s : Calls) (t : Turn) (ts : List Turn) : s.run (t :: ts) = (s.turn t).run ts := rfl

theorem run_append (s : Calls) (ts ts' : List Turn) : s.run (ts ++ ts') = (s.run ts).run ts' := List.foldl_append

theorem play_snoc (mode : Dispatch) (ts : List Turn) (t : Turn) : play mode (ts ++ [t]) = (play mode ts).turn t :=
  run_snoc _ ts t

/-! ## All turns at once -/

/-- a call of close that is over -/
def Closing.finished (bs : List Backend) : Closing := ⟨bs, .complete, (bs.filterMap (·.closeFault)).getLast?, script bs⟩

/-- the turns of a call of close that nobody else gets in between -/
def closeTurns (n : ℕ) : ℕ → List Backend → List Turn
  | _, [] => [.goOn n]
  | now, b :: bs => .goOn n :: .tick (now + b.closeDelay) :: .goOn n :: closeTurns n (now + b.closeDelay) bs

/-- the turns that an act of the manager takes, behind `n` calls of close -/
def St.turns (s : St) (n : ℕ) : Act → List Turn
  | .register b => [.register b]
  | .publish e =>
    match s.subscribed, s.mode with
    | true, .sync => [.publish e, .begin 0, .tick (lastTime s.now (deliver s.now e s.backends).2)]
    | _, _ => [.publish e]
  | .settle => List.replicate s.spawned.length (.begin 0)
  | .advance ms => [.tick (s.now + ms)]
  | .close => .close :: closeTurns n s.now s.backends

/-- the call of close that an act is -/
def St.closed (s : St) : Act → List Closing
  | .close => [.finished s.backends]
  | _ => []

section

variable (m : St) (cs : List Closing)

/-- the last call of close goes on -/
theorem turn_last (c : Closing) :
    Calls.turn ⟨m, cs ++ [c]⟩ (.goOn cs.length) =
      ⟨{ m with log := m.log ++ (c.record? m.now).toList }, cs ++ [c.goOn]⟩ := by
  have hget : (cs ++ [c])[cs.length]? = some c := by simp
  have hmodify : (cs ++ [c]).modify cs.length Closing.goOn = cs ++ [c.goOn] := by
    rw [List.modify_eq_take_cons_drop (by simp)]
    simp
  simp only [Calls.turn, hget, hmodify]

/-- the turns of a call close the backends one by one -/
theorem run_closeTurns (taken bs : List Backend) (lastError : Option NotifierError) (marks : List Mark) :
    Calls.run ⟨m, cs ++ [⟨taken, .next bs, lastError, marks⟩]⟩ (closeTurns cs.length m.now bs) =
      ⟨bs.foldl St.closeOne m,
        cs ++ [⟨taken, .complete, (bs.filterMap (·.closeFault)).getLast?.or lastError, marks ++ scriptFrom lastError bs⟩]⟩ := by
  induction bs generalizing m lastError marks with
  | nil =>
    rw [closeTurns, Calls.run, List.foldl_cons, turn_last]
    simp [Closing.record?, Closing.goOn, scriptFrom]
  | cons b bs ih =>
    have hbegun : Calls.turn ⟨m, cs ++ [⟨taken, .next (b :: bs), lastError, marks⟩]⟩ (.goOn cs.length) =
        ⟨{ m with log := m.log ++ [⟨b, .closeBegin, m.now⟩] },
          cs ++ [⟨taken, .busy b bs, lastError, marks ++ [.began b]⟩]⟩ := turn_last m cs _
    have hwaited : Calls.turn ⟨{ m with log := m.log ++ [⟨b, .closeBegin, m.now⟩] },
          cs ++ [⟨taken, .busy b bs, lastError, marks ++ [.began b]⟩]⟩ (.tick (m.now + b.closeDelay)) =
        ⟨St.advanceTo { m with log := m.log ++ [⟨b, .closeBegin, m.now⟩] } (m.now + b.closeDelay),
          cs ++ [⟨taken, .busy b bs, lastError, marks ++ [.began b]⟩]⟩ := if_pos (Nat.le_add_right _ _)
    have hended : Calls.turn ⟨St.advanceTo { m with log := m.log ++ [⟨b, .closeBegin, m.now⟩] } (m.now + b.closeDelay),
          cs ++ [⟨taken, .busy b bs, lastError, marks ++ [.began b]⟩]⟩ (.goOn cs.length) =
        ⟨m.closeOne b, cs ++ [⟨taken, .next bs, b.closeFault.or lastError, marks ++ [.began b] ++ [.ended b]⟩]⟩ :=
      turn_last _ cs _
    have hrest := ih (m.closeOne b) (b.closeFault.or lastError) (marks ++ [.began b] ++ [.ended b])
    rw [closeTurns, run_cons, hbegun, run_cons, hwaited, run_cons, hended]
    refine hrest.trans ?_
    rw [scriptFrom_cons, lastFault_cons, List.append_assoc, List.append_assoc]
    rfl

/-- the spawned deliveries begin one by one -/
theorem run_settle : Calls.run ⟨m, cs⟩ (List.replicate m.spawned.length (.begin 0)) = ⟨m.settle, cs⟩ := by
  induction hes : m.spawned generalizing m with
  | nil =>
    rw [settle_of_spawned hes]
    rfl
  | cons e es ih =>
    have hbegun : Calls.turn ⟨m, cs⟩ (.begin 0) = ⟨({ m with spawned := es } : St).beginOne e, cs⟩ := by
      simp [Calls.turn, hes]
    have hrest := ih (({ m with spawned := es } : St).beginOne e) rfl
    rw [List.length_cons, List.replicate_succ, run_cons, hbegun, hrest, St.settle, St.settle, hes]
    rfl

/-- nothing comes behind the last record -/
theorem lastTime_le (t : ℕ) (rs : List Record) : t ≤ lastTime t rs ∧ ∀ r ∈ rs, r.time ≤ lastTime t rs := by
  induction rs generalizing t with
  | nil => exact ⟨le_rfl, by simp⟩
  | cons r rs ih =>
    obtain ⟨hstart, hrest⟩ := ih (max t r.time)
    refine ⟨(le_max_left _ _).trans hstart, fun r' hr' => ?_⟩
    rcases List.mem_cons.1 hr' with rfl | hr'
    · exact (le_max_right _ _).trans hstart
    · exact hrest r' hr'

/-- the later records of a delivery come in the order of their times -/
theorem deliver_sorted (t : ℕ) (e : Event) (bs : List Backend) :
    (deliver t e bs).2.Pairwise fun r r' => r.time ≤ r'.time := by
  rw [deliver_eq, List.pairwise_map]
  refine List.Pairwise.sublist (upTo_sublist _ _) ?_
  refine (byDelay_sorted (underWay bs)).imp ?_
  intro a b hab
  exact Nat.add_le_add_left hab t

/-- a publisher that waits has its delivery begun at once, and goes on with its last record -/
theorem run_delivery (cs : List Closing) {m : St} (h : m.Prompt) (hsub : m.subscribed = true) (hmode : m.mode = .sync)
    (e : Event) :
    Calls.run ⟨{ m with spawned := m.spawned ++ [e] }, cs⟩
      [.begin 0, .tick (lastTime m.now (deliver m.now e m.backends).2)] = ⟨m.publish e, cs⟩ := by
  obtain ⟨hspawned, hpending⟩ := h hmode
  obtain ⟨mode, now, subscribed, backends, spawned, pending, log⟩ := m
  subst hspawned hpending hsub hmode
  obtain ⟨hnow, hlast⟩ := lastTime_le now (deliver now e backends).2
  have hsorted := deliver_sorted now e backends
  generalize hdeliver : deliver now e backends = rs at hnow hlast hsorted
  obtain ⟨first, later⟩ := rs
  have hall : later.filter (·.time ≤ lastTime now later) = later :=
    List.filter_eq_self.2 fun r hr => decide_eq_true (hlast r hr)
  have hnone : later.filter (lastTime now later < ·.time) = [] :=
    List.filter_eq_nil_iff.2 fun r hr => by simpa using hlast r hr
  have hmerge : later.mergeSort (fun a b => a.time ≤ b.time) = later :=
    List.mergeSort_of_pairwise (hsorted.imp fun hab => decide_eq_true hab)
  simp [Calls.run, Calls.turn, St.beginOne, St.advanceTo, St.publish, hdeliver, hnow, hall, hnone, hmerge]

/-- **One act** of the manager is so many turns. -/
theorem act_turns {s : Calls} (h : s.manager.Prompt) (a : Act) :
    s.run (s.manager.turns s.closings.length a) = ⟨s.manager.act a, s.closings ++ s.manager.closed a⟩ := by
  obtain ⟨m, cs⟩ := s
  cases a with
  | register b => simp [St.turns, St.closed, Calls.run, Calls.turn, St.act]
  | publish e =>
    simp only [St.closed, List.append_nil]
    cases hsub : m.subscribed with
    | false => simp [St.turns, Calls.run, Calls.turn, St.act, St.publish, hsub]
    | true =>
      have hspawned : Calls.turn ⟨m, cs⟩ (.publish e) = ⟨{ m with spawned := m.spawned ++ [e] }, cs⟩ := if_pos hsub
      cases hmode : m.mode with
      | async => simp [St.turns, Calls.run, hspawned, St.act, St.publish, hsub, hmode]
      | sync =>
        have hturns : m.turns cs.length (.publish e) =
            [.publish e, .begin 0, .tick (lastTime m.now (deliver m.now e m.backends).2)] := by
          simp [St.turns, hsub, hmode]
        rw [hturns, run_cons, hspawned]
        exact run_delivery cs h hsub hmode e
  | settle =>
    simp only [St.turns, St.closed, List.append_nil]
    exact run_settle m cs
  | advance ms => simp [St.turns, St.closed, Calls.run, Calls.turn, St.act]
  | close =>
    have hclosed := run_closeTurns { m with subscribed := false, backends := [] } cs m.backends m.backends none []
    simp only [St.turns, St.closed, run_cons]
    refine hclosed.trans ?_
    simp [St.act, St.close, Closing.finished, scriptFrom, script]

end

/-- the turns that the acts of a run take -/
def St.allTurns : St → ℕ → List Act → List Turn
  | _, _, [] => []
  | s, n, a :: acts => s.turns n a ++ St.allTurns (s.act a) (n + (s.closed a).length) acts

/-- the calls of close in a run -/
def St.allClosed : St → List Act → List Closing
  | _, [] => []
  | s, a :: acts => s.closed a ++ St.allClosed (s.act a) acts

/-- **A run** of the manager is a run turn by turn. -/
theorem run_turns {s : Calls} (h : s.manager.Prompt) (acts : List Act) :
    s.run (s.manager.allTurns s.closings.length acts) =
      ⟨acts.foldl St.act s.manager, s.closings ++ s.manager.allClosed acts⟩ := by
  induction acts generalizing s with
  | nil => simp [St.allTurns, St.allClosed, Calls.run]
  | cons a acts ih =>
    have hrest := ih (s := ⟨s.manager.act a, s.closings ++ s.manager.closed a⟩) (act_prompt h a)
    rw [List.length_append] at hrest
    rw [St.allTurns, run_append, act_turns h, hrest, St.allClosed, List.append_assoc]
    rfl

/-! ## What is called, and what is returned -/

/-- somebody calls the manager or publishes an event -/
def Turn.isCall : Turn → Bool
  | .register _ | .publish _ | .close => true
  | _ => false

/-- the call that an act is -/
def Act.call? : Act → Option Turn
  | .register b => some (.register b)
  | .publish e => some (.publish e)
  | .close => some .close
  | _ => none

/-- what an act returns, if it is a call of close -/
def St.result? (s : St) : Act → Option (Option NotifierError)
  | .close => some s.close.2
  | _ => none

/-- what the calls of close in a run return -/
def St.results : St → List Act → List (Option NotifierError)
  | _, [] => []
  | s, a :: acts => (s.result? a).toList ++ St.results (s.act a) acts

theorem closeTurns_calls (n now : ℕ) (bs : List Backend) : (closeTurns n now bs).filter Turn.isCall = [] := by
  induction bs generalizing now with
  | nil => rfl
  | cons b bs ih => exact ih (now + b.closeDelay)

theorem turns_calls (s : St) (n : ℕ) (a : Act) : (s.turns n a).filter Turn.isCall = a.call?.toList := by
  cases a with
  | register b => rfl
  | publish e =>
    simp only [St.turns]
    split <;> rfl
  | settle => simp [St.turns, Turn.isCall, Act.call?]
  | advance ms => rfl
  | close => exact congrArg (Turn.close :: ·) (closeTurns_calls n s.now s.backends)

/-- the same is called -/
theorem allTurns_calls (s : St) (n : ℕ) (acts : List Act) :
    (s.allTurns n acts).filter Turn.isCall = acts.filterMap Act.call? := by
  induction acts generalizing s n with
  | nil => rfl
  | cons a acts ih =>
    rw [St.allTurns, List.filter_append, turns_calls, ih, List.filterMap_cons]
    cases a.call? <;> rfl

/-- the same is returned -/
theorem allClosed_results (s : St) (acts : List Act) :
    (s.allClosed acts).map (·.marks.getLast?) = (s.results acts).map fun result => some (.returned result) := by
  induction acts generalizing s with
  | nil => rfl
  | cons a acts ih =>
    rw [St.allClosed, St.results, List.map_append, List.map_append, ih]
    cases a with
    | close => simp [St.closed, St.result?, Closing.finished, script, St.close]
    | _ => rfl

end ServiceMonitor.Notifier
