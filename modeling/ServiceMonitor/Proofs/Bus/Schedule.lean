import ServiceMonitor.Proofs.Bus.Recorder

/-!
Tasks under way, run in whatever order.

`Goes` lets any task that can run go on by one instruction, or puts a task that let others run back among those that
can; in `GoesOn` the clock goes on as well, as far as it likes. Nothing is said about which task comes next, except
that a call begins before an earlier one of the same handler only if the handler does the same whenever it is called
(`InTurn`). `Run` is a run of a bus on which things are done from outside, with what the handlers note on the way.

The handlers leave the bus alone. Then what is still to come of a state can be read off it: `St.work` is the code of all
tasks, with that of the calls which have not begun yet, and `St.owed` what the handlers will note of it.

- `exec_begun`, `exec_task`: what one instruction does to a call that has begun, and to any task.
- `openedAll_take`: which call begins first does not matter to the code that the calls run, up to their order.
- `goes_sound`, `goes_keeps`: a step notes what it takes away from what is owed, and leaves the subscriptions alone.
- `goes_rank`, `goes_on_to_idle`: a step brings the tasks nearer to their end, and so they can always be brought there.
-/

namespace ServiceMonitor.Bus

/-- an event at a registration: a call of its handler, or what the handler noted of it -/
abbrev Record := Registration Handler × Event

/-- what an instruction makes a handler note -/
def Instr.noted : Instr → List Record
  | .act g e .note => [(g, e)]
  | _ => []

/-! ## Runs -/

/-- what a handler does with an event does not depend on how often it was called before -/
def Handler.IsSteady (h : Handler) : Prop := ∀ n m e, h.program n e = h.program m e

/-- a task may go on in front of those that became able to run before it -/
def InTurn (before : List Code) : Instr → Prop
  | .invoke g _ => ∀ d : Record, [.invoke d.1 d.2] ∈ before → d.1.handler.number = g.handler.number →
      d.1.handler.IsSteady ∧ g.handler.IsSteady
  | _ => True

/-- a task is put back after an instruction -/
def place : St × Outcome → St
  | (s, .goOn code) => { s with ready := code :: s.ready }
  | (s, .pause due code) => { s with sleeping := s.sleeping ++ [(due, code)] }
  | (s, .yield code) => { s with yielded := s.yielded ++ [code] }

/-- one step of the tasks of a bus -/
inductive Goes : St → List Record → St → Prop
  /-- some task that can run goes on by one instruction -/
  | runs {s : St} (before : List Code) (i : Instr) (code : Code) (after : List Code)
      (ready : s.ready = before ++ (i :: code) :: after) (turn : InTurn before i) :
      Goes s i.noted (place (exec { s with ready := before ++ after } i code))
  /-- a task is through -/
  | ends {s : St} (before after : List Code) (ready : s.ready = before ++ [] :: after) :
      Goes s [] { s with ready := before ++ after }
  /-- a task that let others run can go on -/
  | resumes {s : St} (before : List Code) (code : Code) (after : List Code)
      (yielded : s.yielded = before ++ code :: after) :
      Goes s [] { s with yielded := before ++ after, ready := s.ready ++ [code] }

/-- any number of steps, while the clock goes on -/
inductive GoesOn : St → List Record → St → Prop
  | refl (s : St) : GoesOn s [] s
  | step {s s1 s' : St} {rs rs' : List Record} (first : Goes s rs s1) (rest : GoesOn s1 rs' s') :
      GoesOn s (rs ++ rs') s'
  | wake {s s' : St} {rs : List Record} (t : ℕ) (later : s.now ≤ t) (rest : GoesOn (s.wake t) rs s') : GoesOn s rs s'

/-- a publisher's own code is run to its end -/
inductive Finishes : St → Code → List Record → St → Prop
  | done (s : St) : Finishes s [] [] s
  | next {s s' : St} {i : Instr} {c : Code} {rs : List Record}
      (rest : Finishes (turn s i c).1 (turn s i c).2 rs s') : Finishes s (i :: c) (i.noted ++ rs) s'

/-- what is done to a bus from outside; a handler is subscribed to one kind or to every kind -/
inductive Op where
  | subscribe (label : String) (kinds : List Kind) (program : Program)
  | cancel (id : Nat)
  | unsubscribe (label : String)
  | publish (event : Event)
  | clock (ms : Nat)

/-- something is done from outside, up to its return -/
inductive Takes : St → Op → List Record → St → Prop
  | subscribe (s : St) (label : String) (kinds : List Kind) (program : Program) :
      Takes s (.subscribe label kinds program) [] (s.subscribe label kinds program).1
  | cancel (s : St) (id : Nat) : Takes s (.cancel id) [] (s.cancel id)
  | unsubscribe (s : St) (label : String) : Takes s (.unsubscribe label) [] (s.unsubscribe label)
  | publish {s s' : St} {e : Event} {rs : List Record}
      (returns : Finishes (s.publish e []).1 (s.publish e []).2 rs s') : Takes s (.publish e) rs s'
  | clock {s s' : St} {ms : ℕ} {rs : List Record} (meanwhile : GoesOn s rs s') (now : s'.now = s.now + ms) :
      Takes s (.clock ms) rs s'

/-- things are done from outside, one after the other, and tasks go on in between -/
inductive Run : St → List Op → List Record → St → Prop
  | done {s s' : St} {rs : List Record} (tasks : GoesOn s rs s') : Run s [] rs s'
  | op {s s1 s2 s' : St} {op : Op} {ops : List Op} {before during rest : List Record} (tasks : GoesOn s before s1)
      (takes : Takes s1 op during s2) (run : Run s2 ops rest s') : Run s (op :: ops) (before ++ during ++ rest) s'

/-- every call has ended -/
def St.IsIdle (s : St) : Prop := s.ready = [] ∧ s.yielded = [] ∧ s.sleeping = []

theorem GoesOn.single {s s' : St} {rs : List Record} (h : Goes s rs s') : GoesOn s rs s' := by
  have h := GoesOn.step h (.refl s')
  rwa [List.append_nil] at h

theorem GoesOn.trans {s s1 s' : St} {rs rs' : List Record} (h : GoesOn s rs s1) (h' : GoesOn s1 rs' s') :
    GoesOn s (rs ++ rs') s' := by
  induction h with
  | refl s => exact h'
  | step first _ ih =>
    rw [List.append_assoc]
    exact .step first (ih h')
  | wake t later _ ih => exact .wake t later (ih h')

/-! ## What was noted is in the log -/

/-- what of a note does not depend on the time -/
def Entry.said (n : Entry) : String × Event := (n.label, n.event)

def Record.said (d : Record) : String × Event := (d.1.handler.label, d.2)

theorem exec_log (s : St) (i : Instr) (c : Code) :
    (exec s i c).1.log.map Entry.said = s.log.map Entry.said ++ i.noted.map Record.said := by
  cases i with
  | invoke g e => simp [exec, Instr.noted]
  | ended g => simp [exec, Instr.noted]
  | act g e a =>
    cases a with
    | note => simp [exec, Instr.noted, Entry.said, Record.said]
    | subscribe label kinds program =>
      have hlog : (s.subscribe label kinds program).1.log = s.log := by
        simp only [St.subscribe, St.register]
        split <;> rfl
      simp [exec, Instr.noted, hlog]
    | publish e' =>
      have hlog : (s.publish e' c).1.log = s.log := by
        unfold St.publish
        cases s.mode <;> rfl
      simp [exec, Instr.noted, hlog]
    | _ => simp [exec, Instr.noted, St.cancel, St.unsubscribe]

theorem place_log (s : St) (o : Outcome) : (place (s, o)).log = s.log := by cases o <;> rfl

theorem goes_log {s s' : St} {rs : List Record} (h : Goes s rs s') :
    s'.log.map Entry.said = s.log.map Entry.said ++ rs.map Record.said := by
  cases h with
  | runs before i code after ready turn =>
    have hlog := exec_log { s with ready := before ++ after } i code
    rw [place_log]
    exact hlog
  | _ => simp

theorem GoesOn.log {s s' : St} {rs : List Record} (h : GoesOn s rs s') :
    s'.log.map Entry.said = s.log.map Entry.said ++ rs.map Record.said := by
  induction h with
  | refl s => simp
  | step first _ ih => rw [ih, goes_log first, List.map_append, List.append_assoc]
  | wake t later _ ih => exact ih

theorem Finishes.log {s s' : St} {c : Code} {rs : List Record} (h : Finishes s c rs s') :
    s'.log.map Entry.said = s.log.map Entry.said ++ rs.map Record.said := by
  induction h with
  | done s => simp
  | @next s s' i c rs _ ih =>
    have hturn : (turn s i c).1.log = (exec s i c).1.log := by
      unfold turn
      split <;> simp_all
    rw [ih, hturn, exec_log, List.map_append, List.append_assoc]

/-! ## Code that is still to be run -/

/-- a handler that leaves the bus alone: it notes, waits, lets others run, or panics -/
def Handler.IsQuiet (h : Handler) : Prop := ∀ n e, ∀ a ∈ h.program n e, a.isQuiet = true

/-- a call that has begun, or is over -/
inductive Begun : Code → Prop
  | acts (g : Registration Handler) (e : Event) (actions : List Action) (quiet : ∀ a ∈ actions, a.isQuiet = true) :
      Begun (invocation g e actions)
  | through : Begun []

/-- a task that has not begun its call -/
def call? : Code → Option Record
  | [.invoke g e] => some (g, e)
  | _ => none

def Instr.panics : Instr → Bool
  | .act _ _ .panic => true
  | _ => false

/-- what the handler of a call that has begun will note: whatever comes before it panics -/
def notes : Code → List Record
  | [] => []
  | i :: c => if i.panics then [] else i.noted ++ notes c

/-- how often handlers were called, with one more call -/
def called (calls : List ℕ) (d : Record) : List ℕ :=
  calls.set d.1.handler.number (calls[d.1.handler.number]?.getD 0 + 1)

/-- the code of a call that begins now -/
def opened (calls : List ℕ) (d : Record) : Code :=
  invocation d.1 d.2 (d.1.handler.program (calls[d.1.handler.number]?.getD 0) d.2)

/-- the code of calls that begin one after the other -/
def openedAll (calls : List ℕ) : List Record → List Code
  | [] => []
  | d :: ds => opened calls d :: openedAll (called calls d) ds

/-- the calls that have not begun, in the order in which they were spawned -/
def St.pending (s : St) : List Record := s.ready.filterMap call?

/-- how often handlers will have been called -/
def St.callsDue (s : St) : List ℕ := s.pending.foldl called s.calls

/-- the code of all tasks, with that of the calls that have not begun -/
def St.work (s : St) : List Code :=
  s.ready ++ s.yielded ++ s.sleeping.map (·.2) ++ openedAll s.calls s.pending

/-- what handlers will still note -/
def St.owed (s : St) : List Record := s.work.flatMap notes

/-- the steps that code takes at most: each instruction may make its task wait, and at last the task ends -/
def load (cs : List Code) : ℕ := (cs.map fun c => 2 * c.length + 1).sum

/-- how far the tasks are from their end -/
def St.rank (s : St) : ℕ := load s.work + s.yielded.length + s.sleeping.length + s.pending.length

/-- a handler of this bus that leaves it alone -/
def St.Knows (s : St) (h : Handler) : Prop := h.number < s.calls.length ∧ h.IsQuiet

/-- a bus whose handlers leave it alone, with nothing but their calls under way -/
structure St.Sound (s : St) : Prop where
  ready : ∀ c ∈ s.ready, Begun c ∨ ∃ d : Record, c = [.invoke d.1 d.2] ∧ s.Knows d.1.handler
  yielded : ∀ c ∈ s.yielded, Begun c
  sleeping : ∀ p ∈ s.sleeping, Begun p.2 ∧ s.now < p.1
  registered : ∀ r, s.registry? = some r → ∀ g ∈ r.live, s.Knows g.handler
  /-- the publisher makes the calls itself -/
  alone : s.mode = .sync → s.IsIdle

/-! ## One instruction -/

def Outcome.code : Outcome → Code
  | .goOn code | .pause _ code | .yield code => code

theorem Begun.call? {c : Code} (h : Begun c) : call? c = none := by
  cases h with
  | acts g e actions quiet => cases actions <;> rfl
  | through => rfl

/-- a call that has begun goes on with an action, or is at its end -/
theorem begun_cons {i : Instr} {code : Code} (h : Begun (i :: code)) :
    (∃ g, i = .ended g ∧ code = []) ∨
      ∃ g e a actions, i = .act g e a ∧ code = invocation g e actions ∧ a.isQuiet = true ∧
        ∀ x ∈ actions, x.isQuiet = true := by
  generalize hc : i :: code = c at h
  cases h with
  | through => cases hc
  | acts g e actions quiet =>
    cases actions with
    | nil =>
      obtain ⟨rfl, rfl⟩ := List.cons.inj hc
      exact Or.inl ⟨g, rfl, rfl⟩
    | cons a actions =>
      obtain ⟨rfl, rfl⟩ := List.cons.inj hc
      exact Or.inr ⟨g, e, a, actions, rfl, rfl, quiet a List.mem_cons_self,
        fun x hx => quiet x (List.mem_cons_of_mem _ hx)⟩

/-- **One instruction** of a call that has begun writes to the log at most, and what is noted and what is left to note
is what there was to note before. -/
theorem exec_begun (s : St) {i : Instr} {code : Code} (h : Begun (i :: code)) :
    ∃ log o, exec s i code = ({ s with log := log }, o) ∧ Begun o.code ∧ o.code.length ≤ code.length ∧
      i.noted ++ notes o.code = notes (i :: code) ∧ ∀ due c, o = .pause due c → s.now < due := by
  rcases begun_cons h with ⟨g, rfl, rfl⟩ | ⟨g, e, a, actions, rfl, rfl, ha, hactions⟩
  · exact ⟨s.log, .goOn [], rfl, .through, le_rfl, rfl, by rintro due c ⟨⟩⟩
  · have hrest : Begun (invocation g e actions) := .acts g e actions hactions
    cases a with
    | note => exact ⟨_, .goOn _, rfl, hrest, le_rfl, rfl, by rintro due c ⟨⟩⟩
    | yield => exact ⟨s.log, .yield _, rfl, hrest, le_rfl, rfl, by rintro due c ⟨⟩⟩
    | wait ms =>
      by_cases hms : ms = 0
      · have hexec : exec s (.act g e (.wait ms)) (invocation g e actions) = (s, .goOn (invocation g e actions)) := by
          simp only [exec, hms, if_true]
        exact ⟨s.log, _, hexec, hrest, le_rfl, rfl, by rintro due c ⟨⟩⟩
      · have hexec : exec s (.act g e (.wait ms)) (invocation g e actions) =
            (s, .pause (s.now + ms) (invocation g e actions)) := by
          simp only [exec, hms, if_false]
        refine ⟨s.log, _, hexec, hrest, le_rfl, rfl, ?_⟩
        rintro due c ⟨⟩
        omega
    | panic =>
      have hafter : afterInvocation (invocation g e actions) = [] := by
        have h := afterInvocation_acts g e actions []
        rwa [List.append_nil] at h
      exact ⟨s.log, .goOn [], by simp [exec, hafter], .through, Nat.zero_le _, rfl, by rintro due c ⟨⟩⟩
    | _ => cases ha

/-! ## Calls in any order -/

/-- of two calls either may come first: they are of two handlers, or of one to which it makes no difference -/
def Apart (d d' : Record) : Prop :=
  d.1.handler.number = d'.1.handler.number → d.1.handler.IsSteady ∧ d'.1.handler.IsSteady

theorem called_comm (calls : List ℕ) (d d' : Record) : called (called calls d) d' = called (called calls d') d := by
  unfold called
  by_cases h : d.1.handler.number = d'.1.handler.number
  · rw [h]
  · rw [List.getElem?_set_ne h, List.getElem?_set_ne (Ne.symm h), List.set_comm _ _ h]

theorem opened_called {d d' : Record} (h : Apart d d') (calls : List ℕ) :
    opened (called calls d) d' = opened calls d' := by
  unfold opened called
  by_cases hn : d.1.handler.number = d'.1.handler.number
  · rw [(h hn).2 _ (calls[d'.1.handler.number]?.getD 0)]
  · rw [List.getElem?_set_ne hn]

theorem foldl_called_take (calls : List ℕ) (before : List Record) (d : Record) (after : List Record) :
    (before ++ d :: after).foldl called calls = (before ++ after).foldl called (called calls d) := by
  induction before generalizing calls with
  | nil => rfl
  | cons d' before ih =>
    rw [List.cons_append, List.foldl_cons, ih, called_comm]
    rfl

/-- **Which call begins first** does not matter to the code of them all. -/
theorem openedAll_take (calls : List ℕ) (before : List Record) (d : Record) (after : List Record)
    (h : ∀ d' ∈ before, Apart d' d) :
    (openedAll calls (before ++ d :: after)).Perm (opened calls d :: openedAll (called calls d) (before ++ after)) := by
  induction before generalizing calls with
  | nil => exact List.Perm.refl _
  | cons d' before ih =>
    have hd' : Apart d' d := h d' List.mem_cons_self
    have hd : Apart d d' := fun hn => (hd' hn.symm).symm
    have hrest := ih (called calls d') fun x hx => h x (List.mem_cons_of_mem _ hx)
    -- neither of the two sees that the other was called before it
    simp only [List.cons_append, openedAll]
    rw [opened_called hd', called_comm] at hrest
    rw [opened_called hd]
    exact (hrest.cons _).trans (List.Perm.swap _ _ _)

theorem openedAll_append (calls : List ℕ) (ds ds' : List Record) :
    openedAll calls (ds ++ ds') = openedAll calls ds ++ openedAll (ds.foldl called calls) ds' := by
  induction ds generalizing calls with
  | nil => rfl
  | cons d ds ih => rw [List.cons_append, openedAll, ih]; rfl

/-- a handler that is added has not been called, and its calls are counted apart -/
theorem called_new {calls : List ℕ} {d : Record} (h : d.1.handler.number < calls.length) :
    called (calls ++ [0]) d = called calls d ++ [0] ∧ opened (calls ++ [0]) d = opened calls d := by
  unfold called opened
  rw [List.getElem?_append_left h, List.set_append_left _ _ h]
  exact ⟨rfl, rfl⟩

theorem called_length (calls : List ℕ) (d : Record) : (called calls d).length = calls.length := List.length_set

theorem openedAll_new {calls : List ℕ} {ds : List Record} (h : ∀ d ∈ ds, d.1.handler.number < calls.length) :
    openedAll (calls ++ [0]) ds = openedAll calls ds ∧
      ds.foldl called (calls ++ [0]) = ds.foldl called calls ++ [0] := by
  induction ds generalizing calls with
  | nil => exact ⟨rfl, rfl⟩
  | cons d ds ih =>
    obtain ⟨hcalled, hopened⟩ := called_new (h d List.mem_cons_self)
    have hrest : ∀ d' ∈ ds, d'.1.handler.number < (called calls d).length := by
      intro d' hd'
      rw [called_length]
      exact h d' (List.mem_cons_of_mem _ hd')
    obtain ⟨hcode, hcalls⟩ := ih hrest
    simp only [openedAll, List.foldl_cons, hcalled, hopened, hcode, hcalls, and_self]

/-! ## Code up to its order -/

theorem load_cons (c : Code) (cs : List Code) : load (c :: cs) = 2 * c.length + 1 + load cs := by
  rw [load, List.map_cons, List.sum_cons, load]

theorem load_perm {cs cs' : List Code} (h : cs.Perm cs') : load cs = load cs' := (h.map _).sum_eq

/-- calls are due as before where none has begun and none has come -/
theorem callsDue_same {s s' : St} (hpending : s'.pending = s.pending) (hcalls : s'.calls = s.calls) :
    s'.callsDue = s.callsDue := by
  rw [St.callsDue, hpending, hcalls, St.callsDue]

/-! ## One step -/

/-- what a step leaves as it is, and what it takes from what is owed -/
structure Keeps (s : St) (rs : List Record) (s' : St) : Prop where
  mode : s'.mode = s.mode
  registry : s'.registry? = s.registry?
  handles : s'.handles = s.handles
  calls : s'.callsDue = s.callsDue
  owed : (rs ++ s'.owed).Perm s.owed

theorem Keeps.refl (s : St) : Keeps s [] s := ⟨rfl, rfl, rfl, rfl, List.Perm.refl _⟩

theorem Keeps.trans {s s1 s' : St} {rs rs' : List Record} (h : Keeps s rs s1) (h' : Keeps s1 rs' s') :
    Keeps s (rs ++ rs') s' := by
  refine ⟨h'.mode.trans h.mode, h'.registry.trans h.registry, h'.handles.trans h.handles, h'.calls.trans h.calls, ?_⟩
  rw [List.append_assoc]
  exact (h'.owed.append_left rs).trans h.owed

/-- a task is taken out that has begun its call -/
theorem work_take {s : St} {before after : List Code} {c : Code} (hready : s.ready = before ++ c :: after)
    (hc : call? c = none) :
    s.work.Perm (c :: St.work { s with ready := before ++ after }) ∧
      s.pending = St.pending { s with ready := before ++ after } := by
  have hpending : s.pending = St.pending { s with ready := before ++ after } := by
    simp [St.pending, hready, hc]
  refine ⟨?_, hpending⟩
  unfold St.work
  rw [hpending, hready]
  simp only [List.append_assoc, List.cons_append]
  exact List.perm_middle

/-- the call of a task that is taken out begins -/
theorem work_begin {s : St} {before after : List Code} {d : Record}
    (hready : s.ready = before ++ [.invoke d.1 d.2] :: after) (hturn : InTurn before (.invoke d.1 d.2)) :
    let t : St := { s with ready := before ++ after, calls := called s.calls d }
    s.work.Perm ([.invoke d.1 d.2] :: opened s.calls d :: t.work) ∧ s.callsDue = t.callsDue ∧
      s.pending.length = t.pending.length + 1 := by
  intro t
  have hpending : s.pending = before.filterMap call? ++ d :: after.filterMap call? := by
    simp [St.pending, hready, call?]
  have hrest : t.pending = before.filterMap call? ++ after.filterMap call? := by
    simp [t, St.pending]
  have hapart : ∀ d' ∈ before.filterMap call?, Apart d' d := by
    intro d' hd' hn
    obtain ⟨c, hc, hcall⟩ := List.mem_filterMap.1 hd'
    have hfresh : c = [.invoke d'.1 d'.2] := by
      unfold call? at hcall
      split at hcall
      · cases hcall; rfl
      · cases hcall
    exact hturn d' (hfresh ▸ hc) hn
  refine ⟨?_, ?_, ?_⟩
  · have hcalls := openedAll_take s.calls _ d (after.filterMap call?) hapart
    unfold St.work
    rw [hpending, hrest, hready]
    simp only [t, List.append_assoc, List.cons_append]
    refine List.perm_middle.trans (List.Perm.cons _ ?_)
    have hfront : ∀ (xs : List Code) {ys zs : List Code} {c : Code}, ys.Perm (c :: zs) →
        (xs ++ ys).Perm (c :: (xs ++ zs)) := fun xs _ _ _ h => (h.append_left xs).trans List.perm_middle
    exact hfront _ (hfront _ (hfront _ (hfront _ hcalls)))
  · rw [St.callsDue, St.callsDue, hpending, hrest, foldl_called_take]
  · rw [hpending, hrest]
    simp only [List.length_append, List.length_cons]
    omega

/-- a task is put back that has begun its call -/
theorem work_place (s : St) {o : Outcome} (ho : Begun o.code) :
    (place (s, o)).work.Perm (o.code :: s.work) ∧ (place (s, o)).pending = s.pending ∧
      (place (s, o)).calls = s.calls := by
  have hcall := ho.call?
  cases o with
  | goOn code =>
    have hpending : (place (s, .goOn code)).pending = s.pending := by
      simp only [Outcome.code] at hcall
      simp [place, St.pending, hcall]
    refine ⟨?_, hpending, rfl⟩
    unfold St.work
    rw [hpending]
    exact List.Perm.refl _
  | pause due code =>
    refine ⟨?_, rfl, rfl⟩
    have hmiddle : (s.ready ++ s.yielded ++ s.sleeping.map (·.2) ++ code :: openedAll s.calls s.pending).Perm
        (code :: s.work) := List.perm_middle
    simpa [St.work, place, St.pending, Outcome.code] using hmiddle
  | yield code =>
    refine ⟨?_, rfl, rfl⟩
    have hmiddle : (s.ready ++ s.yielded ++ code :: (s.sleeping.map (·.2) ++ openedAll s.calls s.pending)).Perm
        (code :: (s.ready ++ s.yielded ++ (s.sleeping.map (·.2) ++ openedAll s.calls s.pending))) := List.perm_middle
    simpa [St.work, place, St.pending, Outcome.code] using hmiddle

theorem exec_invoke (s : St) (d : Record) :
    exec s (.invoke d.1 d.2) [] = ({ s with calls := called s.calls d }, .goOn (opened s.calls d)) := by
  unfold opened
  rw [← List.append_nil (invocation d.1 d.2 _)]
  rfl

/-- tasks are under way with asynchronous dispatch only -/
theorem St.Sound.async {s : St} (hs : s.Sound) (h : ¬ s.IsIdle) : s.mode = .async := by
  cases hmode : s.mode with
  | sync => exact absurd (hs.alone hmode) h
  | async => rfl

theorem place_mode (s : St) (o : Outcome) : (place (s, o)).mode = s.mode := by cases o <;> rfl

theorem place_owed (s : St) {o : Outcome} (ho : Begun o.code) :
    (place (s, o)).owed.Perm (notes o.code ++ s.owed) := by
  have hwork := (work_place s ho).1.flatMap_right notes
  rwa [List.flatMap_cons] at hwork

theorem place_rank (s : St) {o : Outcome} (ho : Begun o.code) :
    (place (s, o)).rank ≤ s.rank + 2 * o.code.length + 2 := by
  obtain ⟨hwork, hpending, -⟩ := work_place s ho
  unfold St.rank
  rw [load_perm hwork, load_cons, hpending]
  cases o <;> simp [place, Outcome.code] <;> omega

theorem place_sound {s : St} (hs : s.Sound) (hmode : s.mode = .async) {o : Outcome} (ho : Begun o.code)
    (hdue : ∀ due c, o = .pause due c → s.now < due) : (place (s, o)).Sound := by
  have halone : (place (s, o)).mode = .sync → (place (s, o)).IsIdle := by
    intro hsync
    rw [place_mode, hmode] at hsync
    cases hsync
  cases o with
  | goOn code =>
    refine ⟨?_, hs.yielded, hs.sleeping, hs.registered, halone⟩
    intro c hc
    rcases List.mem_cons.1 hc with rfl | hc
    · exact Or.inl ho
    · exact hs.ready c hc
  | pause due code =>
    refine ⟨hs.ready, hs.yielded, ?_, hs.registered, halone⟩
    intro p hp
    rcases List.mem_append.1 hp with hp | hp
    · exact hs.sleeping p hp
    · rw [List.mem_singleton.1 hp]
      exact ⟨ho, hdue due code rfl⟩
  | yield code =>
    refine ⟨hs.ready, ?_, hs.sleeping, hs.registered, halone⟩
    intro c hc
    rcases List.mem_append.1 hc with hc | hc
    · exact hs.yielded c hc
    · rw [List.mem_singleton.1 hc]
      exact ho

/-- a task is taken out -/
theorem St.Sound.take {s : St} (hs : s.Sound) {before after : List Code} {c : Code}
    (hready : s.ready = before ++ c :: after) : St.Sound { s with ready := before ++ after } := by
  have hasync : s.mode = .async := hs.async fun h => by simp [h.1] at hready
  refine ⟨?_, hs.yielded, hs.sleeping, hs.registered, fun h => by rw [hasync] at h; cases h⟩
  intro x hx
  refine hs.ready x ?_
  rw [hready]
  rcases List.mem_append.1 hx with hx | hx
  · exact List.mem_append_left _ hx
  · exact List.mem_append_right _ (List.mem_cons_of_mem _ hx)

/-- an instruction notes `rs` and leads to `o`; `t` is what there is beside the task -/
structure Executes (s : St) (rs : List Record) (t : St) (o : Outcome) : Prop where
  sound : t.Sound
  begun : Begun o.code
  later : ∀ due c, o = .pause due c → t.now < due
  mode : t.mode = s.mode
  registry : t.registry? = s.registry?
  handles : t.handles = s.handles
  calls : t.callsDue = s.callsDue
  owed : (rs ++ (notes o.code ++ t.owed)).Perm s.owed
  rank : t.rank + 2 * o.code.length + 2 < s.rank

/-- **A task goes on by one instruction**: what it notes, and what is owed behind it, was owed before. -/
theorem exec_task {s : St} (hs : s.Sound) {before after : List Code} {i : Instr} {code : Code}
    (hready : s.ready = before ++ (i :: code) :: after) (hturn : InTurn before i) :
    ∃ t o, exec { s with ready := before ++ after } i code = (t, o) ∧ Executes s i.noted t o := by
  have htake : St.Sound { s with ready := before ++ after } := hs.take hready
  rcases hs.ready (i :: code) (by simp [hready]) with hbegun | ⟨d, hd, hknows⟩
  -- its call has begun: only the log changes
  · obtain ⟨log, o, hexec, ho, hlength, hnotes, hdue⟩ := exec_begun { s with ready := before ++ after } hbegun
    obtain ⟨hwork, hpending⟩ := work_take hready hbegun.call?
    have hsound : St.Sound { s with ready := before ++ after, log := log } :=
      ⟨htake.ready, htake.yielded, htake.sleeping, htake.registered, htake.alone⟩
    refine ⟨_, o, hexec, hsound, ho, hdue, rfl, rfl, rfl, callsDue_same hpending.symm rfl, ?_, ?_⟩
    · have howed := hwork.flatMap_right notes
      rw [List.flatMap_cons, ← hnotes, List.append_assoc] at howed
      exact howed.symm
    · have hrank : s.rank = 2 * (code.length + 1) + 1 + St.rank { s with ready := before ++ after } := by
        unfold St.rank
        rw [load_perm hwork, load_cons, List.length_cons, hpending]
        ring
      have hsame : St.rank { s with ready := before ++ after, log := log } =
          St.rank { s with ready := before ++ after } := rfl
      rw [hrank, hsame]
      omega
  -- its call begins now: it was owed with the count of calls that it finds
  · obtain ⟨rfl, rfl⟩ := List.cons.inj hd
    obtain ⟨hwork, hcalls, hpending⟩ := work_begin hready hturn
    have hquiet : Begun (opened s.calls d) := .acts d.1 d.2 _ (hknows.2 _ _)
    have hknown : ∀ h, s.Knows h → St.Knows { s with ready := before ++ after, calls := called s.calls d } h := by
      intro h hh
      exact ⟨(called_length s.calls d).symm ▸ hh.1, hh.2⟩
    have hsound : St.Sound { s with ready := before ++ after, calls := called s.calls d } := by
      refine ⟨?_, htake.yielded, htake.sleeping, ?_, htake.alone⟩
      · intro c hc
        rcases htake.ready c hc with hc | ⟨d', hd', hk⟩
        · exact Or.inl hc
        · exact Or.inr ⟨d', hd', hknown _ hk⟩
      · intro r hr g hg
        exact hknown _ (htake.registered r hr g hg)
    refine ⟨_, _, exec_invoke _ d, hsound, hquiet, by rintro due c ⟨⟩, rfl, rfl, rfl, hcalls.symm,
      (hwork.flatMap_right notes).symm, ?_⟩
    unfold St.rank
    rw [load_perm hwork, load_cons, load_cons, hpending]
    simp only [Outcome.code, List.length_cons, List.length_nil]
    omega

/-! ## Steps -/

/-- the tasks that are woken go on with what they had to do -/
theorem wake_work {s : St} (hs : s.Sound) (t : ℕ) :
    (s.wake t).work.Perm s.work ∧ (s.wake t).pending = s.pending := by
  have hbegun : ((s.sleeping.filter fun p => p.1 ≤ t).map (·.2)).filterMap call? = [] := by
    refine List.filterMap_eq_nil_iff.2 fun c hc => ?_
    obtain ⟨p, hp, rfl⟩ := List.mem_map.1 hc
    exact (hs.sleeping p (List.mem_filter.1 hp).1).1.call?
  have hpending : (s.wake t).pending = s.pending := by
    rw [St.pending, St.wake, List.filterMap_append, hbegun, List.append_nil, St.pending]
  have hsplit : ((s.sleeping.filter fun p => p.1 ≤ t) ++ s.sleeping.filter fun p => t < p.1).Perm s.sleeping := by
    have h := List.filter_append_perm (fun p => decide (p.1 ≤ t)) s.sleeping
    simpa [← decide_not, Nat.not_le] using h
  refine ⟨?_, hpending⟩
  unfold St.work
  rw [hpending]
  refine List.Perm.append_right _ ?_
  simp only [St.wake, List.append_assoc]
  refine List.Perm.append_left _ (List.perm_append_comm_assoc _ _ _ |>.trans (List.Perm.append_left _ ?_))
  rw [← List.map_append]
  exact hsplit.map _

/-- a task that let others run goes on with what it had to do -/
theorem resume_work {s : St} (hs : s.Sound) {before after : List Code} {c : Code}
    (hyielded : s.yielded = before ++ c :: after) :
    let t : St := { s with yielded := before ++ after, ready := s.ready ++ [c] }
    t.work.Perm s.work ∧ t.pending = s.pending := by
  intro t
  have hbegun : Begun c := hs.yielded c (by simp [hyielded])
  have hpending : t.pending = s.pending := by
    simp [t, St.pending, hbegun.call?]
  refine ⟨?_, hpending⟩
  unfold St.work
  rw [hpending, hyielded]
  refine List.Perm.append_right _ (List.Perm.append_right _ ?_)
  simp only [t, List.append_assoc, List.singleton_append]
  exact List.Perm.append_left _ List.perm_middle.symm

theorem goes_sound {s s' : St} {rs : List Record} (hs : s.Sound) (h : Goes s rs s') : s'.Sound := by
  cases h with
  | runs before i code after ready turn =>
    obtain ⟨t, o, hexec, h⟩ := exec_task hs ready turn
    have hasync : t.mode = .async := h.mode.trans (hs.async fun h => by simp [h.1] at ready)
    rw [hexec]
    exact place_sound h.sound hasync h.begun h.later
  | ends before after ready => exact hs.take ready
  | resumes before code after yielded =>
    have hasync : s.mode = .async := hs.async fun h => by simp [h.2.1] at yielded
    refine ⟨?_, ?_, hs.sleeping, hs.registered, fun h => by rw [hasync] at h; cases h⟩
    · intro c hc
      rcases List.mem_append.1 hc with hc | hc
      · exact hs.ready c hc
      · rw [List.mem_singleton.1 hc]
        exact Or.inl (hs.yielded code (by simp [yielded]))
    · intro c hc
      refine hs.yielded c ?_
      rw [yielded]
      rcases List.mem_append.1 hc with hc | hc
      · exact List.mem_append_left _ hc
      · exact List.mem_append_right _ (List.mem_cons_of_mem _ hc)

theorem wake_sound {s : St} (hs : s.Sound) (t : ℕ) : (s.wake t).Sound := by
  refine ⟨?_, hs.yielded, ?_, hs.registered, ?_⟩
  · intro c hc
    rcases List.mem_append.1 hc with hc | hc
    · exact hs.ready c hc
    · obtain ⟨p, hp, rfl⟩ := List.mem_map.1 hc
      exact Or.inl (hs.sleeping p (List.mem_filter.1 hp).1).1
  · intro p hp
    obtain ⟨hmem, hlate⟩ := List.mem_filter.1 hp
    exact ⟨(hs.sleeping p hmem).1, of_decide_eq_true hlate⟩
  · intro hsync
    obtain ⟨hready, hyielded, hsleeping⟩ := hs.alone hsync
    exact ⟨by simp [St.wake, hready, hsleeping], hyielded, by simp [St.wake, hsleeping]⟩

/-- **One step** notes what it takes away from what is owed. -/
theorem goes_keeps {s s' : St} {rs : List Record} (hs : s.Sound) (h : Goes s rs s') : Keeps s rs s' := by
  cases h with
  | runs before i code after ready turn =>
    obtain ⟨t, o, hexec, h⟩ := exec_task hs ready turn
    obtain ⟨-, hpending, hcount⟩ := work_place t h.begun
    rw [hexec]
    refine ⟨(place_mode t o).trans h.mode, ?_, ?_, ?_, ((place_owed t h.begun).append_left _).trans h.owed⟩
    · rw [← h.registry]
      cases o <;> rfl
    · rw [← h.handles]
      cases o <;> rfl
    · rw [← h.calls, callsDue_same hpending hcount]
  | ends before after ready =>
    obtain ⟨hwork, hpending⟩ := work_take ready rfl
    exact ⟨rfl, rfl, rfl, callsDue_same hpending.symm rfl, (hwork.flatMap_right notes).symm⟩
  | resumes before code after yielded =>
    obtain ⟨hwork, hpending⟩ := resume_work hs yielded
    exact ⟨rfl, rfl, rfl, callsDue_same hpending rfl, hwork.flatMap_right notes⟩

theorem wake_keeps {s : St} (hs : s.Sound) (t : ℕ) : Keeps s [] (s.wake t) := by
  obtain ⟨hwork, hpending⟩ := wake_work hs t
  exact ⟨rfl, rfl, rfl, callsDue_same hpending rfl, hwork.flatMap_right notes⟩

theorem wake_rank {s : St} (hs : s.Sound) (t : ℕ) :
    (s.wake t).rank ≤ s.rank ∧ ((∃ p ∈ s.sleeping, p.1 ≤ t) → (s.wake t).rank < s.rank) := by
  obtain ⟨hwork, hpending⟩ := wake_work hs t
  have hless : (s.wake t).sleeping.length ≤ s.sleeping.length := List.length_filter_le _ _
  have hyielded : (s.wake t).yielded = s.yielded := rfl
  unfold St.rank
  rw [load_perm hwork, hpending, hyielded]
  refine ⟨by omega, ?_⟩
  rintro ⟨p, hp, hdue⟩
  have hfewer : (s.wake t).sleeping.length < s.sleeping.length :=
    List.length_filter_lt_length_iff_exists.2 ⟨p, hp, by simpa using hdue⟩
  omega

/-- **One step** brings the tasks nearer to their end. -/
theorem goes_rank {s s' : St} {rs : List Record} (hs : s.Sound) (h : Goes s rs s') : s'.rank < s.rank := by
  cases h with
  | runs before i code after ready turn =>
    obtain ⟨t, o, hexec, h⟩ := exec_task hs ready turn
    have hplace := place_rank t h.begun
    have hrank := h.rank
    rw [hexec]
    omega
  | ends before after ready =>
    obtain ⟨hwork, hpending⟩ := work_take ready rfl
    unfold St.rank
    rw [load_perm hwork, load_cons, hpending]
    simp only [List.length_nil]
    omega
  | resumes before code after yielded =>
    obtain ⟨hwork, hpending⟩ := resume_work hs yielded
    unfold St.rank
    rw [load_perm hwork, hpending, yielded]
    simp only [List.length_append, List.length_cons]
    omega

theorem GoesOn.sound {s s' : St} {rs : List Record} (h : GoesOn s rs s') (hs : s.Sound) : s'.Sound := by
  induction h with
  | refl s => exact hs
  | step first _ ih => exact ih (goes_sound hs first)
  | wake t later _ ih => exact ih (wake_sound hs t)

theorem GoesOn.keeps {s s' : St} {rs : List Record} (h : GoesOn s rs s') (hs : s.Sound) : Keeps s rs s' := by
  induction h with
  | refl s => exact .refl s
  | step first _ ih => exact (goes_keeps hs first).trans (ih (goes_sound hs first))
  | wake t later _ ih => exact (wake_keeps hs t).trans (ih (wake_sound hs t))

theorem GoesOn.rank {s s' : St} {rs : List Record} (h : GoesOn s rs s') (hs : s.Sound) : s'.rank ≤ s.rank := by
  induction h with
  | refl s => exact le_rfl
  | step first _ ih => exact (ih (goes_sound hs first)).trans (goes_rank hs first).le
  | wake t later _ ih => exact (ih (wake_sound hs t)).trans (wake_rank hs t).1

theorem St.IsIdle.owed {s : St} (h : s.IsIdle) : s.owed = [] := by
  obtain ⟨hready, hyielded, hsleeping⟩ := h
  simp [St.owed, St.work, St.pending, hready, hyielded, hsleeping, openedAll]

theorem inTurn_nil (i : Instr) : InTurn [] i := by
  cases i with
  | invoke g e => intro d hd; cases hd
  | _ => trivial

/-- **Tasks come to their end** when they are let go on. By induction on how far they are from it: there is always one
that can go on, if need be after some time. -/
theorem goes_on_to_idle {s : St} (hs : s.Sound) : ∃ rs s', GoesOn s rs s' ∧ s'.IsIdle := by
  induction hn : s.rank using Nat.strong_induction_on generalizing s with
  | _ n ih =>
    subst hn
    have hstep {s1 : St} {rs : List Record} (h : Goes s rs s1) : ∃ rs s', GoesOn s rs s' ∧ s'.IsIdle := by
      obtain ⟨rs', s', hgo, hidle⟩ := ih s1.rank (goes_rank hs h) (goes_sound hs h) rfl
      exact ⟨_, s', .step h hgo, hidle⟩
    rcases hready : s.ready with _ | ⟨_ | ⟨i, code⟩, rest⟩
    · rcases hyielded : s.yielded with _ | ⟨code, rest⟩
      · rcases hsleeping : s.sleeping with _ | ⟨p, rest⟩
        · exact ⟨[], s, .refl s, hready, hyielded, hsleeping⟩
        · have hp : p ∈ s.sleeping := by simp [hsleeping]
          have hrank := (wake_rank hs p.1).2 ⟨p, hp, le_rfl⟩
          obtain ⟨rs, s', hgo, hidle⟩ := ih _ hrank (wake_sound hs p.1) rfl
          exact ⟨rs, s', .wake p.1 (hs.sleeping p hp).2.le hgo, hidle⟩
      · exact hstep (.resumes [] code rest hyielded)
    · exact hstep (.ends [] rest hready)
    · exact hstep (.runs [] i code rest hready (inTurn_nil i))

end ServiceMonitor.Bus
