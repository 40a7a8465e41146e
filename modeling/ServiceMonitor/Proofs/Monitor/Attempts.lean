import Mathlib.Tactic
import ServiceMonitor.Monitor.Run

/-!
The attempts of a worker, and what a watcher of one host makes of them.

An attempt is a list call, a subscription attempt, a wait for an item of a stream, or a wait that a stop cuts short.
`attempts` lists those of one worker in a run, in the order they end. `Watch` is the reference: one host, its services
by name, no table, no clock and no other host. `Genuine` says that attempts end as the provider's answers have it.
-/

namespace ServiceMonitor.Monitor

/-! ## Attempts -/

/-- an attempt that has ended, with its outcome -/
inductive Attempt where
  | listed (answer : ListAnswer)
  | opened (answer : OpenAnswer)
  | pushed (item : Item)
  /-- given up because of a stop -/
  | abandoned

/-- the attempt that is over when a worker goes on from a phase -/
def Phase.attempt? : Phase → Option Attempt
  | .polling _ _ answer | .resyncing _ _ answer => some (.listed answer)
  | .opening _ answer => some (.opened answer)
  | .listening (some (_, item)) _ => some (.pushed item)
  | _ => none

/-- the attempts of worker `i` that end with an act -/
def endedBy (i : Nat) (s : St) : Act → List Attempt
  | .go j =>
    match s.workers[i]? with
    | some w => if j = i ∧ s.isReady w then w.phase.attempt?.toList else []
    | none => []
  | .quit j =>
    match s.workers[i]? with
    | some w => if j = i ∧ s.mustQuit w then [.abandoned] else []
    | none => []
  | .start | .stop | .tick _ => []

/-- the attempts of worker `i` in a run, in the order they end -/
def attempts (c : Setup) (i : Nat) : St → List Act → List Attempt
  | _, [] => []
  | s, a :: acts => endedBy i s a ++ attempts c i (step c s a) acts

/-! ## The reference -/

/-- what a watcher of one host knows: whether nothing was attempted yet, whether the host is recorded unreachable, and
the last known state of each service -/
structure Watch where
  startup : Bool
  down : Bool
  known : String → ServiceMonitor.Lifecycle

namespace Watch

def start : Watch := ⟨true, false, fun _ => .unknown⟩

/-- one thing behind another: what they report adds up -/
def andThen (x : Watch × List Change) (f : Watch → Watch × List Change) : Watch × List Change :=
  ((f x.1).1, x.2 ++ (f x.1).2)

/-- the host answered -/
def reach (t : Target) (w : Watch) : Watch × List Change :=
  ({ w with down := false }, if w.down then [.recovered t.host] else [])

/-- the host did not answer -/
def miss (t : Target) (reason : String) (w : Watch) : Watch × List Change :=
  ({ w with down := true }, if w.down then [] else [.unreachable t.host reason])

/-- a service was read -/
def see (skipFirst : Bool) (t : Target) (o : Observation) (w : Watch) : Watch × List Change :=
  if o.state = .unknown ∨ o.state = w.known o.name then (w, [])
  else
    ({ w with known := Function.update w.known o.name o.state },
      if w.known o.name = .unknown ∧ skipFirst then []
      else [.service t.host o.name t.provider.source (w.known o.name) o.state])

/-- services were read, in order -/
def seeAll (skipFirst : Bool) (t : Target) : List Observation → Watch → Watch × List Change
  | [], w => (w, [])
  | o :: os, w => andThen (w.see skipFirst t o) (seeAll skipFirst t os)

/-- something has been attempted -/
def begun (w : Watch) : Watch := { w with startup := false }

/-- an attempt has ended: what is known then, and what is reported -/
def after (skipFirst : Bool) (t : Target) (w : Watch) : Attempt → Watch × List Change
  | .listed (.ok os) => andThen (w.begun.reach t) (seeAll skipFirst t os)
  | .listed (.error e) => if w.startup ∧ e.isPermanent then (w, []) else w.begun.miss t e.message
  | .opened (.ok _) => (w.begun, [])
  | .opened (.error .unsupported) => (w, [])
  | .opened (.error e) => if w.startup ∧ e.isPermanent then (w, []) else w.begun.miss t e.message
  | .pushed (.observation o) => andThen (w.reach t) (see skipFirst t o)
  | .pushed (.fault e) => w.miss t e.message
  | .pushed .closed => w.miss t Worker.closedByProvider
  | .abandoned => (w, [])

/-- attempts have ended, one behind the other -/
def run (skipFirst : Bool) (t : Target) : List Attempt → Watch → Watch × List Change
  | [], w => (w, [])
  | a :: as, w => andThen (w.after skipFirst t a) (run skipFirst t as)

theorem andThen_assoc (x : Watch × List Change) (f g : Watch → Watch × List Change) :
    andThen (andThen x f) g = andThen x fun w => andThen (f w) g := by
  simp [andThen]

theorem run_snoc (skipFirst : Bool) (t : Target) (as : List Attempt) (a : Attempt) (w : Watch) :
    run skipFirst t (as ++ [a]) w = andThen (run skipFirst t as w) fun v => v.after skipFirst t a := by
  induction as generalizing w with
  | nil => simp [run, andThen]
  | cons b as ih =>
    simp only [List.cons_append, run, andThen_assoc]
    congr 1
    funext v
    exact ih v

end Watch

/-! ## What the provider answers -/

/-- how far a provider's script has been gone through -/
structure Place where
  lists : Nat
  opens : Nat
  stream : List Item

namespace Place

/-- nothing was asked -/
def start : Place := ⟨0, 0, []⟩

/-- the items that a subscription attempt makes available -/
def itemsOf : OpenAnswer → List Item
  | .ok stream => stream.map (·.2)
  | .error _ => []

/-- the outcome is the one that the provider has for it, or that it took too long -/
def Admits (p : Policy) (t : Target) (x : Place) : Attempt → Prop
  | .listed answer => answer = (p.limited (.timeout p.timeout) 0 (t.provider.list x.lists)).2
  | .opened answer => answer = (p.limited (.opening (.timeout p.timeout)) 0 (t.provider.subscribe x.opens)).2
  | .pushed item => x.stream.head? = some item
  | .abandoned => True

/-- an attempt has ended -/
def next (x : Place) : Attempt → Place
  | .listed _ => { x with lists := x.lists + 1 }
  | .opened answer => { x with opens := x.opens + 1, stream := itemsOf answer }
  | .pushed _ => { x with stream := x.stream.tail }
  | .abandoned => x

end Place

/-- attempts end as the provider has it: its replies to list calls and subscription attempts in turn, each cut at the
timeout, and the items of the stream that was opened last in turn -/
def Genuine (p : Policy) (t : Target) : Place → List Attempt → Prop
  | _, [] => True
  | x, a :: as => x.Admits p t a ∧ Genuine p t (x.next a) as

theorem genuine_snoc (p : Policy) (t : Target) (x : Place) (as : List Attempt) (a : Attempt) :
    Genuine p t x (as ++ [a]) ↔ Genuine p t x as ∧ (as.foldl Place.next x).Admits p t a := by
  induction as generalizing x with
  | nil => simp [Genuine]
  | cons b as ih => simp only [List.cons_append, Genuine, ih, List.foldl_cons, and_assoc]

/-- the answer does not depend on when the call was made -/
theorem limited_snd {ε α : Type} (p : Policy) (late : ε) (now now' : Nat) (r : Reply (Except ε α)) :
    (p.limited late now r).2 = (p.limited late now' r).2 := by
  simp only [Policy.limited]; split_ifs <;> rfl

end ServiceMonitor.Monitor
