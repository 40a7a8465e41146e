import ServiceMonitor.Event

/-!
Last known states, and the changes between them.

A service goes by host, name and source. An observed state that differs from the last known one is a change; an unknown
state is ignored, and with `skipFirst` so is the first known one. A host is reported unreachable by the first failure of a run of
failures and recovered by the success after it; its first success is silent.
-/

namespace ServiceMonitor

structure ServiceKey where
  host : String
  name : String
  source : String
  deriving DecidableEq, Repr

inductive Reachability where
  | unknown
  | reachable
  | unreachable
  deriving DecidableEq, Repr, Inhabited

/-- last known states; what was never observed is unknown -/
structure Tracker where
  skipFirst : Bool
  services : List (ServiceKey × Lifecycle)
  hosts : List (String × Reachability)
  deriving DecidableEq, Repr

namespace Tracker

def start (skipFirst : Bool) : Tracker := ⟨skipFirst, [], []⟩

def find {κ α : Type} [DecidableEq κ] [Inhabited α] (table : List (κ × α)) (k : κ) : α :=
  ((table.find? (fun e => e.1 = k)).map (·.2)).getD default

/-- puts a value in the place of a key, or behind all others -/
def put {κ α : Type} [DecidableEq κ] (k : κ) (v : α) : List (κ × α) → List (κ × α)
  | [] => [(k, v)]
  | e :: es => if e.1 = k then (k, v) :: es else e :: put k v es

theorem find_cons {κ α : Type} [DecidableEq κ] [Inhabited α] (e : κ × α) (es : List (κ × α)) (k : κ) :
    find (e :: es) k = if e.1 = k then e.2 else find es k := by
  by_cases h : e.1 = k <;> simp [find, h]

/-- what is put under a key is found under this key and no other -/
theorem find_put {κ α : Type} [DecidableEq κ] [Inhabited α] (table : List (κ × α)) (k k' : κ) (v : α) :
    find (put k v table) k' = if k = k' then v else find table k' := by
  induction table with
  | nil => rw [put, find_cons]
  | cons e es ih =>
    simp only [put]
    by_cases he : e.1 = k
    · rw [if_pos he, find_cons, find_cons, he]
      by_cases hk : k = k' <;> simp [hk]
    · rw [if_neg he, find_cons, find_cons, ih]
      by_cases hk : k = k'
      · subst hk; simp [he]
      · rw [if_neg hk, if_neg hk]

def lifecycle (t : Tracker) (k : ServiceKey) : Lifecycle := find t.services k

def reachability (t : Tracker) (host : String) : Reachability := find t.hosts host

def observe (t : Tracker) (host source : String) (o : Observation) : Tracker × Option Change :=
  let key : ServiceKey := ⟨host, o.name, source⟩
  let last := t.lifecycle key
  if o.state = .unknown || o.state = last then (t, none)
  else
    let t' := { t with services := put key o.state t.services }
    if last = .unknown && t.skipFirst then (t', none)
    else (t', some (.service host o.name source last o.state))

def success (t : Tracker) (host : String) : Tracker × Option Change :=
  match t.reachability host with
  | .reachable => (t, none)
  | .unknown => ({ t with hosts := put host .reachable t.hosts }, none)
  | .unreachable => ({ t with hosts := put host .reachable t.hosts }, some (.recovered host))

def failure (t : Tracker) (host reason : String) : Tracker × Option Change :=
  match t.reachability host with
  | .unreachable => (t, none)
  | _ => ({ t with hosts := put host .unreachable t.hosts }, some (.unreachable host reason))

/-! ## What the operations do -/

/-- the service that an observation is about -/
def keyOf (host source : String) (o : Observation) : ServiceKey := ⟨host, o.name, source⟩

@[simp] theorem observe_skipFirst (t : Tracker) (host source : String) (o : Observation) :
    (t.observe host source o).1.skipFirst = t.skipFirst := by
  simp only [observe]
  split
  · rfl
  · split <;> rfl

@[simp] theorem observe_reachability (t : Tracker) (host source : String) (o : Observation) (h : String) :
    (t.observe host source o).1.reachability h = t.reachability h := by
  simp only [observe]
  split
  · rfl
  · split <;> rfl

/-- a known state is remembered for its own service, an unknown one for none -/
theorem observe_lifecycle (t : Tracker) (host source : String) (o : Observation) (k : ServiceKey) :
    (t.observe host source o).1.lifecycle k =
      if keyOf host source o = k ∧ o.state ≠ .unknown then o.state else t.lifecycle k := by
  by_cases hu : o.state = .unknown
  · simp [observe, hu]
  · by_cases hs : o.state = t.lifecycle (keyOf host source o)
    · have : (t.observe host source o).1 = t := by simp only [keyOf] at hs; simp [observe, ← hs]
      rw [this]
      by_cases hk : keyOf host source o = k
      · simp [← hk, ← hs]
      · simp [hk]
    · have : (t.observe host source o).1 = { t with services := put (keyOf host source o) o.state t.services } := by
        simp only [keyOf] at hs ⊢
        simp only [observe, hu, hs, decide_false, Bool.or_self, Bool.false_eq_true, if_false]
        split <;> rfl
      rw [this]
      simp only [lifecycle, find_put, hu, ne_eq, not_false_eq_true, and_true]

theorem observe_snd (t : Tracker) (host source : String) (o : Observation) :
    (t.observe host source o).2 =
      if o.state = .unknown ∨ o.state = t.lifecycle (keyOf host source o) ∨
        (t.lifecycle (keyOf host source o) = .unknown ∧ t.skipFirst = true) then none
      else some (.service host o.name source (t.lifecycle (keyOf host source o)) o.state) := by
  simp only [observe, keyOf]
  by_cases hu : o.state = .unknown
  · simp [hu]
  · by_cases hs : o.state = t.lifecycle ⟨host, o.name, source⟩
    · simp [hs]
    · by_cases hf : t.lifecycle ⟨host, o.name, source⟩ = .unknown ∧ t.skipFirst = true
      · simp [hf.1, hf.2, hu]
      · simp only [hu, hs, hf, decide_false, Bool.or_self, Bool.false_eq_true, if_false, or_self]
        rw [if_neg (by simpa using hf)]

@[simp] theorem success_skipFirst (t : Tracker) (host : String) : (t.success host).1.skipFirst = t.skipFirst := by
  simp only [success]; split <;> rfl

@[simp] theorem success_lifecycle (t : Tracker) (host : String) (k : ServiceKey) :
    (t.success host).1.lifecycle k = t.lifecycle k := by
  simp only [success]; split <;> rfl

theorem success_reachability (t : Tracker) (host h : String) :
    (t.success host).1.reachability h = if host = h then .reachable else t.reachability h := by
  simp only [success]
  split
  · rename_i hr
    by_cases hh : host = h
    · subst hh; simp [hr]
    · simp [hh]
  all_goals simp only [reachability, find_put]

theorem success_snd (t : Tracker) (host : String) :
    (t.success host).2 = if t.reachability host = .unreachable then some (.recovered host) else none := by
  simp only [success]; split <;> simp_all

@[simp] theorem failure_skipFirst (t : Tracker) (host reason : String) :
    (t.failure host reason).1.skipFirst = t.skipFirst := by
  simp only [failure]; split <;> rfl

@[simp] theorem failure_lifecycle (t : Tracker) (host reason : String) (k : ServiceKey) :
    (t.failure host reason).1.lifecycle k = t.lifecycle k := by
  simp only [failure]; split <;> rfl

theorem failure_reachability (t : Tracker) (host reason h : String) :
    (t.failure host reason).1.reachability h = if host = h then .unreachable else t.reachability h := by
  simp only [failure]
  split
  · rename_i hr
    by_cases hh : host = h
    · subst hh; simp [hr]
    · simp [hh]
  · simp only [reachability, find_put]

theorem failure_snd (t : Tracker) (host reason : String) :
    (t.failure host reason).2 =
      if t.reachability host = .unreachable then none else some (.unreachable host reason) := by
  simp only [failure]; split <;> simp_all

/-! ## Runs -/

inductive Op where
  | observe (host source : String) (o : Observation)
  | success (host : String)
  | failure (host reason : String)
  deriving DecidableEq, Repr

def step (t : Tracker) : Op → Tracker × Option Change
  | .observe host source o => t.observe host source o
  | .success host => t.success host
  | .failure host reason => t.failure host reason

/-- the state after a sequence of calls and what each of them returned -/
def run (t : Tracker) : List Op → Tracker × List (Option Change)
  | [] => (t, [])
  | op :: ops =>
    let (t', c) := t.step op
    let (t'', cs) := t'.run ops
    (t'', c :: cs)

end Tracker

end ServiceMonitor
