import ServiceMonitor.Event

/-!
Who is subscribed to which events.

A registry is a list in the order of registration. Ids count up and are never given twice, so a subscription goes on
naming its own registration: ending it twice, or after others have ended, changes nothing more.
-/

namespace ServiceMonitor.Bus

/-- how events reach their handlers: one after the other while the publisher waits, or each in a task of its own -/
inductive Dispatch where
  | sync
  | async
  deriving DecidableEq, Repr

def Dispatch.described : Dispatch → String
  | .sync => "Sync"
  | .async => "Async"

/-- a handler that gets events of a kind -/
structure Registration (η : Type) where
  id : Nat
  kind : Kind
  handler : η

/-- what a subscriber holds: enough to end the registration -/
structure Subscription where
  id : Nat
  kind : Kind
  deriving DecidableEq, Repr

structure Registry (η : Type) where
  nextId : Nat
  live : List (Registration η)

namespace Registry

variable {η : Type}

def empty : Registry η := ⟨0, []⟩

def subscribe (r : Registry η) (k : Kind) (h : η) : Registry η × Subscription :=
  (⟨r.nextId + 1, r.live ++ [⟨r.nextId, k, h⟩]⟩, ⟨r.nextId, k⟩)

/-- adds a handler for several kinds, one registration each -/
def subscribeEach (r : Registry η) (ks : List Kind) (h : η) : Registry η × List Subscription :=
  match ks with
  | [] => (r, [])
  | k :: ks =>
    let (r, s) := r.subscribe k h
    let (r, ss) := r.subscribeEach ks h
    (r, s :: ss)

def subscribeAll (r : Registry η) (h : η) : Registry η × List Subscription := r.subscribeEach Kind.all h

def unsubscribe (r : Registry η) (id : Nat) : Registry η :=
  { r with live := r.live.filter fun g => g.id != id }

def ofKind (r : Registry η) (k : Kind) : List (Registration η) := r.live.filter fun g => g.kind = k

def count (r : Registry η) (k : Kind) : Nat := (r.ofKind k).length

def counts (r : Registry η) : List Nat := Kind.all.map r.count

def described (r : Registry η) (mode : Dispatch) : String :=
  "EventBus \x7b mode: " ++ mode.described ++ ", registrations: " ++ toString r.live.length ++ " \x7d"

end Registry

end ServiceMonitor.Bus
