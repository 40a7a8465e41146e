import Mathlib.Tactic
import ServiceMonitor.Bus.Registry

/-!
Registries reached by subscribing and unsubscribing.

`build` is the registry behind a sequence of operations. Its ids increase in the order of registration and are all
below the next one (`Inv`), so an id names one registration for good: it stays until it is unsubscribed
(`mem_applyAll`), and of a handler subscribed to every kind exactly one registration gets an event
(`ofKind_subscribeAll`).
-/

namespace ServiceMonitor.Bus.Registry

variable {η : Type}

/-- what is done to a registry -/
inductive Op (η : Type) where
  | subscribe (kind : Kind) (handler : η)
  | subscribeAll (handler : η)
  | unsubscribe (id : Nat)

def apply (r : Registry η) : Op η → Registry η
  | .subscribe k h => (r.subscribe k h).1
  | .subscribeAll h => (r.subscribeAll h).1
  | .unsubscribe id => r.unsubscribe id

def applyAll (r : Registry η) (ops : List (Op η)) : Registry η := ops.foldl apply r

/-- the registry that a sequence of operations leads to -/
def build (ops : List (Op η)) : Registry η := applyAll empty ops

theorem applyAll_append (r : Registry η) (a b : List (Op η)) : r.applyAll (a ++ b) = (r.applyAll a).applyAll b := by
  simp [applyAll, List.foldl_append]

theorem build_append (a b : List (Op η)) : build (a ++ b) = (build a).applyAll b := applyAll_append empty a b

/-! ## Ids -/

/-- ids increase in the order of registration and are below the next one -/
structure Inv (r : Registry η) : Prop where
  below : ∀ g ∈ r.live, g.id < r.nextId
  increasing : (r.live.map (·.id)).Pairwise (· < ·)

theorem inv_empty : Inv (empty : Registry η) := by
  constructor <;> simp [empty]

theorem Inv.subscribe {r : Registry η} (h : Inv r) (k : Kind) (handler : η) : Inv (r.subscribe k handler).1 := by
  refine ⟨fun g hg => ?_, ?_⟩
  · simp only [Registry.subscribe, List.mem_append, List.mem_singleton] at hg ⊢
    rcases hg with hg | rfl
    · exact Nat.lt_succ_of_lt (h.below g hg)
    · exact Nat.lt_succ_self _
  · simp only [Registry.subscribe, List.map_append, List.map_cons, List.map_nil]
    refine List.pairwise_append.2 ⟨h.increasing, List.pairwise_singleton _ _, fun a ha b hb => ?_⟩
    obtain ⟨g, hg, rfl⟩ := List.mem_map.1 ha
    rw [List.mem_singleton.1 hb]
    exact h.below g hg

theorem Inv.subscribeEach {r : Registry η} (h : Inv r) (ks : List Kind) (handler : η) :
    Inv (r.subscribeEach ks handler).1 := by
  induction ks generalizing r with
  | nil => exact h
  | cons k ks ih => exact ih (h.subscribe k handler)

theorem Inv.unsubscribe {r : Registry η} (h : Inv r) (id : Nat) : Inv (r.unsubscribe id) :=
  ⟨fun g hg => h.below g (List.mem_filter.1 hg).1, h.increasing.sublist ((List.filter_sublist).map _)⟩

theorem Inv.apply {r : Registry η} (h : Inv r) (op : Op η) : Inv (r.apply op) := by
  cases op with
  | subscribe k handler => exact h.subscribe k handler
  | subscribeAll handler => exact h.subscribeEach Kind.all handler
  | unsubscribe id => exact h.unsubscribe id

theorem Inv.applyAll {r : Registry η} (h : Inv r) (ops : List (Op η)) : Inv (r.applyAll ops) := by
  induction ops generalizing r with
  | nil => exact h
  | cons op ops ih => exact ih (h.apply op)

theorem build_inv (ops : List (Op η)) : Inv (build ops) := inv_empty.applyAll ops

/-- an id names one registration -/
theorem Inv.eq_of_id {r : Registry η} (h : Inv r) {g g' : Registration η} (hg : g ∈ r.live) (hg' : g' ∈ r.live)
    (hid : g.id = g'.id) : g = g' :=
  List.inj_on_of_nodup_map (h.increasing.imp Nat.ne_of_lt) hg hg' hid

/-- the registrations of a kind come in the order of their ids -/
theorem Inv.ofKind_increasing {r : Registry η} (h : Inv r) (k : Kind) :
    ((r.ofKind k).map (·.id)).Pairwise (· < ·) :=
  h.increasing.sublist ((List.filter_sublist).map _)

/-! ## Registrations that stay -/

theorem mem_subscribeEach {r : Registry η} {g : Registration η} (ks : List Kind) (handler : η) (hg : g ∈ r.live) :
    g ∈ (r.subscribeEach ks handler).1.live := by
  induction ks generalizing r with
  | nil => exact hg
  | cons k ks ih => exact ih (List.mem_append_left _ hg)

theorem subscribeEach_live (r : Registry η) (ks : List Kind) (handler : η) :
    ∃ new, (r.subscribeEach ks handler).1.live = r.live ++ new ∧ ∀ g ∈ new, g.handler = handler := by
  induction ks generalizing r with
  | nil => exact ⟨[], (List.append_nil _).symm, by simp⟩
  | cons k ks ih =>
    obtain ⟨new, hlive, hnew⟩ := ih (r.subscribe k handler).1
    refine ⟨⟨r.nextId, k, handler⟩ :: new, ?_, ?_⟩
    · rw [Registry.subscribeEach]
      simpa [Registry.subscribe] using hlive
    · simpa using hnew

/-- a registration stays until it is unsubscribed -/
theorem mem_applyAll {r : Registry η} {g : Registration η} (ops : List (Op η)) (hg : g ∈ r.live)
    (hops : .unsubscribe g.id ∉ ops) : g ∈ (r.applyAll ops).live := by
  induction ops generalizing r with
  | nil => exact hg
  | cons op ops ih =>
    refine ih ?_ (fun h => hops (List.mem_cons_of_mem _ h))
    cases op with
    | subscribe k handler => exact List.mem_append_left _ hg
    | subscribeAll handler => exact mem_subscribeEach Kind.all handler hg
    | unsubscribe id =>
      refine List.mem_filter.2 ⟨hg, ?_⟩
      simp only [bne_iff_ne, ne_eq]
      rintro rfl
      exact hops List.mem_cons_self

/-- the registrations that subscribing a handler to every kind makes, from an id on -/
def oneOfEach (n : Nat) (handler : η) : List (Registration η) :=
  [⟨n, .serviceStateChanged, handler⟩, ⟨n + 1, .hostUnreachable, handler⟩, ⟨n + 2, .hostRecovered, handler⟩]

theorem subscribeAll_spec (r : Registry η) (handler : η) :
    (r.subscribeAll handler).1.live = r.live ++ oneOfEach r.nextId handler ∧
      (r.subscribeAll handler).2.map (·.id) = (oneOfEach r.nextId handler).map (·.id) := by
  simp [subscribeAll, subscribeEach, subscribe, Kind.all, oneOfEach]

theorem exists_mem_oneOfEach (n : Nat) (handler : η) (k : Kind) :
    ∃ g ∈ oneOfEach n handler, g.kind = k ∧ g.handler = handler ∧ ∀ x ∈ oneOfEach n handler, x.kind = k → x = g := by
  cases k with
  | serviceStateChanged => exact ⟨⟨n, .serviceStateChanged, handler⟩, by simp [oneOfEach]⟩
  | hostUnreachable => exact ⟨⟨n + 1, .hostUnreachable, handler⟩, by simp [oneOfEach]⟩
  | hostRecovered => exact ⟨⟨n + 2, .hostRecovered, handler⟩, by simp [oneOfEach]⟩

theorem filter_eq_singleton {α : Type} {l : List α} {p : α → Bool} {a : α} (hl : l.Nodup) (ha : a ∈ l) (hp : p a)
    (honly : ∀ x ∈ l, p x → x = a) : l.filter p = [a] := by
  have hn : (l.filter p).Nodup := hl.filter p
  have hm : ∀ x, x ∈ l.filter p ↔ x = a := fun x =>
    ⟨fun hx => honly x (List.mem_filter.1 hx).1 (List.mem_filter.1 hx).2, fun hx => hx ▸ List.mem_filter.2 ⟨ha, hp⟩⟩
  exact List.perm_singleton.1 ((List.perm_ext_iff_of_nodup hn (List.nodup_singleton a)).2 fun x => by simp [hm])

/-- **Subscribed to every kind, called once.** As long as none of its registrations is unsubscribed, exactly one of
the registrations of a kind belongs to a handler that was subscribed to every kind. -/
theorem ofKind_subscribeAll {r : Registry η} (h : Inv r) (handler : η) (later : List (Op η))
    (hlater : ∀ id ∈ (r.subscribeAll handler).2.map (·.id), .unsubscribe id ∉ later) (k : Kind) :
    ∃ g, g.handler = handler ∧
      (((r.subscribeAll handler).1.applyAll later).ofKind k).filter
        (fun x => x.id ∈ (r.subscribeAll handler).2.map (·.id)) = [g] := by
  obtain ⟨hlive, hids⟩ := subscribeAll_spec r handler
  obtain ⟨g, hg, hk, hh, honly⟩ := exists_mem_oneOfEach r.nextId handler k
  have hi : Inv ((r.subscribeAll handler).1.applyAll later) := (h.subscribeEach Kind.all handler).applyAll later
  have stays : ∀ x ∈ oneOfEach r.nextId handler, x ∈ ((r.subscribeAll handler).1.applyAll later).live := fun x hx =>
    mem_applyAll later (hlive ▸ List.mem_append_right _ hx) (hlater _ (hids ▸ List.mem_map_of_mem hx))
  refine ⟨g, hh, filter_eq_singleton ?_ ?_ ?_ ?_⟩
  · exact List.Nodup.of_map _ ((hi.ofKind_increasing k).imp Nat.ne_of_lt)
  · exact List.mem_filter.2 ⟨stays g hg, by simpa using hk⟩
  · rw [hids]; exact decide_eq_true (List.mem_map_of_mem hg)
  · intro x hx hxid
    rw [hids] at hxid
    obtain ⟨y, hy, hyid⟩ := List.mem_map.1 (of_decide_eq_true hxid)
    obtain ⟨hxlive, hxk⟩ := List.mem_filter.1 hx
    have : y = x := hi.eq_of_id (stays y hy) hxlive hyid
    subst this
    exact honly y hy (of_decide_eq_true hxk)

end ServiceMonitor.Bus.Registry
