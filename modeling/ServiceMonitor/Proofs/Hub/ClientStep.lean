import Mathlib.Tactic
import ServiceMonitor.Hub.Run

/-!
What a step of the hub does to one client.

A client is named by its place in the list of connections, which only grows. `ClientStep` lists what can happen to it,
with the act that does it and the condition; whatever happens to other clients leaves it alone. Broadcasts are offered
to every client at once (`offered?`).

- `step_client`: every step of the hub is one of these for every client.
- `step_broadcasts`, `step_limits`: what the whole hub does.
-/

namespace ServiceMonitor.Hub

/-- the text that an act broadcasts -/
def offered? (s : St) : Act → Option String
  | .broadcast e => some (WireMessage.ofEvent e).text
  | .dispatch => if s.loop = .running then s.channel.head?.map fun e => (WireMessage.ofEvent e).text else none
  | _ => none

/-- what an act makes of client `i` -/
inductive ClientStep (s : St) (i : ℕ) (a : Act) (c : Client) : Client → Prop
  | idle (quiet : offered? s a = none) (runs : a ≠ .stop) : ClientStep s i a c c
  | offered {text : String} (said : offered? s a = some text) :
      ClientStep s i a c (c.offer s.limits.capacity text)
  | stopped (act : a = .stop) : ClientStep s i a c { c with registered := false, cancelled := true }
  | took {pingAt : ℕ} {text : String} {rest : List String} (act : a = .take i) (waits : c.writer = .waiting pingAt)
      (queued : c.queue = text :: rest) :
      ClientStep s i a c { c with queue := rest, writer := s.begin (.message text) }
  | pinged {pingAt : ℕ} (act : a = .ping i) (waits : c.writer = .waiting pingAt) (time : pingAt ≤ s.now) :
      ClientStep s i a c { c with writer := s.begin .ping }
  | left {pingAt : ℕ} (act : a = .leave i) (waits : c.writer = .waiting pingAt)
      (ended : c.cancelled = true ∨ (c.registered = false ∧ c.queue = [])) :
      ClientStep s i a c { c with writer := s.begin .close }
  | wrote {what : Outgoing} {deadline : Option ℕ} (act : a = .wrote i) (writes : c.writer = .writing what deadline)
      (goesOn : what ≠ .close) :
      ClientStep s i a c { c with writer := .waiting s.pingTime, written := c.written ++ [what] }
  | closed {deadline : Option ℕ} (act : a = .wrote i) (writes : c.writer = .writing .close deadline) :
      ClientStep s i a c { c.drop with writer := .done, written := c.written ++ [.close] }
  | failed {what : Outgoing} {deadline : Option ℕ} (act : a = .broken i)
      (writes : c.writer = .writing what deadline) :
      ClientStep s i a c { c.drop with writer := .done }
  | late {what : Outgoing} {deadline : ℕ} (act : a = .late i) (writes : c.writer = .writing what (some deadline))
      (time : deadline ≤ s.now) : ClientStep s i a c { c.drop with writer := .done }
  | hungUp (act : a = .hangUp i) (reads : c.reading = true) : ClientStep s i a c { c.drop with reading := false }
  | endedRead (act : a = .endRead i) (reads : c.reading = true) (told : c.cancelled = true) :
      ClientStep s i a c { c.drop with reading := false }

theorem update_get {s : St} {i j : ℕ} {c : Client} (h : s.clients[i]? = some c) (f : Client → Client) :
    (s.update j f).clients[i]? = some (if j = i then f c else c) := by
  rw [St.update, List.getElem?_modify, h]
  split_ifs <;> rfl

/-- an act on client `j` alone leaves every other client as it is -/
theorem update_client {s : St} {i j : ℕ} {c : Client} (h : s.clients[i]? = some c) (a : Act) (f : Client → Client)
    (hstep : step s a = s.update j f) (quiet : offered? s a = none) (runs : a ≠ .stop)
    (hf : j = i → ClientStep s i a c (f c)) : ∃ c', (step s a).clients[i]? = some c' ∧ ClientStep s i a c c' := by
  refine ⟨_, by rw [hstep, update_get h], ?_⟩
  split_ifs with hj
  · exact hf hj
  · exact .idle quiet runs

/-- **One step, one client.** A client stays in its place, and one of the things listed happens to it. -/
theorem step_client {s : St} {i : ℕ} {c : Client} (h : s.clients[i]? = some c) (a : Act) :
    ∃ c', (step s a).clients[i]? = some c' ∧ ClientStep s i a c c' := by
  have stays (hclients : (step s a).clients = s.clients) (quiet : offered? s a = none) (runs : a ≠ .stop) :
      ∃ c', (step s a).clients[i]? = some c' ∧ ClientStep s i a c c' :=
    ⟨c, by rw [hclients, h], .idle quiet runs⟩
  cases a with
  | start => exact stays (by simp only [step]; split_ifs <;> rfl) rfl (by simp)
  | stop => exact ⟨_, by simp only [step, St.unsubscribe, List.getElem?_map, h, Option.map_some], .stopped rfl⟩
  | publish e => exact stays (by simp only [step]; split_ifs <;> rfl) rfl (by simp)
  | dispatch =>
    cases hc : s.channel with
    | nil => exact stays (by simp [step, hc]) (by simp [offered?, hc]) (by simp)
    | cons e rest =>
      by_cases hl : s.loop = .running
      · have said : offered? s .dispatch = some (WireMessage.ofEvent e).text := by simp [offered?, hl, hc]
        refine ⟨_, ?_, .offered said⟩
        simp [step, hc, hl, St.broadcast, h]
      · exact stays (by simp [step, hc, hl]) (by simp [offered?, hl]) (by simp)
  | endLoop => exact stays (by simp only [step]; split_ifs <;> rfl) rfl (by simp)
  | broadcast e =>
    refine ⟨_, ?_, .offered rfl⟩
    simp [step, St.broadcast, h]
  | connect =>
    obtain ⟨hi, -⟩ := List.getElem?_eq_some_iff.1 h
    exact ⟨c, by simp only [step]; rw [List.getElem?_append_left hi, h], .idle rfl (by simp)⟩
  | tick t => exact stays (by simp only [step]; split_ifs <;> rfl) rfl (by simp)
  | take j =>
    refine update_client h _ _ rfl rfl (by simp) ?_
    rintro rfl
    split
    · rename_i hw hq
      exact .took rfl hw hq
    · exact .idle rfl (by simp)
  | ping j =>
    refine update_client h _ _ rfl rfl (by simp) ?_
    rintro rfl
    split
    · rename_i hw
      split_ifs with hp
      · exact .pinged rfl hw hp
      · exact .idle rfl (by simp)
    · exact .idle rfl (by simp)
  | leave j =>
    refine update_client h _ _ rfl rfl (by simp) ?_
    rintro rfl
    split
    · rename_i hw
      split_ifs with hl
      · exact .left rfl hw (by simpa using hl)
      · exact .idle rfl (by simp)
    · exact .idle rfl (by simp)
  | wrote j =>
    refine update_client h _ _ rfl rfl (by simp) ?_
    rintro rfl
    simp only [Client.wrote]
    split
    · rename_i hw
      exact .closed rfl hw
    · rename_i what deadline hne hw
      exact .wrote rfl hw hne
    · exact .idle rfl (by simp)
  | late j =>
    refine update_client h _ _ rfl rfl (by simp) ?_
    rintro rfl
    split
    · rename_i hw
      split_ifs with ht
      · simp only [Client.giveUp, hw]
        exact .late rfl hw ht
      · exact .idle rfl (by simp)
    · exact .idle rfl (by simp)
  | broken j =>
    refine update_client h _ _ rfl rfl (by simp) ?_
    rintro rfl
    simp only [Client.giveUp]
    split
    · rename_i hw
      exact .failed rfl hw
    · exact .idle rfl (by simp)
  | hangUp j =>
    refine update_client h _ _ rfl rfl (by simp) ?_
    rintro rfl
    split_ifs with hr
    · exact .hungUp rfl hr
    · exact .idle rfl (by simp)
  | endRead j =>
    refine update_client h _ _ rfl rfl (by simp) ?_
    rintro rfl
    split_ifs with hr
    · rw [Bool.and_eq_true] at hr
      exact .endedRead rfl hr.1 hr.2
    · exact .idle rfl (by simp)

/-! ## The whole hub -/

@[simp] theorem step_limits (s : St) (a : Act) : (step s a).limits = s.limits := by
  cases a with
  | dispatch => simp only [step]; split; rfl; split_ifs <;> rfl
  | start | publish | endLoop | tick => simp only [step]; split_ifs <;> rfl
  | _ => rfl

@[simp] theorem run_limits (s : St) (acts : List Act) : (run s acts).limits = s.limits := by
  induction acts generalizing s with
  | nil => rfl
  | cons a acts ih => exact (ih (step s a)).trans (step_limits s a)

theorem step_broadcasts (s : St) (a : Act) : (step s a).broadcasts = s.broadcasts ++ (offered? s a).toList := by
  cases a with
  | dispatch =>
    simp only [step, offered?]
    cases s.channel with
    | nil => simp
    | cons e rest => split_ifs <;> simp [St.broadcast]
  | broadcast e => rfl
  | start | publish | endLoop | tick =>
    simp only [step, offered?, Option.toList_none, List.append_nil]
    split_ifs <;> rfl
  | _ => exact (List.append_nil _).symm

theorem run_snoc (s : St) (acts : List Act) (a : Act) : run s (acts ++ [a]) = step (run s acts) a := by
  simp [run]

end ServiceMonitor.Hub
