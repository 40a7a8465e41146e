import ServiceMonitor.Agent.Watched
import ServiceMonitor.Proofs.Json.Listing
import ServiceMonitor.Proofs.Monitor.Applied

/-!
A list of services counts as a whole.

The body of a reply is an array of services exactly if it splits into texts that are services each by itself
(`ArrayOf`). Then the call yields an observation for each, in order, and all of them are reconciled. Any other reply is
a failure, however much of it can be read, and the record of the host is all that changes.

- `listOfBytes_iff`: what the decoder takes, without the decoder of arrays.
- `Spoils.not_arrayOf`: one bad element is enough, whatever stands in front of it and behind it.
- `listing_whole`: the reply, the call, and what the monitor does with it.
-/

namespace ServiceMonitor.Agent

open Http (Bytes Failure Network Reply)
open Json (Blank Enclosed Holds IsArray NoElement maxDepth skipBlank)
open Monitor (Applies Misses Reconciles Report Setup St Target Worker)

/-! ## Services in an array -/

/-- an array of texts that hold a service each -/
def ArrayOf (body : Bytes) (services : List Service) : Prop :=
  ∃ parts, IsArray parts body ∧ List.Forall₂ (fun part service => Service.ofBytes part = .ok service) parts services

/-- where an element should begin: nothing that is read as a service, or a service with other text behind it -/
inductive Spoils : Bytes → Prop
  | unreadable {bad : Bytes} {e : Json.Error} (read : Service.reader maxDepth bad = .error e) : Spoils bad
  | trailing {part text : Bytes} {service : Service} (read : Service.ofBytes part = .ok service)
    (comma : (skipBlank text).head? ≠ some 0x2C) (bracket : (skipBlank text).head? ≠ some 0x5D) : Spoils (part ++ text)

/-- no field of a service is read beyond the quote of its string -/
theorem service_near : ∀ f ∈ ([.of "name" Json.anyString (fun v s => { s with name := v }) .required,
      .of "state" Json.anyString (fun v s => { s with state := v }) .required,
      .of "status" Json.anyString (fun v s => { s with status := v }) (.default fun s => { s with status := "" })] :
      List (Json.Field Service)), f.Near := by
  intro f hf
  simp only [List.mem_cons, List.not_mem_nil, or_false] at hf
  rcases hf with rfl | rfl | rfl <;> exact Json.Field.near_text _ _ _ _

theorem reader_anyLevel : Service.reader (maxDepth - 1) = Service.reader maxDepth :=
  Json.record_depth _ service_near _ (by decide) (by decide)

theorem service_enclosed : Enclosed (Service.reader maxDepth) := Json.record_enclosed service_near _ _ _

theorem ofBytes_iff {part : Bytes} {service : Service} :
    Service.ofBytes part = .ok service ↔ Holds (Service.reader maxDepth) part service :=
  Json.decode_eq_ok_iff

/-- **The decoder** takes exactly the arrays whose elements are services by themselves. -/
theorem listOfBytes_iff {body : Bytes} {services : List Service} :
    Service.listOfBytes body = .ok services ↔ ArrayOf body services := by
  have henclosed : Enclosed (Service.reader (maxDepth - 1)) := reader_anyLevel ▸ service_enclosed
  rw [Service.listOfBytes, Json.decode_listOf_iff henclosed, reader_anyLevel]
  simp only [ArrayOf, ofBytes_iff]

theorem exists_services {parts : List Bytes} (h : ∀ part ∈ parts, ∃ service, Service.ofBytes part = .ok service) :
    ∃ services, List.Forall₂ (fun part service => Service.ofBytes part = .ok service) parts services := by
  induction parts with
  | nil => exact ⟨[], .nil⟩
  | cons part parts ih =>
    obtain ⟨service, hservice⟩ := h part List.mem_cons_self
    obtain ⟨services, hservices⟩ := ih fun part hpart => h part (List.mem_cons_of_mem _ hpart)
    exact ⟨service :: services, .cons hservice hservices⟩

theorem Spoils.noElement {bad : Bytes} (h : Spoils bad) : NoElement (Service.reader maxDepth) bad := by
  intro v r hread
  cases h with
  | unreadable hbad => rw [hbad] at hread; cases hread
  | trailing hpart hcomma hbracket =>
    obtain ⟨blanks, hblanks, hservice⟩ := service_enclosed.reads (ofBytes_iff.1 hpart) _
    rw [hservice] at hread
    cases hread
    rw [Json.skipBlank_append hblanks]
    exact ⟨hcomma, hbracket⟩

/-- **One bad element spoils the array**, wherever it stands and whatever follows. -/
theorem Spoils.not_arrayOf {bad : Bytes} (h : Spoils bad) {parts : List Bytes} {services : List Service}
    (hparts : List.Forall₂ (fun part service => Service.ofBytes part = .ok service) parts services)
    (hfirst : parts = [] → (skipBlank bad).head? ≠ some 0x5D) {before : Bytes} (hbefore : Blank before)
    (all : List Service) : ¬ArrayOf (before ++ 0x5B :: [0x2C].intercalate (parts ++ [bad])) all := by
  rw [← listOfBytes_iff]
  have henclosed : Enclosed (Service.reader (maxDepth - 1)) := reader_anyLevel ▸ service_enclosed
  simp only [ofBytes_iff, ← reader_anyLevel] at hparts
  exact Json.listOf_spoiled henclosed hparts (reader_anyLevel ▸ h.noElement) hfirst hbefore all

/-! ## Replies -/

namespace Provider

variable {p : Provider} {r : Reply} {network : Network}

theorem list_eq_listed (h : (p.request servicesPath).bind network = .ok r) : p.list network = p.listed r := by
  rw [list, h]

/-- a reply says that all is well, and its body is an array of these services -/
def Lists (r : Reply) (services : List Service) : Prop :=
  Http.isSuccess r.status = true ∧ ∃ body, r.wholeBody = .ok body ∧ ArrayOf body services

theorem listed_ok {services : List Service} (h : Lists r services) :
    p.listed r = .ok (services.map Service.observation) := by
  obtain ⟨hstatus, body, hbody, harray⟩ := h
  have hobservations : observations? body = .ok (services.map Service.observation) := by
    rw [observations?, listOfBytes_iff.2 harray]
  rw [listed, if_pos hstatus, hbody]
  simp only [Except.bind, hobservations]
  rfl

/-- no failure of an exchange tells that there is no point in another -/
theorem fault_transient (p : Provider) (f : Failure) : (p.fault f).isPermanent = false := by
  unfold fault
  split_ifs <;> rfl

/-- any other reply is a failure -/
theorem listed_error (h : ∀ services, ¬Lists r services) : ∃ e, p.listed r = .error e ∧ e.isPermanent = false := by
  by_cases hstatus : Http.isSuccess r.status = true
  · rw [listed, if_pos hstatus]
    cases hbody : r.wholeBody with
    | error f => exact ⟨p.fault f, rfl, p.fault_transient f⟩
    | ok body =>
      cases hservices : Service.listOfBytes body with
      | error e =>
        refine ⟨p.fault (.decoding false), ?_, p.fault_transient _⟩
        simp only [Except.bind, observations?, hservices]
        rfl
      | ok services => exact absurd ⟨hstatus, body, hbody, listOfBytes_iff.1 hservices⟩ (h services)
  · exact ⟨.status r.status, if_neg hstatus, rfl⟩

end Provider

/-! ## What the monitor makes of a reply -/

/-- **All or nothing.** Whatever a reply is, and whatever the tracker knows when the call is over: if the status is one
of success and the body is an array of services, the call yields the name, the state and the status of each of them in
order, and the monitor reconciles all of them: behind them each service has the last known state listed, and each change
on the way is published. Otherwise the call fails, and all that the monitor makes of it is that
the host is missed. It is so if a single element is malformed, lacks a field or has other text behind it, however good
those in front of it are, and whatever comes after it. -/
theorem listing_whole (p : Provider) {network : Network} {r : Reply}
    (hreply : (p.request Provider.servicesPath).bind network = .ok r)
    {c : Setup} {i : ℕ} {t : Target} (ht : c.targets[i]? = some t) {s : St} (hsound : s.Sound) {ends : ℕ}
    (hcall : (s.workerAt i).phase.attempt? = some (.listed (p.list network)))
    (hends : (s.workerAt i).phase.due? = some ends) :
    (∀ services, Provider.Lists r services →
      let os : List Observation := services.map fun x => ⟨x.name, lifecycle x.state, x.status⟩
      p.list network = .ok os ∧ Applies c i t s ends (.success :: os.map .observe) ∧
      ∀ tracker, Reconciles t os tracker (Worker.tellAll t (.success :: os.map .observe) tracker).1
        (Worker.tellAll t (.success :: os.map .observe) tracker).2) ∧
    ((∀ services, ¬Provider.Lists r services) → ∃ e, p.list network = .error e ∧
      Applies c i t s ends [.failure e.message] ∧
      ∀ tracker, Misses t e.message tracker (Worker.tellAll t [.failure e.message] tracker).1
        (Worker.tellAll t [.failure e.message] tracker).2) ∧
    ∀ before parts bad, Blank before → (∀ part ∈ parts, ∃ service, Service.ofBytes part = .ok service) →
      Spoils bad → (parts = [] → (skipBlank bad).head? ≠ some 0x5D) →
      r.wholeBody = .ok (before ++ 0x5B :: [0x2C].intercalate (parts ++ [bad])) →
      ∀ services, ¬Provider.Lists r services := by
  refine ⟨fun services hlists => ?_, fun hnone => ?_, ?_⟩
  · have hlist : p.list network = .ok (services.map Service.observation) := by
      rw [Provider.list_eq_listed hreply, Provider.listed_ok hlists]
    rw [hlist] at hcall
    exact ⟨hlist, Monitor.answer_applied ht hsound hcall hends rfl, Monitor.tellAll_listed t _⟩
  · obtain ⟨e, herror, htransient⟩ := Provider.listed_error (p := p) hnone
    have hlist : p.list network = .error e := by rw [Provider.list_eq_listed hreply, herror]
    rw [hlist] at hcall
    exact ⟨e, hlist, Monitor.answer_applied ht hsound hcall hends htransient, Monitor.tellAll_failure t e.message⟩
  · rintro before parts bad hbefore hparts hbad hfirst hbody services ⟨-, body, hwhole, harray⟩
    rw [hbody] at hwhole
    cases hwhole
    obtain ⟨values, hvalues⟩ := exists_services hparts
    exact hbad.not_arrayOf hvalues hfirst hbefore services harray

/-! ## Two services, the second of them complete or not -/

def web : Bytes := Utf8.ofString "\x7b\"name\":\"web\",\"state\":\"Up\"\x7d"

def db : Bytes := Utf8.ofString " \x7b\"state\":\"exited\",\"id\":7,\"name\":\"db\"\x7d"

/-- a service without a state -/
def stateless : Bytes := Utf8.ofString "\x7b\"name\":\"db\"\x7d"

/-- a reply with two services, in two pieces -/
def reply (first second : Bytes) : Reply := ⟨200, [.ok (0x5B :: first), .ok (0x2C :: second ++ [0x5D])]⟩

def nas : Provider := .make "http://nas:8080/" (some "secret") (.ofSecs 5)

/-- a target whose agent always replies the same -/
def nasTarget (r : Reply) : Target := ⟨"nas", nas.watched fun _ => (0, fun _ => .ok r), .poll⟩

/-- the first known state of a service is a change, too -/
def nasOnly (r : Reply) : Setup := ⟨[nasTarget r], { Monitor.Policy.standard with skipFirst := false }, fun _ _ => 0⟩

/-- the first poll is under way -/
def polling (r : Reply) : St := Monitor.run (nasOnly r) (Monitor.start (nasOnly r)) [.start, .go 0, .go 0]

theorem nas_requests (r : Reply) : (nas.request Provider.servicesPath).bind (fun _ => .ok r) = .ok r := by
  have hrequest : (nas.request Provider.servicesPath).isOk = true := by decide +kernel
  cases h : nas.request Provider.servicesPath with
  | error f => rw [h] at hrequest; cases hrequest
  | ok o => rfl

theorem nas_alone (r : Reply) (acts : List Monitor.Act) : ∀ j t', j ≠ 0 → (nasOnly r).targets[j]? = some t' →
    t'.host = (nasTarget r).host → Monitor.toldIn (nasOnly r) j (polling r) acts = [] := by
  intro j t' hj ht' _
  obtain ⟨k, rfl⟩ := Nat.exists_eq_succ_of_ne_zero hj
  cases ht'

/-- both services are reconciled if both are complete, and none of them if one is not -/
theorem listing_whole_stateless :
    (let c := nasOnly (reply web db)
      let s := polling (reply web db)
      let after := Monitor.run c s [.go 0, .go 0, .go 0, .go 0]
      Applies c 0 (nasTarget (reply web db)) s 0
        [.success, .observe ⟨"web", .running, ""⟩, .observe ⟨"db", .stopped, ""⟩] ∧
      after.tracker.lifecycle ⟨"nas", "web", "agent"⟩ = .running ∧
      after.tracker.lifecycle ⟨"nas", "db", "agent"⟩ = .stopped ∧ after.tracker.reachability "nas" = .reachable ∧
      Monitor.changesOf "nas" after.log =
        [.service "nas" "web" "agent" .unknown .running, .service "nas" "db" "agent" .unknown .stopped]) ∧
    let c := nasOnly (reply web stateless)
    let s := polling (reply web stateless)
    let after := Monitor.run c s [.go 0, .go 0]
    ∃ e, nas.list (fun _ => .ok (reply web stateless)) = .error e ∧
      Applies c 0 (nasTarget (reply web stateless)) s 0 [.failure e.message] ∧
      (∀ name, after.tracker.lifecycle ⟨"nas", name, "agent"⟩ = .unknown) ∧
      Monitor.changesOf "nas" after.log = [.unreachable "nas" e.message] := by
  have hsound (r : Reply) : (polling r).Sound := Monitor.run_sound _ _
  have htarget (r : Reply) : (nasOnly r).targets[0]? = some (nasTarget r) := rfl
  have hends (r : Reply) : ((polling r).workerAt 0).phase.due? = some 0 := rfl
  have hwhole (r : Reply) := listing_whole nas (nas_requests r) (htarget r) (hsound r) rfl (hends r)
  have hblank : Blank [] := fun _ h => absurd h List.not_mem_nil
  have hweb : Service.ofBytes web = .ok ⟨"web", "Up", ""⟩ := by decide +kernel
  constructor
  · have hlists : Provider.Lists (reply web db) [⟨"web", "Up", ""⟩, ⟨"db", "exited", ""⟩] := by
      refine ⟨rfl, _, rfl, [web, db], ⟨[], web ++ 0x2C :: db, [], ?_, hblank, hblank, Or.inr ⟨?_, ?_⟩⟩, ?_⟩
      · decide +kernel
      · exact List.cons_ne_nil _ _
      · decide +kernel
      · exact .cons hweb (.cons (by decide +kernel) .nil)
    obtain ⟨-, happlies, hreconciles⟩ := (hwhole _).1 _ hlists
    obtain ⟨htracker, hlog⟩ := happlies.together [.go 0, .go 0, .go 0, .go 0] (nas_alone _ _)
    have htold : Monitor.toldIn (nasOnly (reply web db)) 0 (polling (reply web db)) [.go 0, .go 0, .go 0, .go 0] =
        [.success, .observe ⟨"web", .running, ""⟩, .observe ⟨"db", .stopped, ""⟩] := by
      decide +kernel
    rw [htold] at htracker hlog
    obtain ⟨hentries, -, hhost, hchanges⟩ := hreconciles (polling (reply web db)).tracker
    refine ⟨happlies, ?_, ?_, ?_, ?_⟩
    · exact (htracker.lifecycle _ rfl).trans (hentries "web")
    · exact (htracker.lifecycle _ rfl).trans (hentries "db")
    · exact htracker.reachability.trans (hhost "nas")
    · exact hlog.trans hchanges
  · have hread : Service.reader maxDepth (stateless ++ [0x5D]) = .error (.missingField "state") := by decide +kernel
    have hparts : ∀ part ∈ [web], ∃ service, Service.ofBytes part = .ok service := by
      intro part hpart
      rw [List.mem_singleton.1 hpart]
      exact ⟨_, hweb⟩
    have hbody : (reply web stateless).wholeBody =
        .ok ([] ++ 0x5B :: [0x2C].intercalate ([web] ++ [stateless ++ [0x5D]])) := by
      decide +kernel
    have hnone := (hwhole (reply web stateless)).2.2 [] [web] _ hblank hparts (.unreadable hread) (by simp) hbody
    obtain ⟨e, hlist, happlies, hmisses⟩ := (hwhole _).2.1 hnone
    have hfault : nas.list (fun _ => .ok (reply web stateless)) = .error (nas.fault (.decoding false)) := by
      decide +kernel
    obtain rfl : nas.fault (.decoding false) = e := Except.error.inj (hfault.symm.trans hlist)
    obtain ⟨htracker, hlog⟩ := happlies.together [.go 0, .go 0] (nas_alone _ _)
    have htold : Monitor.toldIn (nasOnly (reply web stateless)) 0 (polling (reply web stateless)) [.go 0, .go 0] =
        [.failure (nas.fault (.decoding false)).message] := by
      decide +kernel
    rw [htold] at htracker hlog
    obtain ⟨hservices, -, hchanges⟩ := hmisses (polling (reply web stateless)).tracker
    refine ⟨_, hlist, happlies, fun name => ?_, hlog.trans hchanges⟩
    exact (htracker.lifecycle _ rfl).trans (congrArg (Tracker.find · _) hservices)

end ServiceMonitor.Agent
