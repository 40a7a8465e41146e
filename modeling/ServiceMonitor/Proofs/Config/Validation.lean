import Mathlib.Data.List.Forall2
import Mathlib.Data.List.TakeWhile
import Mathlib.Tactic
import ServiceMonitor.Agent.Watched
import ServiceMonitor.Config.Check

/-!
The check of a configuration, against what it is to accept and to report.

`Fault before h e` says what is wrong with a host that stands behind others; `FirstFault` is the fault of the first host that
has one. The check keeps the names it has seen, a list in another order than the hosts have: what carries the induction is that
both hold the same names.

- `checkHosts_ok_iff`, `checkHosts_error_iff`: the check of a list of hosts is the search for the first fault.
- `faultless_iff`: no fault is to have a name and an address each, and no name twice.
- `check_exact`: what is accepted, what is reported, and what an accepted configuration makes the monitor watch.
-/

namespace ServiceMonitor.Config

open Monitor (Target)

/-- the name has a character that shows -/
def Host.Named (h : Host) : Prop := ∃ c ∈ h.name.toList, Text.isBlank c = false

instance (h : Host) : Decidable h.Named :=
  decidable_of_iff (h.name.toList.any (!Text.isBlank ·) = true) (by simp [Host.Named])

/-- the address can be read -/
def Host.Addressed (h : Host) : Prop := ∃ url, Url.ofText h.url = .ok url

/-- what is wrong with a host behind others: no name, else the name of one of them, else no address -/
inductive Fault (before : List Host) (h : Host) : ConfigError → Prop where
  | blank : ¬h.Named → Fault before h .emptyHostName
  | repeated : h.Named → h.name ∈ before.map Host.name → Fault before h (.duplicateHost h.name)
  | address {e : Url.Error} : h.Named → h.name ∉ before.map Host.name → Url.ofText h.url = .error e →
      Fault before h (.invalidUrl h.name e.message)

/-- behind `front`, no host has a fault -/
def Faultless (front hosts : List Host) : Prop :=
  ∀ before h after, hosts = before ++ h :: after → ∀ e, ¬Fault (front ++ before) h e

/-- behind `front`, `e` is the fault of the first host that has one -/
def FirstFault (front hosts : List Host) (e : ConfigError) : Prop :=
  ∃ before h after, hosts = before ++ h :: after ∧ Faultless front before ∧ Fault (front ++ before) h e

/-! ## One host -/

/-- only blanks are left of nothing but blanks -/
theorem trim_isEmpty_iff (cs : List Char) : (Text.trim cs).isEmpty = true ↔ ∀ c ∈ cs, Text.isBlank c = true := by
  rw [List.isEmpty_iff, Text.trim, Text.trimEnd, List.reverse_eq_nil_iff, List.dropWhile_eq_nil_iff]
  simp only [List.mem_reverse]
  refine ⟨fun hblank => ?_, fun hblank c hc => hblank c ((List.dropWhile_suffix _).subset hc)⟩
  by_contra hsome
  have hne : Text.trimStart cs ≠ [] := fun hnil => hsome (List.dropWhile_eq_nil_iff.1 hnil)
  have hfirst := List.head_dropWhile_not Text.isBlank hne
  exact Bool.false_ne_true (hfirst.symm.trans (hblank _ (List.head_mem hne)))

theorem isBlankName_iff (h : Host) : isBlankName h.name = true ↔ ¬h.Named := by
  rw [isBlankName, trim_isEmpty_iff, Host.Named]
  push Not
  simp only [ne_eq, Bool.not_eq_false]

/-- the check of one host finds its fault, where the names seen are those of the hosts before it -/
theorem checkHost_error_iff {seen : List String} {front : List Host} (hseen : ∀ n, n ∈ seen ↔ n ∈ front.map Host.name)
    (h : Host) (e : ConfigError) : checkHost seen h = .error e ↔ Fault front h e := by
  rw [checkHost]
  by_cases hnamed : h.Named
  · have hblank : ¬isBlankName h.name = true := fun hblank => (isBlankName_iff h).1 hblank hnamed
    have hcontains : seen.contains h.name = true ↔ h.name ∈ front.map Host.name := List.contains_iff_mem.trans (hseen _)
    rw [if_neg hblank]
    by_cases hrepeated : h.name ∈ front.map Host.name
    · rw [if_pos (hcontains.2 hrepeated)]
      constructor
      · rintro ⟨⟩
        exact .repeated hnamed hrepeated
      · rintro (hunnamed | - | ⟨-, hnew, -⟩)
        · exact absurd hnamed hunnamed
        · rfl
        · exact absurd hrepeated hnew
    · rw [if_neg fun hold => hrepeated (hcontains.1 hold)]
      constructor
      · cases hurl : Url.ofText h.url with
        | ok url => rintro ⟨⟩
        | error reason =>
          rintro ⟨⟩
          exact .address hnamed hrepeated hurl
      · rintro (hunnamed | ⟨-, hold⟩ | ⟨-, -, hurl⟩)
        · exact absurd hnamed hunnamed
        · exact absurd hold hrepeated
        · rw [hurl]
  · rw [if_pos ((isBlankName_iff h).2 hnamed)]
    constructor
    · rintro ⟨⟩
      exact .blank hnamed
    · rintro (- | ⟨hsome, -⟩ | ⟨hsome, -, -⟩)
      · rfl
      · exact absurd hsome hnamed
      · exact absurd hsome hnamed

/-- a host without a fault has a name of its own and an address -/
theorem not_fault_iff (before : List Host) (h : Host) :
    (∀ e, ¬Fault before h e) ↔ h.Named ∧ h.name ∉ before.map Host.name ∧ h.Addressed := by
  constructor
  · intro hnone
    have hnamed : h.Named := by_contra fun hunnamed => hnone _ (.blank hunnamed)
    have hnew : h.name ∉ before.map Host.name := fun hold => hnone _ (.repeated hnamed hold)
    refine ⟨hnamed, hnew, ?_⟩
    cases hurl : Url.ofText h.url with
    | ok url => exact ⟨url, hurl⟩
    | error reason => exact absurd (.address hnamed hnew hurl) (hnone _)
  · rintro ⟨hnamed, hnew, url, hurl⟩ e (hunnamed | ⟨-, hold⟩ | ⟨-, -, hbad⟩)
    · exact hunnamed hnamed
    · exact hnew hold
    · exact nomatch hbad.symm.trans hurl

/-! ## A list of hosts -/

theorem faultless_nil (front : List Host) : Faultless front [] := by
  rintro before h after hsplit
  exact absurd hsplit.symm (List.append_ne_nil_of_right_ne_nil _ (List.cons_ne_nil _ _))

theorem faultless_cons {front : List Host} {h : Host} {hs : List Host} :
    Faultless front (h :: hs) ↔ (∀ e, ¬Fault front h e) ∧ Faultless (front ++ [h]) hs := by
  constructor
  · intro hnone
    refine ⟨by simpa using hnone [] h hs rfl, fun before h' after hsplit => ?_⟩
    simpa using hnone (h :: before) h' after (by rw [hsplit, List.cons_append])
  · rintro ⟨hfirst, hrest⟩ before h' after hsplit
    cases before with
    | nil =>
      obtain ⟨rfl, rfl⟩ := List.cons.inj hsplit
      simpa using hfirst
    | cons b before =>
      obtain ⟨rfl, hrest'⟩ := List.cons.inj hsplit
      simpa using hrest before h' after hrest'

theorem not_firstFault_nil (front : List Host) (e : ConfigError) : ¬FirstFault front [] e := by
  rintro ⟨before, h, after, hsplit, -, -⟩
  exact absurd hsplit.symm (List.append_ne_nil_of_right_ne_nil _ (List.cons_ne_nil _ _))

theorem firstFault_cons {front : List Host} {h : Host} {hs : List Host} {e : ConfigError} :
    FirstFault front (h :: hs) e ↔
      Fault front h e ∨ (∀ e', ¬Fault front h e') ∧ FirstFault (front ++ [h]) hs e := by
  constructor
  · rintro ⟨before, h', after, hsplit, hbefore, hfault⟩
    cases before with
    | nil =>
      obtain ⟨rfl, rfl⟩ := List.cons.inj hsplit
      exact .inl (by simpa using hfault)
    | cons b before =>
      obtain ⟨rfl, hrest⟩ := List.cons.inj hsplit
      obtain ⟨hfirst, hbehind⟩ := faultless_cons.1 hbefore
      exact .inr ⟨hfirst, before, h', after, hrest, hbehind, by simpa using hfault⟩
  · rintro (hfault | ⟨hfirst, before, h', after, rfl, hbehind, hfault⟩)
    · exact ⟨[], h, hs, rfl, faultless_nil front, by simpa using hfault⟩
    · exact ⟨h :: before, h', after, rfl, faultless_cons.2 ⟨hfirst, hbehind⟩, by simpa using hfault⟩

/-- both outcomes of the check at once: the names seen stay those of the hosts passed -/
theorem checkHosts_iff {seen : List String} (front : List Host) (hseen : ∀ n, n ∈ seen ↔ n ∈ front.map Host.name)
    (hosts : List Host) :
    (checkHosts seen hosts = .ok () ↔ Faultless front hosts) ∧
      ∀ e, checkHosts seen hosts = .error e ↔ FirstFault front hosts e := by
  induction hosts generalizing seen front with
  | nil => exact ⟨⟨fun _ => faultless_nil front, fun _ => rfl⟩, fun e => ⟨nofun, fun h => (not_firstFault_nil front e h).elim⟩⟩
  | cons h hs ih =>
    have hgrown : ∀ n, n ∈ h.name :: seen ↔ n ∈ (front ++ [h]).map Host.name := by
      intro n
      rw [List.mem_cons, hseen, List.map_append, List.mem_append, or_comm, List.map_singleton, List.mem_singleton]
    obtain ⟨hok, herror⟩ := ih (front ++ [h]) hgrown
    have hhost := checkHost_error_iff hseen h
    rw [checkHosts, faultless_cons]
    cases hcheck : checkHost seen h with
    | ok =>
      have hfirst : ∀ e, ¬Fault front h e := fun e hfault => nomatch ((hhost e).2 hfault).symm.trans hcheck
      exact ⟨hok.trans (and_iff_right hfirst).symm, fun e => by
        rw [firstFault_cons, or_iff_right (hfirst e), and_iff_right hfirst, ← herror]⟩
    | error e' =>
      have hfault : Fault front h e' := (hhost e').1 hcheck
      refine ⟨⟨nofun, fun hnone => (hnone.1 e' hfault).elim⟩, fun e => ?_⟩
      rw [firstFault_cons, or_iff_left fun hnone => hnone.1 e' hfault, ← hhost, hcheck]

/-- the hosts pass if none has a fault -/
theorem checkHosts_ok_iff (hosts : List Host) : checkHosts [] hosts = .ok () ↔ Faultless [] hosts :=
  (checkHosts_iff [] (fun _ => Iff.rfl) hosts).1

/-- the first fault is reported -/
theorem checkHosts_error_iff (hosts : List Host) (e : ConfigError) :
    checkHosts [] hosts = .error e ↔ FirstFault [] hosts e :=
  (checkHosts_iff [] (fun _ => Iff.rfl) hosts).2 e

/-- hosts without a fault have a name and an address each, no two the same name -/
theorem faultless_iff (front hosts : List Host) :
    Faultless front hosts ↔ (∀ h ∈ hosts, h.Named ∧ h.Addressed) ∧ (hosts.map Host.name).Nodup ∧
      ∀ h ∈ hosts, h.name ∉ front.map Host.name := by
  induction hosts generalizing front with
  | nil => simp [faultless_nil]
  | cons h hs ih =>
    rw [faultless_cons, ih, not_fault_iff]
    simp only [List.forall_mem_cons, List.map_cons, List.nodup_cons, List.map_append, List.map_nil, List.mem_append,
      List.mem_singleton, not_or, List.mem_map]
    constructor
    · rintro ⟨⟨hnamed, hnew, haddressed⟩, hall, hapart, hbehind⟩
      exact ⟨⟨⟨hnamed, haddressed⟩, hall⟩, ⟨fun ⟨h', hh', heq⟩ => (hbehind h' hh').2 heq, hapart⟩, hnew,
        fun h' hh' => (hbehind h' hh').1⟩
    · rintro ⟨⟨⟨hnamed, haddressed⟩, hall⟩, ⟨hown, hapart⟩, hnew, hbehind⟩
      exact ⟨⟨hnamed, hnew, haddressed⟩, hall, hapart, fun h' hh' => ⟨hbehind h' hh', fun heq => hown ⟨h', hh', heq⟩⟩⟩

/-! ## A configuration -/

/-- no second and more is no span of no length -/
theorem isZero_ofSecs (n : ℕ) : (Duration.ofSecs n).isZero = decide (n = 0) := by
  rw [Duration.isZero, Duration.ofSecs, Duration.ofNanos, Duration.ofNanos?]
  congr 1
  split_ifs with hfits
  · simp [nanosPerSecond]
  · have hlong : n ≠ 0 := by
      rintro rfl
      exact hfits (by decide)
    simp [hlong, Duration.longest, Duration.bound, nanosPerSecond]

/-- the monitor runs with an interval that is not zero -/
theorem policy_check_iff (m : MonitorSettings) : m.policy.check = .ok () ↔ m.pollInterval ≠ 0 := by
  rw [Monitor.Policy.check, MonitorSettings.policy, isZero_ofSecs]
  by_cases hzero : m.pollInterval = 0 <;> simp [hzero]

/-- a target is the host it was made of, watched as the host asks for -/
def Watches (conditions : String → Agent.Conditions) (timeout : Duration) (t : Target) (h : Host) : Prop :=
  t.host = h.name ∧ t.strategy = h.mode ∧ t.provider = (Agent.Provider.ofHost h timeout).watched (conditions h.name)

theorem targets_hosts (conditions : String → Agent.Conditions) (s : Settings) :
    (Agent.targets conditions s).map Target.host = s.hosts.map Host.name := by
  rw [Agent.targets, List.map_map]
  rfl

/-- there is one target per host, in the order of the hosts -/
theorem targets_watch (conditions : String → Agent.Conditions) (s : Settings) :
    List.Forall₂ (Watches conditions (.ofSecs s.monitor.timeout)) (Agent.targets conditions s) s.hosts := by
  rw [Agent.targets, List.forall₂_map_left_iff, List.forall₂_same]
  exact fun h _ => ⟨rfl, rfl, rfl⟩

/-- **The check is exact.** What it accepts has a poll interval that is not zero, and hosts that have a name and an address
each and no name twice. What it reports is the interval, else the first fault of the hosts. An accepted configuration has one
target per host, in their order and of different names, and the monitor runs with its policy. -/
theorem check_exact (s : Settings) :
    (s.check = .ok () ↔ s.monitor.pollInterval ≠ 0 ∧ (∀ h ∈ s.hosts, h.Named) ∧ (s.hosts.map Host.name).Nodup ∧
      ∀ h ∈ s.hosts, h.Addressed) ∧
    (∀ e, s.check = .error e ↔ s.monitor.pollInterval = 0 ∧ e = .zeroPollInterval ∨
      s.monitor.pollInterval ≠ 0 ∧ FirstFault [] s.hosts e) ∧
    (s.check = .ok () → ∀ conditions,
      List.Forall₂ (Watches conditions (.ofSecs s.monitor.timeout)) (Agent.targets conditions s) s.hosts ∧
      ((Agent.targets conditions s).map Target.host).Nodup ∧ s.monitor.policy.check = .ok ()) := by
  have hok : s.check = .ok () ↔ s.monitor.pollInterval ≠ 0 ∧ (∀ h ∈ s.hosts, h.Named) ∧ (s.hosts.map Host.name).Nodup ∧
      ∀ h ∈ s.hosts, h.Addressed := by
    rw [Settings.check]
    by_cases hzero : s.monitor.pollInterval = 0
    · simp [hzero]
    · rw [if_neg hzero, checkHosts_ok_iff, faultless_iff, and_iff_right hzero, forall₂_and]
      simp only [List.map_nil, List.not_mem_nil, not_false_eq_true, implies_true, and_true]
      tauto
  refine ⟨hok, fun e => ?_, fun haccepted conditions => ?_⟩
  · rw [Settings.check]
    by_cases hzero : s.monitor.pollInterval = 0
    · simp [hzero, eq_comm]
    · rw [if_neg hzero, checkHosts_error_iff]
      simp [hzero]
  · obtain ⟨hinterval, -, hapart, -⟩ := hok.1 haccepted
    exact ⟨targets_watch conditions s, (targets_hosts conditions s).symm ▸ hapart, (policy_check_iff _).2 hinterval⟩

/-- two hosts with a name and an address each -/
def pairOfHosts : List Host :=
  [⟨"alpha", "http://10.0.0.1:8080", none, .push⟩, ⟨" beta ", "https://agents.test/", none, .poll⟩]

/-- behind two good hosts one of a used name and no address, and one without a name -/
def faultyHosts : List Host := pairOfHosts ++ [⟨"alpha", "nowhere", none, .poll⟩, ⟨" \t", "http://10.0.0.2", none, .push⟩]

/-- the two hosts pass, and are two targets; of the others' three faults the first is reported -/
theorem check_exact_hosts :
    let good : Settings := { Settings.standard with hosts := pairOfHosts }
    let bad : Settings := { Settings.standard with hosts := faultyHosts }
    good.check = .ok () ∧ bad.check = .error (.duplicateHost "alpha") ∧ good.monitor.policy.check = .ok () ∧
      ∃ conditions, ((Agent.targets conditions good).map Target.host).Nodup := by
  intro good bad
  have hgood : good.check = .ok () := by decide +kernel
  have hfirst : Faultless [] pairOfHosts := (checkHosts_ok_iff pairOfHosts).1 (by decide +kernel)
  have hnamed : Host.Named ⟨"alpha", "nowhere", none, .poll⟩ := by decide +kernel
  have hbad : bad.check = .error (.duplicateHost "alpha") :=
    ((check_exact bad).2.1 _).2 (.inr ⟨by decide, pairOfHosts, _, _, rfl, hfirst, .repeated hnamed (by decide)⟩)
  obtain ⟨-, hapart, hpolicy⟩ := (check_exact good).2.2 hgood fun _ _ => (0, Http.unreachable)
  exact ⟨hgood, hbad, hpolicy, _, hapart⟩

end ServiceMonitor.Config
