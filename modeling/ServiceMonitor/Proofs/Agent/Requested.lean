import ServiceMonitor.Proofs.Config.Validation
import ServiceMonitor.Proofs.Url.Extended

/-!
The addresses that an agent is asked at, against the address that its host was checked with.

The check of a configuration reads a host's address. The provider puts its paths behind the text that was read, with the slashes
at its end taken away and nothing else. So what the check leaves out at the end stands inside the address of a request.

- `readable_iff`: a request's address can be read if the host's address is extensible.
- `requested_exact`: so this is what a checked host can be asked by, and where it is not extensible every exchange fails before
  anything is sent.
- `blank_end_refused`: a configuration that passes the check, with two hosts that are never asked.
-/

namespace ServiceMonitor.Agent

open Config (Settings Host)

namespace Provider

/-- the address for a path can be read -/
def Readable (p : Provider) (path : String) : Prop := ∃ url, Url.ofText (p.base ++ path) = .ok url

/-- the paths that an agent is asked for -/
def paths : List String := [servicesPath, eventsPath]

theorem withoutSlashes_append (s : String) :
    ∃ slashes : List Char, (∀ c ∈ slashes, c = '/') ∧ s.toList = (withoutSlashes s).toList ++ slashes := by
  refine ⟨(s.toList.reverse.takeWhile (· = '/')).reverse, fun c hc => ?_, ?_⟩
  · have hslash : decide (c = '/') = true := List.mem_takeWhile_imp (p := (· = '/')) (List.mem_reverse.1 hc)
    exact of_decide_eq_true hslash
  · rw [withoutSlashes, String.toList_ofList, ← List.reverse_append, List.takeWhile_append_dropWhile, List.reverse_reverse]

/-- **A request's address** can be read exactly if the host's address, which can be read, is extensible. -/
theorem readable_iff {address : String} (h : ∃ url, Url.ofText address = .ok url) (token : Option String)
    (timeout : Duration) : ∀ path ∈ paths, (make address token timeout).Readable path ↔ Url.Extensible address.toList := by
  obtain ⟨slashes, hslashes, hsplit⟩ := withoutSlashes_append address
  have haddress : address = String.ofList ((withoutSlashes address).toList ++ slashes) := by
    rw [← hsplit, String.ofList_toList]
  have hread := haddress ▸ h
  have hiff {path : String} {y : List Char} (hpath : path.toList = '/' :: ("services".toList ++ y))
      (hy : ∀ c ∈ y.head?, c = '/') (hvisible : ∀ c ∈ y, Url.isAround c = false) :
      (make address token timeout).Readable path ↔ Url.Extensible address.toList := by
    have hboth : withoutSlashes address ++ path =
        String.ofList ((withoutSlashes address).toList ++ '/' :: ("services".toList ++ y)) := by
      rw [← hpath, ← String.toList_append, String.ofList_toList]
    rw [Readable, make, hboth, hsplit]
    exact Url.ofText_extended_iff hslashes hy hvisible hread
  intro path hpath
  rw [paths, List.mem_pair] at hpath
  rcases hpath with rfl | rfl
  · exact hiff (y := []) (by decide +kernel) nofun (List.forall_mem_nil _)
  · refine hiff (y := '/' :: "events".toList) (by decide +kernel) (fun c hc => by cases hc; rfl) fun c hc => ?_
    simpa using List.all_eq_true.1 (by decide +kernel : ('/' :: "events".toList).all (!Url.isAround ·)) c hc

/-! ## Exchanges that cannot begin -/

/-- without an address there is no request -/
theorem request_of_not_readable {p : Provider} {path : String} (h : ¬p.Readable path) :
    p.request path = .error (.building none) := by
  rw [request, Http.prepare]
  cases hread : Url.ofText (p.base ++ path) with
  | error e => rfl
  | ok url => exact absurd ⟨url, hread⟩ h

theorem list_of_not_readable {p : Provider} (h : ¬p.Readable servicesPath) (network : Http.Network) :
    p.list network = .error (.connection "builder error") := by
  rw [list, request_of_not_readable h]
  rfl

theorem subscribe_of_not_readable {p : Provider} (h : ¬p.Readable eventsPath) (network : Http.Network) :
    p.subscribe network = .error (.opening (.connection "builder error")) := by
  rw [subscribe, request_of_not_readable h]
  rfl

end Provider

/-! ## Checked hosts -/

/-- the address of a checked host can be read -/
theorem addressed_of_check {s : Settings} (hs : s.check = .ok ()) {h : Host} (hh : h ∈ s.hosts) : h.Addressed := by
  rw [Settings.check] at hs
  split_ifs at hs
  obtain ⟨hall, -⟩ := (Config.faultless_iff [] s.hosts).1 ((Config.checkHosts_ok_iff s.hosts).1 hs)
  exact (hall h hh).2

/-- **What a checked host is asked at.** Both addresses can be read exactly if a path can be put behind the host's own, which is so
for every address of a scheme with hosts whose last character shows. Else no call gets as far as the network: each comes back as
the failure to put a request together. -/
theorem requested_exact {s : Settings} (hs : s.check = .ok ()) {h : Host} (hh : h ∈ s.hosts) (timeout : Duration) :
    let p := Provider.ofHost h timeout
    (∀ path ∈ Provider.paths, p.Readable path ↔ Url.Extensible h.url.toList) ∧
    (∀ url, Url.ofText h.url = .ok url → Url.isSpecial url.scheme = true →
      (∀ c ∈ h.url.toList.getLast?, Url.isAround c = false) → Url.Extensible h.url.toList) ∧
    (¬Url.Extensible h.url.toList → ∀ network, p.list network = .error (.connection "builder error") ∧
      p.subscribe network = .error (.opening (.connection "builder error"))) := by
  intro p
  have hiff := Provider.readable_iff (addressed_of_check hs hh) h.token timeout
  refine ⟨hiff, fun url hurl hspecial hlast => Url.extensible_of_visible hurl hspecial hlast, fun hnot network => ?_⟩
  exact ⟨Provider.list_of_not_readable (fun hread => hnot ((hiff _ List.mem_cons_self).1 hread)) network,
    Provider.subscribe_of_not_readable (fun hread => hnot ((hiff _ (List.mem_cons_of_mem _ List.mem_cons_self)).1 hread))
      network⟩

/-- blanks in front and slashes at the end are no matter -/
theorem requested_exact_slashes :
    let h : Host := ⟨"nas", " HTTP://nas:51243//", none, .poll⟩
    let s : Settings := { Settings.standard with hosts := [h] }
    s.check = .ok () ∧ (Provider.ofHost h (.ofSecs 5)).base = " HTTP://nas:51243" ∧
      ∀ path ∈ Provider.paths, (Provider.ofHost h (.ofSecs 5)).Readable path := by
  intro h s
  have hs : s.check = .ok () := by decide +kernel
  have hextensible : Url.Extensible h.url.toList := by decide +kernel
  obtain ⟨hread, -, -⟩ := requested_exact hs (h := h) List.mem_cons_self (.ofSecs 5)
  exact ⟨hs, by decide +kernel, fun path hpath => (hread path hpath).2 hextensible⟩

/-- a blank behind a port, and an at sign that takes the place of a host: the check passes both, and both hosts are never asked -/
theorem blank_end_refused :
    let s : Settings := { Settings.standard with
      hosts := [⟨"nas", "http://nas:51243 ", none, .poll⟩, ⟨"box", "foo://@", none, .push⟩] }
    s.check = .ok () ∧ ∀ h ∈ s.hosts, ∀ timeout, let p := Provider.ofHost h timeout
      (∀ path ∈ Provider.paths, ¬p.Readable path) ∧
      ∀ network, p.list network = .error (.connection "builder error") ∧
        p.subscribe network = .error (.opening (.connection "builder error")) := by
  intro s
  have hs : s.check = .ok () := by decide +kernel
  refine ⟨hs, ?_⟩
  intro h hh timeout p
  have hnot : ¬Url.Extensible h.url.toList := by
    rcases List.mem_pair.1 hh with rfl | rfl <;> decide +kernel
  have hrefused : ∀ path ∈ Provider.paths, ¬p.Readable path := fun path hpath hread =>
    hnot ((Provider.readable_iff (addressed_of_check hs hh) h.token timeout path hpath).1 hread)
  exact ⟨hrefused, fun network => ⟨Provider.list_of_not_readable (hrefused _ List.mem_cons_self) network,
    Provider.subscribe_of_not_readable (hrefused _ (List.mem_cons_of_mem _ List.mem_cons_self)) network⟩⟩

end ServiceMonitor.Agent
