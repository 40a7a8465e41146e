import Mathlib.Data.List.TakeWhile
import Mathlib.Tactic
import ServiceMonitor.Url.Reading

/-!
The authority of an address: user, host and port, up to a slash, a question mark or a hash.

An address is accepted or refused by its authority alone, where it has one. What stands behind the authority, path, query or
fragment, only matters to an at sign alone.

- `splitHost_append`, `splitPort_append`: host and port are read from the authority and from nothing behind it.
- `withHost_append`: so are all three.
- `behindScheme_ok_iff`: an address is accepted if its authority is admitted (`Admits`), and is no at sign alone with something
  behind it.
-/

namespace ServiceMonitor.Url

/-! ## Where an authority ends -/

/-- what follows two slashes -/
def behindTwo? (slash : Char → Bool) : List Char → Option (List Char)
  | a :: b :: cs => if slash a && slash b then some cs else none
  | _ => none

/-- the text behind the slashes of an authority; none where there is no authority -/
def behindSlashes? (scheme rest : List Char) : Option (List Char) :=
  if isFile scheme then behindTwo? isSlash rest
  else if isSpecial scheme then some (rest.dropWhile isSlash)
  else behindTwo? (· = '/') rest

theorem behindTwo?_eq_some_iff {slash : Char → Bool} {rest cs : List Char} :
    behindTwo? slash rest = some cs ↔ ∃ a b, rest = a :: b :: cs ∧ slash a = true ∧ slash b = true := by
  constructor
  · intro h
    unfold behindTwo? at h
    split at h
    · next a b r =>
      split at h
      · next hboth =>
        cases h
        rw [Bool.and_eq_true] at hboth
        exact ⟨a, b, rfl, hboth⟩
      · cases h
    · cases h
  · rintro ⟨a, b, rfl, ha, hb⟩
    simp [behindTwo?, ha, hb]

/-- the authority at the front -/
def areaOf (scheme cs : List Char) : List Char := cs.takeWhile fun c => !endsAuthority scheme c

/-- what follows the authority at the front -/
def behindArea (scheme cs : List Char) : List Char := cs.dropWhile fun c => !endsAuthority scheme c

/-- nothing in a text ends an authority -/
def IsArea (scheme area : List Char) : Prop := ∀ c ∈ area, endsAuthority scheme c = false

/-- a text is none or begins with what ends an authority -/
def Follows (scheme after : List Char) : Prop := ∀ c ∈ after.head?, endsAuthority scheme c = true

theorem isArea_areaOf (scheme cs : List Char) : IsArea scheme (areaOf scheme cs) := fun c hc => by
  simpa using List.mem_takeWhile_imp hc

theorem follows_behindArea (scheme cs : List Char) : Follows scheme (behindArea scheme cs) := by
  intro c hc
  cases hcs : behindArea scheme cs with
  | nil =>
    rw [hcs] at hc
    exact nomatch hc
  | cons d after =>
    rw [hcs, List.head?_cons, Option.mem_some_iff] at hc
    have hhead := List.head?_dropWhile_not (fun c => !endsAuthority scheme c) cs
    rw [← behindArea, hcs] at hhead
    simpa [hc] using hhead

theorem follows_nil (scheme : List Char) : Follows scheme [] := nofun

theorem follows_slash (scheme cs : List Char) : Follows scheme ('/' :: cs) := by
  intro c hc
  cases hc
  rfl

theorem areaOf_append (scheme cs : List Char) : areaOf scheme cs ++ behindArea scheme cs = cs :=
  List.takeWhile_append_dropWhile

/-- a text is cut where a property ends -/
theorem cut_exact {p : Char → Bool} {front rest : List Char} (hfront : ∀ c ∈ front, p c = true)
    (hrest : ∀ c ∈ rest.head?, p c = false) :
    (front ++ rest).takeWhile p = front ∧ (front ++ rest).dropWhile p = rest := by
  rw [List.takeWhile_append_of_pos hfront, List.dropWhile_append_of_pos hfront]
  cases rest with
  | nil => exact ⟨List.append_nil _, rfl⟩
  | cons c rest =>
    have hc : ¬p c = true := by simp [hrest c rfl]
    rw [List.takeWhile_cons_of_neg hc, List.dropWhile_cons_of_neg hc, List.append_nil]
    exact ⟨rfl, rfl⟩

theorem areaOf_of {scheme area after : List Char} (harea : IsArea scheme area) (hafter : Follows scheme after) :
    areaOf scheme (area ++ after) = area ∧ behindArea scheme (area ++ after) = after :=
  cut_exact (fun c hc => by simp [harea c hc]) (fun c hc => by simp [hafter c hc])

/-! ## User, host and port -/

/-- host and port are read, and a user has a host -/
def Located (scheme : List Char) (owner : List Char × List Char) (cs : List Char) : Prop :=
  ∃ host r, splitHost scheme cs = .ok (host, r) ∧ (∃ p, splitPort scheme r = .ok p) ∧
    (host = .name [] → owner.1 = [] ∧ owner.2 = [])

theorem bind_eq_ok {α β : Type} {x : Except Error α} {f : α → Except Error β} {b : β} (h : x >>= f = .ok b) :
    ∃ a, x = .ok a ∧ f a = .ok b := by
  cases x with
  | error e => cases h
  | ok a => exact ⟨a, rfl, h⟩

theorem withHost_ok_iff {scheme cs : List Char} :
    (∃ u, withHost scheme cs = .ok u) ↔
      ∃ owner rest, splitCredentials scheme cs = .ok (owner, rest) ∧ Located scheme owner rest := by
  constructor
  · rintro ⟨u, hu⟩
    unfold withHost at hu
    obtain ⟨⟨⟨user, password⟩, rest⟩, hc, hu⟩ := bind_eq_ok hu
    obtain ⟨⟨host, r⟩, hh, hu⟩ := bind_eq_ok hu
    obtain ⟨⟨port, q⟩, hp, hu⟩ := bind_eq_ok hu
    dsimp only at hu
    split_ifs at hu with hnone
    exact ⟨(user, password), rest, hc, host, r, hh, ⟨_, hp⟩, fun hname => by simpa [hname] using hnone⟩
  · rintro ⟨⟨user, password⟩, rest, hc, host, r, hh, ⟨⟨port, q⟩, hp⟩, howner⟩
    have hnone : ¬(decide (host = .name []) && !(user.isEmpty && password.isEmpty)) = true := by simpa using howner
    simp only [withHost, hc, hh, hp, bind, Except.bind, hnone]
    exact ⟨_, rfl⟩

/-- what stands behind the last at sign, or everything: host and port -/
def hostPort (area : List Char) : List Char := (area.reverse.takeWhile (· ≠ '@')).reverse

theorem ne_at_of_mem_reverse {cs : List Char} (h : '@' ∉ cs) : ∀ c ∈ cs.reverse, decide (c ≠ '@') = true := fun c hc => by
  rw [decide_eq_true_eq]
  rintro rfl
  exact h (List.mem_reverse.1 hc)

theorem hostPort_plain {area : List Char} (h : '@' ∉ area) : hostPort area = area := by
  rw [hostPort, List.takeWhile_eq_self_iff.2 (ne_at_of_mem_reverse h), List.reverse_reverse]

theorem hostPort_at (front : List Char) {behind : List Char} (h : '@' ∉ behind) :
    hostPort (front ++ '@' :: behind) = behind := by
  have hreverse : (front ++ '@' :: behind).reverse = behind.reverse ++ '@' :: front.reverse := by simp
  rw [hostPort, hreverse, (cut_exact (ne_at_of_mem_reverse h) fun c hc => by cases hc; rfl).1, List.reverse_reverse]

/-- without an at sign there is no user -/
theorem splitCredentials_plain {scheme area after : List Char} (harea : IsArea scheme area) (hafter : Follows scheme after)
    (hat : '@' ∉ area) : splitCredentials scheme (area ++ after) = .ok (([], []), area ++ after) := by
  have hfront := (areaOf_of harea hafter).1
  rw [areaOf] at hfront
  simp [splitCredentials, hfront, hat]

/-- the user stands in front of the last at sign; only a sign alone asks for a host -/
theorem splitCredentials_at {scheme front behind after : List Char} (harea : IsArea scheme (front ++ '@' :: behind))
    (hafter : Follows scheme after) (hat : '@' ∉ behind) :
    splitCredentials scheme (front ++ '@' :: behind ++ after) =
      if front = [] ∧ behind = [] ∧ after ≠ [] then .error .emptyHost else .ok (credentialsOf front, behind ++ after) := by
  have hfront := (areaOf_of harea hafter).1
  rw [areaOf] at hfront
  have hbehind : ((front ++ '@' :: behind).reverse.takeWhile (· ≠ '@')).reverse = behind := hostPort_at front hat
  have hlength : (front ++ '@' :: behind).length - behind.length - 1 = front.length := by
    simp only [List.length_append, List.length_cons]
    omega
  have hmem : (front ++ '@' :: behind).contains '@' = true := by simp
  unfold splitCredentials
  rw [hfront]
  simp only [hmem, hbehind, hlength, List.take_left, List.drop_left, if_true]
  by_cases hnone : front = [] ∧ behind = [] ∧ after ≠ []
  · rw [if_pos hnone, if_pos (by simpa [and_assoc] using hnone)]
  · rw [if_neg hnone, if_neg (by simpa [and_assoc] using hnone)]

/-- a text with an at sign, around the last one -/
theorem exists_last_at {area : List Char} (h : '@' ∈ area) :
    ∃ front behind, area = front ++ '@' :: behind ∧ '@' ∉ behind := by
  obtain ⟨behind, front, hreverse, hat⟩ := List.eq_append_cons_of_mem (List.mem_reverse.2 h)
  refine ⟨front.reverse, behind.reverse, ?_, fun hmem => hat (List.mem_reverse.1 hmem)⟩
  rw [← List.reverse_reverse area, hreverse]
  simp

/-! ### Hosts -/

/-- the host goes on behind a text if nothing in the text ends it -/
theorem hostText_append {scheme y z : List Char} (h : ∀ inside, hostText scheme inside y = z) (inside : Bool) (x : List Char) :
    hostText scheme inside (x ++ y) = if hostText scheme inside x = x then x ++ z else hostText scheme inside x := by
  induction x generalizing inside with
  | nil => simp [h, hostText]
  | cons c x ih =>
    rw [List.cons_append, hostText, hostText]
    by_cases hstop : ((c = ':' && !inside) || endsAuthority scheme c) = true
    · rw [if_pos hstop, if_pos hstop, if_neg (List.cons_ne_nil c x).symm]
    · rw [if_neg hstop, if_neg hstop, ih]
      by_cases hwhole : hostText scheme (if c = '[' then true else if c = ']' then false else inside) x = x
      · rw [if_pos hwhole, hwhole, if_pos rfl, List.cons_append]
      · rw [if_neg hwhole, if_neg fun hcons => hwhole (List.cons.inj hcons).2]

theorem hostText_front (scheme : List Char) (inside : Bool) (cs : List Char) : hostText scheme inside cs <+: cs := by
  induction cs generalizing inside with
  | nil => exact List.nil_prefix
  | cons c cs ih =>
    rw [hostText]
    by_cases hstop : ((c = ':' && !inside) || endsAuthority scheme c) = true
    · rw [if_pos hstop]
      exact List.nil_prefix
    · rw [if_neg hstop]
      exact List.cons_prefix_cons.2 ⟨rfl, ih _⟩

/-- what ends an authority ends its host -/
theorem hostText_of_follows {scheme after : List Char} (h : Follows scheme after) (inside : Bool) :
    hostText scheme inside after = [] := by
  cases after with
  | nil => rfl
  | cons c after => simp [hostText, h c rfl]

/-- what ends an authority ends its port, and is neither a colon nor a digit -/
theorem endsAuthority_cases {scheme : List Char} {c : Char} (h : endsAuthority scheme c = true) :
    c = '/' ∨ c = '?' ∨ c = '#' ∨ c = '\\' := by
  simp only [endsAuthority, beginsTail, Bool.or_eq_true, Bool.and_eq_true, decide_eq_true_eq] at h
  tauto

/-- what follows an authority is no part of its host -/
theorem splitHost_append {scheme after : List Char} (h : Follows scheme after) (b : List Char) :
    splitHost scheme (b ++ after) = (splitHost scheme b).map fun p => (p.1, p.2 ++ after) := by
  have hhost : hostText scheme false (b ++ after) = hostText scheme false b := by
    rw [hostText_append (hostText_of_follows h)]
    split_ifs with hwhole
    · rw [List.append_nil, hwhole]
    · rfl
  have hdrop : (b ++ after).drop (hostText scheme false b).length = b.drop (hostText scheme false b).length ++ after :=
    List.drop_append_of_le_length (hostText_front scheme false b).length_le
  have hcolon : (b.drop (hostText scheme false b).length ++ after).head? = some ':' ↔
      (b.drop (hostText scheme false b).length).head? = some ':' := by
    cases b.drop (hostText scheme false b).length with
    | cons c r => rfl
    | nil =>
      refine iff_of_false (fun hafter => ?_) nofun
      rcases endsAuthority_cases (h ':' hafter) with h | h | h | h <;> cases h
  simp only [splitHost, hhost, hdrop, hcolon]
  split
  · rfl
  · cases (if isSpecial scheme = true then Host.ofText (hostText scheme false b)
      else Host.ofPlainText (hostText scheme false b)) <;> rfl

/-! ### Ports -/

/-- what may stand behind a port -/
def endsPort (c : Char) : Bool := c = '/' || c = '\\' || beginsTail c

/-- a port is read if it is no more than the greatest one and nothing else stands behind it -/
theorem splitPort_colon (scheme : List Char) {digits rest : List Char} (hdigits : ∀ c ∈ digits, c.isDigit = true)
    (hrest : ∀ c ∈ rest.head?, c.isDigit = false) :
    (∃ p, splitPort scheme (':' :: (digits ++ rest)) = .ok p) ↔
      digits.foldl (fun n c => n * 10 + (c.toNat - 48)) 0 ≤ 65535 ∧ ∀ c ∈ rest.head?, endsPort c = true := by
  obtain ⟨htake, hdrop⟩ := cut_exact hdigits hrest
  simp only [splitPort, htake, hdrop]
  split
  · next hbad =>
    refine iff_of_false nofun fun ⟨hvalue, hends⟩ => ?_
    rw [Bool.or_eq_true, decide_eq_true_eq, Option.any_eq_true] at hbad
    rcases hbad with hbig | ⟨c, hc, hnot⟩
    · omega
    · have hend := hends c hc
      rw [endsPort] at hend
      simp [hend] at hnot
  · next hgood =>
    refine iff_of_true ⟨_, rfl⟩ ?_
    rw [Bool.or_eq_true, decide_eq_true_eq, Option.any_eq_true, not_or, not_lt] at hgood
    refine ⟨hgood.1, fun c hc => ?_⟩
    by_contra hend
    exact hgood.2 ⟨c, hc, by simpa [endsPort] using hend⟩

/-- without a colon there is no port to read -/
theorem splitPort_other (scheme : List Char) {cs : List Char} (h : cs.head? ≠ some ':') :
    splitPort scheme cs = .ok (none, cs) := by
  unfold splitPort
  split
  · exact absurd rfl h
  · rfl

/-- what is put behind a port stands behind its digits, if nothing else does -/
theorem splitPort_behind (scheme cs : List Char) {more : List Char} (h : ∀ c ∈ more.head?, c.isDigit = false) :
    (∃ p, splitPort scheme (':' :: (cs ++ more)) = .ok p) ↔
      (∃ p, splitPort scheme (':' :: cs) = .ok p) ∧
        (cs.dropWhile Char.isDigit = [] → ∀ c ∈ more.head?, endsPort c = true) := by
  have hdigits : ∀ c ∈ cs.takeWhile Char.isDigit, c.isDigit = true := fun c hc => List.mem_takeWhile_imp hc
  have hcs : cs.takeWhile Char.isDigit ++ cs.dropWhile Char.isDigit = cs := List.takeWhile_append_dropWhile
  have hrest : ∀ c ∈ (cs.dropWhile Char.isDigit).head?, c.isDigit = false := by
    intro c hc
    have hnot := List.head?_dropWhile_not Char.isDigit cs
    rw [Option.mem_def.1 hc] at hnot
    simpa using hnot
  have hown := splitPort_colon scheme hdigits hrest
  rw [hcs] at hown
  cases hbehind : cs.dropWhile Char.isDigit with
  | nil =>
    rw [hbehind, List.append_nil] at hcs
    rw [hbehind] at hown
    have hmore := splitPort_colon scheme hdigits h
    rw [hcs] at hmore hown
    rw [hmore, hown]
    simp
  | cons d rest =>
    rw [hbehind] at hown hrest hcs
    have hmore := @splitPort_colon scheme _ (d :: rest ++ more) hdigits hrest
    rw [← List.append_assoc, hcs] at hmore
    rw [hmore, hown]
    simp

/-- what follows an authority does not matter to its port -/
theorem splitPort_append {scheme after : List Char} (h : Follows scheme after) (r : List Char) :
    (∃ p, splitPort scheme (r ++ after) = .ok p) ↔ ∃ p, splitPort scheme r = .ok p := by
  have hfirst : ∀ c ∈ after.head?, c ≠ ':' ∧ c.isDigit = false ∧ endsPort c = true := by
    intro c hc
    rcases endsAuthority_cases (h c hc) with rfl | rfl | rfl | rfl <;> decide
  cases r with
  | nil =>
    have hcolon : after.head? ≠ some ':' := fun hafter => (hfirst ':' hafter).1 rfl
    rw [List.nil_append, splitPort_other scheme hcolon]
    exact iff_of_true ⟨_, rfl⟩ ⟨_, rfl⟩
  | cons c cs =>
    by_cases hc : c = ':'
    · subst hc
      rw [List.cons_append, splitPort_behind scheme cs fun c hc => (hfirst c hc).2.1]
      exact and_iff_left fun _ c hc => (hfirst c hc).2.2
    · have hcolon (y : List Char) : (c :: y).head? ≠ some ':' := fun heq => hc (Option.some.inj heq)
      rw [List.cons_append, splitPort_other scheme (hcolon _), splitPort_other scheme (hcolon _)]
      exact iff_of_true ⟨_, rfl⟩ ⟨_, rfl⟩

/-! ### Authorities with something behind -/

theorem located_append {scheme after : List Char} (h : Follows scheme after) (owner : List Char × List Char) (b : List Char) :
    Located scheme owner (b ++ after) ↔ Located scheme owner b := by
  unfold Located
  rw [splitHost_append h]
  cases splitHost scheme b with
  | error e => exact iff_of_false (fun ⟨_, _, hbad, _⟩ => nomatch hbad) (fun ⟨_, _, hbad, _⟩ => nomatch hbad)
  | ok p =>
    constructor
    · rintro ⟨host, r, ⟨⟩, hport, howner⟩
      exact ⟨p.1, p.2, rfl, (splitPort_append h p.2).1 hport, howner⟩
    · rintro ⟨host, r, ⟨⟩, hport, howner⟩
      exact ⟨host, r ++ after, rfl, (splitPort_append h r).2 hport, howner⟩

theorem withHost_plain {scheme area after : List Char} (harea : IsArea scheme area) (hafter : Follows scheme after)
    (hat : '@' ∉ area) : (∃ u, withHost scheme (area ++ after) = .ok u) ↔ Located scheme ([], []) area := by
  rw [withHost_ok_iff, splitCredentials_plain harea hafter hat, ← located_append hafter]
  exact ⟨fun ⟨_, _, hsplit, hlocated⟩ => by cases hsplit; exact hlocated, fun hlocated => ⟨_, _, rfl, hlocated⟩⟩

theorem withHost_at {scheme front behind after : List Char} (harea : IsArea scheme (front ++ '@' :: behind))
    (hafter : Follows scheme after) (hat : '@' ∉ behind) :
    (∃ u, withHost scheme (front ++ '@' :: behind ++ after) = .ok u) ↔
      Located scheme (credentialsOf front) behind ∧ ¬(front = [] ∧ behind = [] ∧ after ≠ []) := by
  rw [withHost_ok_iff, splitCredentials_at harea hafter hat, ← located_append hafter]
  by_cases halone : front = [] ∧ behind = [] ∧ after ≠ []
  · rw [if_pos halone]
    exact iff_of_false (fun ⟨_, _, hbad, _⟩ => nomatch hbad) fun ⟨_, hnot⟩ => hnot halone
  · rw [if_neg halone, and_iff_left halone]
    exact ⟨fun ⟨_, _, hsplit, hlocated⟩ => by cases hsplit; exact hlocated, fun hlocated => ⟨_, _, rfl, hlocated⟩⟩

/-- **What follows an authority** only matters to an at sign alone. -/
theorem withHost_append {scheme area after : List Char} (harea : IsArea scheme area) (hafter : Follows scheme after) :
    (∃ u, withHost scheme (area ++ after) = .ok u) ↔
      (∃ u, withHost scheme area = .ok u) ∧ (area = ['@'] → after = []) := by
  by_cases hat : '@' ∈ area
  · obtain ⟨front, behind, rfl, hbehind⟩ := exists_last_at hat
    have hown := withHost_at harea (follows_nil scheme) hbehind
    rw [List.append_nil] at hown
    rw [withHost_at harea hafter hbehind, hown]
    have halone : front ++ '@' :: behind = ['@'] ↔ front = [] ∧ behind = [] := by
      cases front <;> simp
    rw [halone]
    tauto
  · have hown := withHost_plain harea (follows_nil scheme) hat
    rw [List.append_nil] at hown
    rw [withHost_plain harea hafter hat, hown, and_iff_left]
    rintro rfl
    exact absurd List.mem_cons_self hat

/-! ## Whole addresses -/

/-- an authority that can be read: under the scheme of files none, a drive or a host, else a host with user and port -/
def Admits (scheme area : List Char) : Prop :=
  if isFile scheme then area = [] ∨ Path.isDrive area = true ∨ ∃ h, Host.ofText area = .ok h
  else ∃ u, withHost scheme area = .ok u

theorem admits_file {scheme : List Char} (h : isFile scheme = true) (area : List Char) :
    Admits scheme area ↔ (area.isEmpty || Path.isDrive area) = true ∨ ∃ host, Host.ofText area = .ok host := by
  rw [Admits, if_pos h, ← or_assoc, Bool.or_eq_true, List.isEmpty_iff]

theorem not_admits_at {scheme : List Char} (h : isFile scheme = true) : ¬Admits scheme ['@'] := by
  have hhost : Host.ofText ['@'] = .error .invalidName := by decide +kernel
  rw [admits_file h, hhost]
  exact fun hadmits => hadmits.elim nofun nofun

/-- the address of a file is read if its authority is, where it has one -/
theorem ofFile_ok_iff {scheme : List Char} (h : isFile scheme = true) (rest : List Char) :
    (∃ u, ofFile scheme rest = .ok u) ↔ ∀ cs, behindTwo? isSlash rest = some cs → Admits scheme (areaOf scheme cs) := by
  unfold ofFile
  split
  · next a b cs =>
    split
    · next hslashes =>
      have hcs : behindTwo? isSlash (a :: b :: cs) = some cs := if_pos hslashes
      simp only [hcs, Option.some.injEq, forall_eq']
      rw [admits_file h, areaOf]
      split
      · next hplain => exact iff_of_true ⟨_, rfl⟩ (.inl hplain)
      · next hplain =>
        rw [or_iff_right hplain]
        cases Host.ofText (cs.takeWhile fun c => !endsAuthority scheme c) with
        | error e => exact iff_of_false (fun ⟨_, hbad⟩ => nomatch hbad) fun ⟨_, hbad⟩ => nomatch hbad
        | ok host => exact iff_of_true ⟨_, rfl⟩ ⟨host, rfl⟩
    · next hslashes =>
      have hnone : behindTwo? isSlash (a :: b :: cs) = none := if_neg hslashes
      exact iff_of_true ⟨_, rfl⟩ fun cs hcs => nomatch hnone.symm.trans hcs
  · next hshort =>
    refine iff_of_true ⟨_, rfl⟩ fun cs hcs => ?_
    obtain ⟨a, b, rfl, -⟩ := behindTwo?_eq_some_iff.1 hcs
    exact absurd rfl (hshort a b cs)

/-- **An address is accepted by its authority,** if it has one. -/
theorem behindScheme_ok_iff (scheme rest : List Char) :
    (∃ u, behindScheme scheme rest = .ok u) ↔
      ∀ cs, behindSlashes? scheme rest = some cs →
        Admits scheme (areaOf scheme cs) ∧ (areaOf scheme cs = ['@'] → behindArea scheme cs = []) := by
  have hhost (cs : List Char) (hfile : ¬isFile scheme = true) : (∃ u, withHost scheme cs = .ok u) ↔
      Admits scheme (areaOf scheme cs) ∧ (areaOf scheme cs = ['@'] → behindArea scheme cs = []) := by
    rw [Admits, if_neg hfile, ← withHost_append (isArea_areaOf scheme cs) (follows_behindArea scheme cs), areaOf_append]
  unfold behindScheme behindSlashes?
  by_cases hfile : isFile scheme = true
  · rw [if_pos hfile, if_pos hfile, ofFile_ok_iff hfile]
    refine forall₂_congr fun cs hcs => (and_iff_left_of_imp fun hadmits hat => ?_).symm
    rw [hat] at hadmits
    exact absurd hadmits (not_admits_at hfile)
  · rw [if_neg hfile, if_neg hfile]
    by_cases hspecial : isSpecial scheme = true
    · rw [if_pos hspecial, if_pos hspecial, hhost _ hfile]
      exact ⟨fun hall cs hcs => by cases hcs; exact hall, fun hall => hall _ rfl⟩
    · rw [if_neg hspecial, if_neg hspecial]
      split
      · next cs =>
        have hcs : behindTwo? (· = '/') ('/' :: '/' :: cs) = some cs := rfl
        rw [hhost cs hfile, hcs]
        exact ⟨fun hall cs hcs => by cases hcs; exact hall, fun hall => hall _ rfl⟩
      · next r hnot =>
        refine iff_of_true ⟨_, rfl⟩ fun cs hcs => ?_
        obtain ⟨a, b, heq, -, hb⟩ := behindTwo?_eq_some_iff.1 hcs
        obtain ⟨-, rfl⟩ := List.cons.inj heq
        exact absurd (by rw [of_decide_eq_true hb]) (hnot cs)
      · next hnot hnot' =>
        refine iff_of_true ⟨_, rfl⟩ fun cs hcs => ?_
        obtain ⟨a, b, rfl, ha, -⟩ := behindTwo?_eq_some_iff.1 hcs
        exact absurd (by rw [of_decide_eq_true ha]) (hnot' (b :: cs))

end ServiceMonitor.Url
