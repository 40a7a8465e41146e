import ServiceMonitor.Proofs.Url.Blanks

/-!
An address with a path put behind it.

The path is put behind the text as it is written, the blanks at its end included, while the text alone is read without them.

- `padded_iff`, `slashed`: a path behind blanks, and a path in place of slashes, as far as the scheme leaves them to be read.
- `ofText_extended_iff`: an accepted address with a path is accepted exactly if it is `Extensible`.
- `extensible_of_visible`: so it is under the schemes with hosts if its last character shows.
-/

namespace ServiceMonitor.Url

/-! ## A path behind an address -/

theorem behindTwo?_append {slash : Char → Bool} {r cs : List Char} (h : behindTwo? slash r = some cs) (more : List Char) :
    behindTwo? slash (r ++ more) = some (cs ++ more) := by
  obtain ⟨a, b, rfl, ha, hb⟩ := behindTwo?_eq_some_iff.1 h
  exact behindTwo?_eq_some_iff.2 ⟨a, b, rfl, ha, hb⟩

/-- the schemes with hosts take any number of slashes -/
def TakesSlashes (scheme : List Char) : Prop := isSpecial scheme = true ∧ isFile scheme = false

/-- what is put behind an authority stands behind it, unless it would be taken for more slashes -/
theorem behindSlashes?_append {scheme r cs : List Char} (h : behindSlashes? scheme r = some cs)
    (hne : TakesSlashes scheme → cs ≠ []) (more : List Char) : behindSlashes? scheme (r ++ more) = some (cs ++ more) := by
  unfold behindSlashes? at h ⊢
  by_cases hfile : isFile scheme = true
  · rw [if_pos hfile] at h ⊢
    exact behindTwo?_append h more
  · rw [if_neg hfile] at h ⊢
    by_cases hspecial : isSpecial scheme = true
    · rw [if_pos hspecial] at h ⊢
      have hsome := hne ⟨hspecial, Bool.not_eq_true _ ▸ hfile⟩
      obtain rfl := Option.some.inj h
      rw [List.dropWhile_append, if_neg (by simpa using hsome)]
    · rw [if_neg hspecial] at h ⊢
      exact behindTwo?_append h more

/-- under the schemes with hosts an authority is not empty -/
theorem not_admits_nil {scheme : List Char} (h : TakesSlashes scheme) : ¬Admits scheme [] := by
  rw [Admits, if_neg (by simp [h.2]), ← List.append_nil [],
    withHost_plain (List.forall_mem_nil _) (follows_nil scheme) List.not_mem_nil, located_iff]
  rintro ⟨hnone, -⟩
  exact Bool.false_ne_true ((hnone rfl).1.symm.trans h.1)

/-- **A path behind an authority** asks that the authority is admitted and no at sign alone. -/
theorem extended_iff {scheme r cs : List Char} (h : behindSlashes? scheme r = some cs) (hne : TakesSlashes scheme → cs ≠ [])
    (path : List Char) :
    (∃ u, behindScheme scheme (r ++ '/' :: path) = .ok u) ↔
      Admits scheme (areaOf scheme cs) ∧ areaOf scheme cs ≠ ['@'] := by
  have hfollows : Follows scheme (behindArea scheme cs ++ '/' :: path) := by
    cases hbehind : behindArea scheme cs with
    | nil => exact follows_slash scheme path
    | cons d after => exact fun c hc => follows_behindArea scheme cs c (by rw [hbehind]; exact hc)
  have hcut := areaOf_of (isArea_areaOf scheme cs) hfollows
  rw [← List.append_assoc, areaOf_append] at hcut
  rw [behindScheme_ok_iff, behindSlashes?_append h hne]
  simp only [Option.some.injEq, forall_eq', hcut]
  have hsome : behindArea scheme cs ++ '/' :: path ≠ [] := List.append_ne_nil_of_right_ne_nil _ (List.cons_ne_nil _ _)
  simp only [hsome, imp_false]

/-- no sign of an address stands in the name at the front of a path -/
theorem isArea_services (scheme : List Char) : IsArea scheme "services".toList := by
  intro c hc
  have hplain : endsPort c = false := by
    simpa using List.all_eq_true.1 (by decide +kernel : "services".toList.all (!endsPort ·)) c hc
  by_contra hends
  exact Bool.false_ne_true (hplain.symm.trans (endsPort_of_endsAuthority (Bool.not_eq_false _ ▸ hends)))

/-- the name at the front of a path is admitted as an authority, should slashes in front make it one -/
theorem admits_services (scheme : List Char) : Admits scheme "services".toList := by
  have hhost : ∃ host, Host.ofText "services".toList = .ok host := ⟨.name "services".toList, by decide +kernel⟩
  by_cases hfile : isFile scheme = true
  · exact (admits_file hfile _).2 (.inr hhost)
  · have harea := isArea_services scheme
    have hwhole : hostText scheme false "services".toList = "services".toList :=
      (hostText_cases harea false).resolve_right fun hcolon => by
        obtain ⟨q, hq⟩ := hcolon
        exact absurd (hq ▸ List.mem_append_right _ List.mem_cons_self : ':' ∈ "services".toList) (by decide)
    have hport : portPart scheme "services".toList = [] := by rw [portPart, hwhole, List.drop_length]
    rw [Admits, if_neg hfile, ← List.append_nil "services".toList, withHost_plain harea (follows_nil scheme) (by decide),
      located_iff, hwhole, hport, hostUnder]
    refine ⟨fun hempty => absurd hempty (by decide), ?_, _, rfl⟩
    by_cases hspecial : isSpecial scheme = true
    · obtain ⟨host, hhost⟩ := hhost
      rw [if_pos hspecial]
      exact ⟨host, hhost, fun _ => ⟨rfl, rfl⟩⟩
    · rw [if_neg hspecial]
      exact ⟨.name "services".toList, by decide +kernel, fun _ => ⟨rfl, rfl⟩⟩

/-- a slash and a name behind fewer than two slashes: if they make an authority, it begins with the name -/
theorem behindTwo?_late {slash : Char → Bool} {r pad name cs : List Char} (hr : behindTwo? slash r = none)
    (hpad : ∀ c ∈ pad, slash c = false) (hname : ∀ c ∈ name.head?, slash c = false)
    (h : behindTwo? slash (r ++ (pad ++ '/' :: name)) = some cs) : cs = name := by
  obtain ⟨a, b, heq, ha, hb⟩ := behindTwo?_eq_some_iff.1 h
  have hrest {c : Char} {rest : List Char} (hsplit : pad ++ '/' :: name = c :: rest) (hc : slash c = true) : rest = name := by
    cases pad with
    | nil => exact (List.cons.inj hsplit).2.symm
    | cons p pad =>
      obtain ⟨rfl, -⟩ := List.cons.inj hsplit
      exact absurd ((hpad _ List.mem_cons_self).symm.trans hc) Bool.false_ne_true
  rcases r with - | ⟨x, - | ⟨y, r⟩⟩
  · obtain rfl : b :: cs = name := hrest heq ha
    exact absurd ((hname b rfl).symm.trans hb) Bool.false_ne_true
  · exact hrest (List.cons.inj heq).2 hb
  · obtain ⟨rfl, rfl, -⟩ : x = a ∧ y = b ∧ _ := by simpa using heq
    rw [behindTwo?, ha, hb] at hr
    cases hr

variable {scheme : List Char} {y : List Char}

/-- the name at the front of a path is an authority that is admitted -/
theorem services_admitted (hy : Follows scheme y) :
    Admits scheme (areaOf scheme ("services".toList ++ y)) ∧
      (areaOf scheme ("services".toList ++ y) = ['@'] → behindArea scheme ("services".toList ++ y) = []) := by
  rw [(areaOf_of (isArea_services scheme) hy).1]
  exact ⟨admits_services scheme, fun hat => absurd hat (by decide)⟩

/-- a path behind an address that has no authority -/
theorem behindScheme_services {r pad : List Char} (hy : Follows scheme y) (hpad : IsPadding pad)
    (hr : behindSlashes? scheme r = none) :
    ∃ u, behindScheme scheme (r ++ (pad ++ '/' :: ("services".toList ++ y))) = .ok u := by
  have hslash : ∀ c ∈ pad, isSlash c = false ∧ decide (c = '/') = false := fun c hc => by
    have hends := (around_plain (hpad c hc).1).2.2
    simp only [endsPort, Bool.or_eq_false_iff] at hends
    exact ⟨by rw [isSlash, hends.1.1, hends.1.2]; rfl, hends.1.1⟩
  rw [behindScheme_ok_iff]
  intro cs hcs
  obtain rfl : cs = "services".toList ++ y := by
    unfold behindSlashes? at hr hcs
    by_cases hfile : isFile scheme = true
    · rw [if_pos hfile] at hr hcs
      exact behindTwo?_late hr (fun c hc => (hslash c hc).1) (fun c hc => by cases hc; rfl) hcs
    · rw [if_neg hfile] at hr hcs
      by_cases hspecial : isSpecial scheme = true
      · rw [if_pos hspecial] at hr
        cases hr
      · rw [if_neg hspecial] at hr hcs
        exact behindTwo?_late hr (fun c hc => (hslash c hc).2) (fun c hc => by cases hc; rfl) hcs
  exact services_admitted hy

/-- an accepted address has an authority behind its slashes, if its scheme takes any number of them -/
theorem ne_nil_of_takesSlashes {r cs : List Char} (hr : ∃ u, behindScheme scheme r = .ok u)
    (hcs : behindSlashes? scheme r = some cs) (h : TakesSlashes scheme) : cs ≠ [] := by
  rintro rfl
  exact not_admits_nil h ((behindScheme_ok_iff scheme r).1 hr [] hcs).1

/-- **A path behind blanks** behind an accepted address: it matters only to an authority that the address ends with. -/
theorem padded_iff {r pad : List Char} (hy : Follows scheme y) (hpad : IsPadding pad)
    (hr : ∃ u, behindScheme scheme r = .ok u) :
    (∃ u, behindScheme scheme (r ++ (pad ++ '/' :: ("services".toList ++ y))) = .ok u) ↔
      ∀ cs, behindSlashes? scheme r = some cs → behindArea scheme cs = [] →
        if pad = [] then areaOf scheme cs ≠ ['@']
        else isSpecial scheme = false ∧ TakesIn scheme (hostPort (areaOf scheme cs)) pad := by
  cases hcs : behindSlashes? scheme r with
  | none => exact iff_of_true (behindScheme_services hy hpad hcs) nofun
  | some cs =>
    have hne : TakesSlashes scheme → cs ++ pad ≠ [] := fun h =>
      List.append_ne_nil_of_left_ne_nil (ne_nil_of_takesSlashes hr hcs h) pad
    obtain ⟨hadmits, hat⟩ := (behindScheme_ok_iff scheme r).1 hr cs hcs
    have hpadded := behindSlashes?_append hcs (ne_nil_of_takesSlashes hr hcs) pad
    simp only [Option.some.injEq, forall_eq']
    rw [← List.append_assoc, extended_iff hpadded hne]
    have harea := isArea_areaOf scheme cs
    have hsplit := areaOf_append scheme cs
    by_cases hends : behindArea scheme cs = []
    · -- the blanks become part of the authority
      have hwhole : areaOf scheme cs = cs := by rwa [hends, List.append_nil] at hsplit
      rw [hwhole] at harea hadmits
      have hboth : areaOf scheme (cs ++ pad) = cs ++ pad := by
        have hpadded : IsArea scheme (cs ++ pad) := List.forall_mem_append.2 ⟨harea, hpad.isArea scheme⟩
        have hcut := (areaOf_of hpadded (follows_nil scheme)).1
        rwa [List.append_nil] at hcut
      rw [hboth, hwhole, forall_prop_of_true hends]
      by_cases hnone : pad = []
      · rw [if_pos hnone, hnone, List.append_nil, and_iff_right hadmits]
      · have hsign : cs ++ pad ≠ ['@'] := fun hsign => by
          have hlast := congrArg List.getLast? hsign
          rw [List.getLast?_append_of_ne_nil _ hnone] at hlast
          exact (around_plain (hpad _ (List.mem_of_getLast? hlast)).1).1.2.2.2 rfl
        rw [if_neg hnone, and_iff_left hsign, admits_blanks_iff harea hpad hnone hadmits]
    · have hfollows : Follows scheme (behindArea scheme cs ++ pad) := fun c hc => follows_behindArea scheme cs c (by
        rwa [List.head?_append_of_ne_nil _ hends] at hc)
      have hsame : areaOf scheme (cs ++ pad) = areaOf scheme cs := by
        have hcut := (areaOf_of harea hfollows).1
        rwa [← List.append_assoc, hsplit] at hcut
      rw [hsame]
      exact iff_of_true ⟨hadmits, fun hsign => hends (hat hsign)⟩ fun hnone => absurd hnone hends

/-- **A path in place of slashes** that an accepted address ends with -/
theorem slashed {r more : List Char} (hy : Follows scheme y) (hr : ∃ u, behindScheme scheme (r ++ '/' :: more) = .ok u) :
    ∃ u, behindScheme scheme (r ++ '/' :: ("services".toList ++ y)) = .ok u := by
  cases hcs : behindSlashes? scheme r with
  | none =>
    have hnone : IsPadding [] := List.forall_mem_nil _
    exact behindScheme_services hy hnone hcs
  | some cs =>
    by_cases hne : TakesSlashes scheme → cs ≠ []
    · exact (extended_iff hcs hne _).2 ((extended_iff hcs hne _).1 hr)
    · -- the slashes go on, and the path begins the authority
      push Not at hne
      obtain ⟨⟨hspecial, hfile⟩, rfl⟩ := hne
      have hname : behindSlashes? scheme (r ++ '/' :: ("services".toList ++ y)) = some ("services".toList ++ y) := by
        rw [behindSlashes?, if_neg (by simp [hfile]), if_pos hspecial] at hcs ⊢
        rw [List.dropWhile_append, if_pos (by simpa using hcs)]
        rfl
      rw [behindScheme_ok_iff, hname]
      rintro _ ⟨⟩
      exact services_admitted hy

/-! ## Texts -/

/-- a character that is not left out wherever it stands -/
def isKept (c : Char) : Bool := !isAnyOf "\t\n\r" c

/-- a text as it is read where something follows: without the blanks in front of it -/
def started (cs : List Char) : List Char := (cs.dropWhile isAround).filter isKept

/-- the blanks and control characters at the end of a text that count where something follows -/
def padding (cs : List Char) : List Char := ((cs.dropWhile isAround).reverse.takeWhile isAround).reverse.filter isKept

theorem isPadding_padding (cs : List Char) : IsPadding (padding cs) := by
  intro c hc
  obtain ⟨hmem, hkept⟩ := List.mem_filter.1 hc
  exact ⟨List.mem_takeWhile_imp (List.mem_reverse.1 hmem), by simpa [isKept] using hkept⟩

theorem started_eq (cs : List Char) : started cs = tidy cs ++ padding cs := by
  let back := (cs.dropWhile isAround).reverse
  calc started cs = ((back.takeWhile isAround ++ back.dropWhile isAround).reverse).filter isKept := by
        rw [List.takeWhile_append_dropWhile, List.reverse_reverse, started]
    _ = tidy cs ++ padding cs := by
        rw [List.reverse_append, List.filter_append]
        rfl

/-- tabs and line ends are blanks or control characters -/
theorem isKept_of_not_around {c : Char} (h : isAround c = false) : isKept c = true := by
  by_contra hnot
  rw [isKept, Bool.not_eq_true, Bool.not_eq_false', isAnyOf, List.contains_iff_mem] at hnot
  have haround : isAround c = true := List.all_eq_true.1 (by decide +kernel : "\t\n\r".toList.all isAround) c hnot
  exact Bool.false_ne_true (h.symm.trans haround)

/-- a text with visible characters behind it -/
theorem tidy_append (base : List Char) {path : List Char} (hne : path ≠ []) (hpath : ∀ c ∈ path, isAround c = false) :
    tidy (base ++ path) = started base ++ path ∧ padding (base ++ path) = [] := by
  have hfront : (base ++ path).dropWhile isAround = base.dropWhile isAround ++ path := by
    have hwhole : path.dropWhile isAround = path := by
      obtain ⟨c, rest, rfl⟩ := List.exists_cons_of_ne_nil hne
      exact List.dropWhile_cons_of_neg (by simp [hpath c List.mem_cons_self])
    rw [List.dropWhile_append]
    split
    · next hempty => rw [hwhole, List.isEmpty_iff.1 hempty, List.nil_append]
    · rfl
  have hlast : ∀ c ∈ (base.dropWhile isAround ++ path).reverse.head?, isAround c = false := by
    intro c hc
    rw [List.head?_reverse, List.getLast?_append_of_ne_nil _ hne] at hc
    exact hpath c (List.mem_of_getLast? hc)
  have hnone : ∀ c ∈ ([] : List Char), isAround c = true := List.forall_mem_nil _
  obtain ⟨htake, hdrop⟩ := cut_exact hnone hlast
  rw [List.nil_append] at htake hdrop
  have hkept : path.filter isKept = path := List.filter_eq_self.2 fun c hc => isKept_of_not_around (hpath c hc)
  constructor
  · rw [tidy, hfront, hdrop, List.reverse_reverse, started]
    change List.filter isKept _ = _
    rw [List.filter_append, hkept]
  · rw [padding, hfront, htake]
    rfl

theorem isAlpha_of_inScheme {c : Char} (h : inScheme c = false) : c.isAlpha = false := by
  simp only [inScheme, Char.isAlphanum, Bool.or_eq_false_iff] at h
  exact h.1.1.1.1

/-- what is put behind a text is no part of its scheme -/
theorem scheme?_append (cs : List Char) {more : List Char} (h : ∀ c ∈ more.head?, inScheme c = false ∧ c ≠ ':') :
    scheme? (cs ++ more) = (scheme? cs).map fun p => (p.1, p.2 ++ more) := by
  cases cs with
  | nil =>
    cases more with
    | nil => rfl
    | cons c more => simp [scheme?, isAlpha_of_inScheme (h c rfl).1]
  | cons c cs =>
    have hfront : ∀ c ∈ cs.takeWhile inScheme, inScheme c = true := fun c hc => List.mem_takeWhile_imp hc
    have hback : ∀ c ∈ (cs.dropWhile inScheme ++ more).head?, inScheme c = false := by
      intro c hc
      cases hcs : cs.dropWhile inScheme with
      | nil => exact (h c (by rwa [hcs] at hc)).1
      | cons d rest =>
        have hnot := List.head?_dropWhile_not inScheme cs
        rw [hcs] at hc hnot
        cases hc
        simpa using hnot
    obtain ⟨htake, hdrop⟩ := cut_exact hfront hback
    rw [← List.append_assoc, List.takeWhile_append_dropWhile] at htake hdrop
    rw [List.cons_append, scheme?, scheme?, htake, hdrop]
    by_cases halpha : c.isAlpha = true
    · rw [if_pos halpha, if_pos halpha]
      cases cs.dropWhile inScheme with
      | nil =>
        cases more with
        | nil => rfl
        | cons d more =>
          have hcolon : d ≠ ':' := (h d rfl).2
          simp [hcolon]
      | cons d rest =>
        by_cases hcolon : d = ':'
        · subst hcolon
          rfl
        · simp [hcolon]
    · rw [if_neg halpha, if_neg halpha]
      rfl

/-- the scheme and the authority of an address that ends with its authority -/
def openAuthority? (cs : List Char) : Option (List Char × List Char) := do
  let (scheme, rest) ← scheme? (tidy cs)
  let behind ← behindSlashes? scheme rest
  if behindArea scheme behind = [] then some (scheme, areaOf scheme behind) else none

/-- a path can be put behind the address: if it ends with its authority, this is no at sign alone, and takes in what blanks there
are behind it -/
def Extensible (cs : List Char) : Prop :=
  ∀ p ∈ openAuthority? cs,
    if padding cs = [] then p.2 ≠ ['@'] else isSpecial p.1 = false ∧ TakesIn p.1 (hostPort p.2) (padding cs)

instance (cs : List Char) : Decidable (Extensible cs) :=
  inferInstanceAs (Decidable (∀ p ∈ openAuthority? cs, _))

theorem extensible_iff {cs rest : List Char} (h : scheme? (tidy cs) = some (scheme, rest)) :
    Extensible cs ↔ ∀ behind, behindSlashes? scheme rest = some behind → behindArea scheme behind = [] →
      if padding cs = [] then areaOf scheme behind ≠ ['@']
      else isSpecial scheme = false ∧ TakesIn scheme (hostPort (areaOf scheme behind)) (padding cs) := by
  rw [Extensible, openAuthority?, h]
  change (∀ p ∈ (behindSlashes? scheme rest).bind fun behind =>
    if behindArea scheme behind = [] then some (scheme, areaOf scheme behind) else none, _) ↔ _
  cases behindSlashes? scheme rest with
  | none => exact iff_of_true nofun nofun
  | some behind =>
    by_cases hends : behindArea scheme behind = []
    · simp [hends]
    · simp [hends]

/-- an accepted text has a scheme -/
theorem exists_scheme {s : String} (h : ∃ u, ofText s = .ok u) :
    ∃ scheme rest, scheme? (tidy s.toList) = some (scheme, rest) := by
  cases hs : scheme? (tidy s.toList) with
  | none =>
    rw [ofText, hs] at h
    exact h.elim fun _ hbad => nomatch hbad
  | some p => exact ⟨p.1, p.2, rfl⟩

/-- behind its scheme a text is accepted or refused -/
theorem ofText_ok_iff {s : String} {rest : List Char} (h : scheme? (tidy s.toList) = some (scheme, rest)) :
    (∃ u, ofText s = .ok u) ↔ ∃ u, behindScheme scheme rest = .ok u := by
  rw [ofText, h]

theorem behindSlashes?_suffix {rest cs : List Char} (h : behindSlashes? scheme rest = some cs) : cs <:+ rest := by
  have htwo {slash : Char → Bool} (h : behindTwo? slash rest = some cs) : cs <:+ rest := by
    obtain ⟨a, b, rfl, -, -⟩ := behindTwo?_eq_some_iff.1 h
    exact ⟨[a, b], rfl⟩
  unfold behindSlashes? at h
  split_ifs at h
  · exact htwo h
  · exact Option.some.inj h ▸ List.dropWhile_suffix _
  · exact htwo h

/-- **A path in place of the slashes at the end** of an accepted address gives an accepted address exactly if the address is
extensible. -/
theorem ofText_extended_iff {base slashes : List Char} (hslashes : ∀ c ∈ slashes, c = '/') (hy : ∀ c ∈ y.head?, c = '/')
    (hvisible : ∀ c ∈ y, isAround c = false) (h : ∃ u, ofText (String.ofList (base ++ slashes)) = .ok u) :
    (∃ u, ofText (String.ofList (base ++ '/' :: ("services".toList ++ y))) = .ok u) ↔ Extensible (base ++ slashes) := by
  have hfollows (scheme : List Char) : Follows scheme y := fun c hc => by
    rw [hy c hc]
    rfl
  have hpath : ∀ c ∈ '/' :: ("services".toList ++ y), isAround c = false := by
    rw [← List.cons_append]
    intro c hc
    rcases List.mem_append.1 hc with hname | hc
    · simpa using List.all_eq_true.1 (by decide +kernel : ('/' :: "services".toList).all (!isAround ·)) c hname
    · exact hvisible c hc
  have htidy := (tidy_append base (List.cons_ne_nil _ _) hpath).1
  have hslash : inScheme '/' = false ∧ '/' ≠ ':' := by decide
  obtain ⟨scheme, rest, hscheme⟩ := exists_scheme h
  rw [ofText_ok_iff hscheme] at h
  rw [String.toList_ofList] at hscheme
  cases slashes with
  | nil =>
    rw [List.append_nil] at hscheme ⊢
    have hhead : ∀ c ∈ (padding base ++ '/' :: ("services".toList ++ y)).head?, inScheme c = false ∧ c ≠ ':' := by
      intro c hc
      cases hpadding : padding base with
      | nil =>
        rw [hpadding] at hc
        cases hc
        exact hslash
      | cons d pad =>
        rw [hpadding] at hc
        cases hc
        have hd : isAround c = true := (isPadding_padding base c (hpadding ▸ List.mem_cons_self)).1
        exact around_all (P := fun c => inScheme c = false ∧ c ≠ ':') (by decide +kernel) hd
    have hrequest := scheme?_append (tidy base) hhead
    rw [hscheme, ← List.append_assoc, ← started_eq, ← htidy] at hrequest
    rw [ofText_ok_iff (by rw [String.toList_ofList]; exact hrequest), extensible_iff hscheme]
    exact padded_iff (hfollows scheme) (isPadding_padding base) h
  | cons c more =>
    -- behind a slash there are no blanks to count, and an address that ends in one does not end in an at sign
    obtain ⟨rfl, hmore⟩ := List.forall_mem_cons.1 hslashes
    have hplain : ∀ c ∈ '/' :: more, isAround c = false := fun c hc => by
      rw [hslashes c hc]
      rfl
    obtain ⟨htidied, hpadding⟩ := tidy_append base (List.cons_ne_nil _ _) hplain
    have hfront := hscheme
    rw [htidied, scheme?_append _ fun c hc => by cases hc; exact hslash] at hfront
    obtain ⟨⟨own, r⟩, hr, heq⟩ := Option.map_eq_some_iff.1 hfront
    obtain ⟨rfl, rfl⟩ : own = scheme ∧ r ++ '/' :: more = rest := by simpa using heq
    have hrequest : scheme? (tidy (base ++ '/' :: ("services".toList ++ y))) =
        some (own, r ++ '/' :: ("services".toList ++ y)) := by
      rw [htidy, scheme?_append _ fun c hc => by cases hc; exact hslash, hr]
      rfl
    refine iff_of_true ((ofText_ok_iff (by rw [String.toList_ofList]; exact hrequest)).2 (slashed (hfollows _) h)) ?_
    rw [extensible_iff hscheme]
    intro behind hbehind hends
    rw [if_pos hpadding]
    intro hsign
    have hwhole : behind = ['@'] := by rw [← hsign, ← List.append_nil (areaOf own behind), ← hends, areaOf_append]
    obtain ⟨front, hfront⟩ := behindSlashes?_suffix hbehind
    have hlast : (r ++ '/' :: more).getLast? = some '@' := by rw [← hfront, hwhole, List.getLast?_concat]
    rw [List.getLast?_append_of_ne_nil _ (List.cons_ne_nil _ _)] at hlast
    exact absurd (hslashes '@' (List.mem_of_getLast? hlast)) (by decide)

/-- a blank behind a port is in the way of a path, and a blank behind a slash is not -/
example : ¬Extensible "http://nas:80 ".toList ∧ Extensible "http://nas:80/ ".toList := by decide +kernel

/-! ### Schemes with hosts -/

theorem withHost_scheme {cs : List Char} {u : Url} (h : withHost scheme cs = .ok u) : u.scheme = scheme := by
  unfold withHost at h
  obtain ⟨⟨⟨user, password⟩, rest⟩, -, h⟩ := bind_eq_ok h
  obtain ⟨⟨host, r⟩, -, h⟩ := bind_eq_ok h
  obtain ⟨⟨port, q⟩, -, h⟩ := bind_eq_ok h
  dsimp only at h
  split_ifs at h
  cases h
  rfl

theorem ofFile_scheme {cs : List Char} {u : Url} (h : ofFile scheme cs = .ok u) : u.scheme = scheme := by
  unfold ofFile at h
  split at h
  · split at h
    · dsimp only at h
      split at h
      · cases h
        rfl
      · obtain ⟨host, -, h⟩ := bind_eq_ok h
        have hkeep (u : Url) :
            (if startsAtDrive u.path then { u with host := some (.name []) } else u).scheme = u.scheme := by
          split <;> rfl
        cases h
        exact hkeep _
    · cases h
      rfl
  · cases h
    rfl

theorem behindScheme_scheme {cs : List Char} {u : Url} (h : behindScheme scheme cs = .ok u) : u.scheme = scheme := by
  unfold behindScheme at h
  split_ifs at h
  · exact ofFile_scheme h
  · exact withHost_scheme h
  · split at h
    · exact withHost_scheme h
    · cases h
      rfl
    · cases h
      rfl

/-- under a scheme with hosts an at sign alone is no authority -/
theorem not_admits_sign (h : isSpecial scheme = true) : ¬Admits scheme ['@'] := by
  by_cases hfile : isFile scheme = true
  · exact not_admits_at hfile
  · have harea : IsArea scheme ([] ++ '@' :: []) := fun c hc => by
      obtain rfl := List.mem_singleton.1 hc
      simp [endsAuthority, beginsTail]
    rw [Admits, if_neg hfile]
    intro hown
    obtain ⟨hlocated, -⟩ := (withHost_at harea (follows_nil scheme) List.not_mem_nil).1 hown
    exact Bool.false_ne_true ((((located_iff scheme _ []).1 hlocated).1 rfl).1.symm.trans h)

/-- behind a visible character there is nothing to count -/
theorem padding_of_visible {cs : List Char} (h : ∀ c ∈ cs.getLast?, isAround c = false) : padding cs = [] := by
  rcases List.eq_nil_or_concat cs with rfl | ⟨init, c, rfl⟩
  · rfl
  · rw [List.concat_eq_append] at h ⊢
    refine (tidy_append init (List.cons_ne_nil _ _) fun d hd => ?_).2
    rw [List.mem_singleton.1 hd]
    exact h c (by rw [List.getLast?_concat]; rfl)

/-- **An accepted address of a scheme with hosts,** with nothing at its end that does not show, is extensible. -/
theorem extensible_of_visible {s : String} {u : Url} (h : ofText s = .ok u) (hspecial : isSpecial u.scheme = true)
    (hlast : ∀ c ∈ s.toList.getLast?, isAround c = false) : Extensible s.toList := by
  obtain ⟨scheme, rest, hscheme⟩ := exists_scheme ⟨u, h⟩
  obtain ⟨u', haccepted⟩ := (ofText_ok_iff hscheme).1 ⟨u, h⟩
  have hown : u.scheme = scheme := by
    rw [ofText, hscheme] at h
    exact behindScheme_scheme h
  rw [extensible_iff hscheme]
  intro behind hbehind hends
  rw [if_pos (padding_of_visible hlast)]
  intro hsign
  obtain ⟨hadmits, -⟩ := (behindScheme_ok_iff scheme rest).1 ⟨u', haccepted⟩ behind hbehind
  exact not_admits_sign (hown ▸ hspecial) (hsign ▸ hadmits)

end ServiceMonitor.Url
