import ServiceMonitor.Proofs.Text.Lossy
import ServiceMonitor.Proofs.Url.Authority

/-!
Blanks and control characters behind an authority.

Around an address they do not count. Where something is put behind the address they stand inside of it, and if the address ends
with its authority they become part of the host or of the port.

- `Host.ofText_blank`: no host of its own ends in one; for that a byte below 0x80 is followed through escapes, characters and
  names.
- `located_blanks_host`, `located_blanks_port`: what becomes of them behind a host and behind a port.
- `admits_blanks_iff`: when an authority with them at its end is admitted.
-/

namespace ServiceMonitor.Url

/-! ## Blanks at the end of a host -/

/-- a byte that is no hexadecimal digit is never part of an escape -/
theorem unescape_concat {p : UInt8} (hp : hexValue? p = none) : ∀ bs, ∃ front, unescape (bs ++ [p]) = front ++ [p]
  | [] => ⟨[], rfl⟩
  | [b] => ⟨[b], rfl⟩
  | [b, h] => by
    have hnone : (if b = 0x25 then escaped? h p else none) = none := by simp [escaped?, hp]
    exact ⟨[b, h], by simp only [List.cons_append, List.nil_append, unescape, hnone]⟩
  | b :: h :: l :: r => by
    obtain ⟨front, hfront⟩ := unescape_concat hp r
    obtain ⟨front', hfront'⟩ := unescape_concat hp (h :: l :: r)
    rw [List.cons_append, List.cons_append, List.cons_append, unescape]
    split
    · next x _ => exact ⟨x :: front, by rw [hfront, List.cons_append]⟩
    · exact ⟨b :: front', by rw [← List.cons_append, ← List.cons_append, hfront', List.cons_append]⟩

theorem isAround_iff (c : Char) : isAround c = true ↔ c.toNat ≤ 0x20 := by simp [isAround]

/-- what holds of the first thirty-three characters holds of blanks and control characters -/
theorem around_all {P : Char → Prop} (h : ∀ n < 0x21, P (Char.ofNat n)) {c : Char} (hc : isAround c = true) : P c := by
  have hn := h c.toNat (Nat.lt_succ_of_le ((isAround_iff c).1 hc))
  rwa [Char.ofNat_toNat] at hn

/-- no name ends in a blank or a control character -/
theorem asciiName?_blank (cs : List Char) {c : Char} (hc : isAround c = true) : asciiName? (cs ++ [c]) = none := by
  have hlow : c.toNat ≤ 0x20 := (isAround_iff c).1 hc
  have hmapped : mapped? c = some [c] := by
    have hlower : c.toLower = c := around_all (P := fun c => c.toLower = c) (by decide +kernel) hc
    rw [mapped?, if_pos (by omega), hlower]
  have hdenied : isDenied c = true := by simp [isDenied, hlow]
  rw [asciiName?, List.mapM_append]
  cases hfront : cs.mapM mapped? with
  | none => rfl
  | some ms => simp [hmapped, hdenied]

/-- a character below 0x80 at the end of bytes is the last character of their text -/
theorem decode_concat {bs : List UInt8} {b : UInt8} (hb : b.toNat < 0x80) {cs : List Char}
    (h : Utf8.decode (bs ++ [b]) = some cs) : ∃ front, cs = front ++ [Char.ofNat b.toNat] := by
  rw [Utf8.decode, Utf8.read_append .start bs hb, List.mapM_append] at h
  cases hfront : (Utf8.read .start bs).mapM id with
  | none => simp [hfront] at h
  | some front =>
    simp [hfront, Utf8.read] at h
    exact ⟨front, h.symm⟩

/-- no host ends in a blank or a control character -/
theorem Host.ofText_blank (cs : List Char) {c : Char} (hc : isAround c = true) (h : Host) :
    Host.ofText (cs ++ [c]) ≠ .ok h := by
  have hlow : c.toNat ≤ 0x20 := (isAround_iff c).1 hc
  intro hok
  unfold ofText at hok
  split at hok
  · next r hcs =>
    have hlast : r.getLast? ≠ some ']' := by
      intro hr
      have hboth := congrArg List.getLast? hcs
      rw [List.getLast?_concat, List.getLast?_cons, hr] at hboth
      cases hboth
      revert hlow
      decide
    rw [bracketed, if_neg hlast] at hok
    cases hok
  · have hbytes : Utf8.encode (cs ++ [c]) = Utf8.encode cs ++ [c.toNat.toUInt8] := by
      rw [Utf8.encode_append, Utf8.encode_cons, Utf8.encodeChar_ascii (by omega)]
      rfl
    have hbyte : c.toNat.toUInt8.toNat = c.toNat := Utf8.toNat_toUInt8 (by omega)
    have hhex : hexValue? c.toNat.toUInt8 = none := by
      simp only [hexValue?, hbyte]
      grind
    obtain ⟨front, hfront⟩ := unescape_concat hhex (Utf8.encode cs)
    have hnone : (Utf8.decode (unescape (Utf8.encode (cs ++ [c])))).bind asciiName? = none := by
      rw [hbytes, hfront]
      cases htext : Utf8.decode (front ++ [c.toNat.toUInt8]) with
      | none => rfl
      | some ds =>
        obtain ⟨init, rfl⟩ := decode_concat (by omega) htext
        rw [hbyte, Char.ofNat_toNat]
        exact asciiName?_blank init hc
    rw [hnone] at hok
    cases hok

/-! ## Blanks behind host and port -/

/-- no blank or control character means anything in an authority -/
theorem around_plain {c : Char} (hc : isAround c = true) :
    (c ≠ ':' ∧ c ≠ '[' ∧ c ≠ ']' ∧ c ≠ '@') ∧ c.isDigit = false ∧ endsPort c = false :=
  around_all (P := fun c => (c ≠ ':' ∧ c ≠ '[' ∧ c ≠ ']' ∧ c ≠ '@') ∧ c.isDigit = false ∧ endsPort c = false)
    (by decide +kernel) hc

/-- blanks and control characters, without line ends and tabs, which are left out wherever they stand -/
def IsPadding (pad : List Char) : Prop := ∀ c ∈ pad, isAround c = true ∧ isAnyOf "\t\n\r" c = false

/-- what ends an authority ends a port -/
theorem endsPort_of_endsAuthority {scheme : List Char} {c : Char} (h : endsAuthority scheme c = true) : endsPort c = true := by
  rcases endsAuthority_cases h with rfl | rfl | rfl | rfl <;> decide

theorem endsAuthority_around (scheme : List Char) {c : Char} (hc : isAround c = true) : endsAuthority scheme c = false := by
  by_contra hends
  rw [Bool.not_eq_false] at hends
  exact Bool.false_ne_true ((around_plain hc).2.2.symm.trans (endsPort_of_endsAuthority hends))

theorem IsPadding.concat {pad : List Char} (h : IsPadding pad) (hne : pad ≠ []) :
    ∃ init c, pad = init ++ [c] ∧ isAround c = true :=
  ⟨pad.dropLast, pad.getLast hne, (List.dropLast_append_getLast hne).symm, (h _ (List.getLast_mem hne)).1⟩

theorem IsPadding.isArea {pad : List Char} (h : IsPadding pad) (scheme : List Char) : IsArea scheme pad :=
  fun c hc => endsAuthority_around scheme (h c hc).1

theorem IsPadding.hostText {pad : List Char} (h : IsPadding pad) (scheme : List Char) (inside : Bool) :
    hostText scheme inside pad = pad := by
  induction pad generalizing inside with
  | nil => rfl
  | cons c pad ih =>
    obtain ⟨hc, hpad⟩ := List.forall_mem_cons.1 h
    obtain ⟨⟨hcolon, hopen, hclose, -⟩, -, -⟩ := around_plain hc.1
    rw [Url.hostText, endsAuthority_around scheme hc.1, if_neg hopen, if_neg hclose, ih hpad]
    simp [hcolon]

/-- in an authority a host goes up to a colon -/
theorem hostText_cases {scheme b : List Char} (hb : IsArea scheme b) (inside : Bool) :
    hostText scheme inside b = b ∨ ∃ q, b = hostText scheme inside b ++ ':' :: q := by
  induction b generalizing inside with
  | nil => exact .inl rfl
  | cons c b ih =>
    obtain ⟨hc, hrest⟩ := List.forall_mem_cons.1 hb
    rw [hostText, hc, Bool.or_false]
    by_cases hstop : (c = ':' && !inside) = true
    · obtain ⟨hcolon, -⟩ := Bool.and_eq_true_iff.1 hstop
      rw [if_pos hstop, of_decide_eq_true hcolon]
      exact .inr ⟨b, rfl⟩
    · rw [if_neg hstop]
      rcases ih hrest (if c = '[' then true else if c = ']' then false else inside) with hwhole | ⟨q, hq⟩
      · exact .inl (by rw [hwhole])
      · exact .inr ⟨q, by rw [List.cons_append, ← hq]⟩

/-- what stands behind the host: nothing or a port -/
def portPart (scheme b : List Char) : List Char := b.drop (hostText scheme false b).length

/-- blanks behind a host without brackets are part of it; blanks behind a port are not read, unless a backslash ends it -/
def TakesIn (scheme b pad : List Char) : Prop :=
  (portPart scheme b = [] ∧ b.head? ≠ some '[' ∧ ' ' ∉ pad ∧ '\x00' ∉ pad) ∨ '\\' ∈ portPart scheme b

instance (scheme b pad : List Char) : Decidable (TakesIn scheme b pad) := inferInstanceAs (Decidable (_ ∨ _))

/-- what may not stand in a plain host, among blanks and control characters -/
theorem IsPadding.any_isSeparator {pad : List Char} (h : IsPadding pad) :
    pad.any Host.isSeparator = false ↔ ' ' ∉ pad ∧ '\x00' ∉ pad := by
  have hsep {c : Char} (hc : isAround c = true) (hkept : isAnyOf "\t\n\r" c = false) :
      Host.isSeparator c = true ↔ c = ' ' ∨ c = '\x00' :=
    around_all (P := fun c => isAnyOf "\t\n\r" c = false → (Host.isSeparator c = true ↔ c = ' ' ∨ c = '\x00'))
      (by decide +kernel) hc hkept
  rw [List.any_eq_false]
  constructor
  · intro hnone
    exact ⟨fun hmem => hnone _ hmem (by decide), fun hmem => hnone _ hmem (by decide)⟩
  · rintro ⟨hblank, hnull⟩ c hmem hc
    obtain ⟨haround, hkept⟩ := h c hmem
    rcases (hsep haround hkept).1 hc with rfl | rfl
    · exact hblank hmem
    · exact hnull hmem

/-- nothing is lost in escaping -/
theorem escape_ne_nil (set : Char → Bool) {cs : List Char} (h : cs ≠ []) : escape set cs ≠ [] := by
  obtain ⟨c, rest, rfl⟩ := List.exists_cons_of_ne_nil h
  rw [escape, List.flatMap_cons]
  refine List.append_ne_nil_of_left_ne_nil ?_ _
  obtain ⟨b, bs, hbytes⟩ := List.exists_cons_of_ne_nil (Utf8.encodeChar_ne_nil c)
  split
  · rw [hbytes, List.flatMap_cons, escapeByte]
    exact List.cons_ne_nil _ _
  · exact List.cons_ne_nil _ _

/-- a plain host without brackets -/
theorem Host.ofPlainText_of_head {cs : List Char} (h : cs.head? ≠ some '[') :
    ofPlainText cs = if cs.any isSeparator then .error .invalidCharacter else .ok (.name (escape escapedAlways cs)) := by
  unfold ofPlainText
  split
  · exact absurd rfl h
  · rfl

/-- only no text at all is an empty host -/
theorem Host.ofPlainText_ne_nil {cs : List Char} {host : Host} (hne : cs ≠ []) (h : ofPlainText cs = .ok host) :
    host ≠ .name [] := by
  rintro rfl
  unfold ofPlainText at h
  split at h
  · next r =>
    unfold bracketed at h
    split at h
    · split at h <;> cases h
    · cases h
  · split at h
    · cases h
    · injection h with h
      exact escape_ne_nil escapedAlways hne (Host.name.inj h)

/-- a bracket must be closed at the end; in a host without brackets only the blank and the null character are refused -/
theorem Host.ofPlainText_blanks {b pad : List Char} {host : Host} (hb : ofPlainText b = .ok host) (hpad : IsPadding pad)
    (hne : pad ≠ []) : (∃ h, ofPlainText (b ++ pad) = .ok h) ↔ b.head? ≠ some '[' ∧ ' ' ∉ pad ∧ '\x00' ∉ pad := by
  by_cases hbracket : b.head? = some '['
  · obtain ⟨r, rfl⟩ : ∃ r, b = '[' :: r := ⟨b.tail, (List.cons_head?_tail hbracket).symm⟩
    have hlast : (r ++ pad).getLast? ≠ some ']' := by
      rw [List.getLast?_append_of_ne_nil _ hne]
      intro hclose
      exact (around_plain (hpad _ (List.mem_of_getLast? hclose)).1).1.2.2.1 rfl
    rw [List.cons_append, ofPlainText, bracketed, if_neg hlast]
    refine iff_of_false ?_ fun hall => hall.1 rfl
    rintro ⟨_, ⟨⟩⟩
  · have hboth : (b ++ pad).head? ≠ some '[' := by
      cases b with
      | cons c b => exact hbracket
      | nil =>
        intro hopen
        exact (around_plain (hpad _ (List.mem_of_mem_head? hopen)).1).1.2.1 rfl
    have hfront : b.any isSeparator = false := by
      rw [ofPlainText_of_head hbracket] at hb
      by_contra hsep
      rw [if_pos (by simpa using hsep)] at hb
      cases hb
    rw [ofPlainText_of_head hboth, List.any_append, hfront, Bool.false_or, ← hpad.any_isSeparator, and_iff_right hbracket]
    cases pad.any isSeparator with
    | true =>
      refine iff_of_false ?_ Bool.false_ne_true.symm
      rintro ⟨_, ⟨⟩⟩
    | false => exact iff_of_true ⟨_, rfl⟩ rfl

/-- the host that a text is under a scheme -/
def hostUnder (scheme text : List Char) : Except Error Host :=
  if isSpecial scheme then Host.ofText text else Host.ofPlainText text

/-- host and port are read from two parts of the text -/
theorem located_iff (scheme : List Char) (owner : List Char × List Char) (cs : List Char) :
    Located scheme owner cs ↔
      (hostText scheme false cs = [] → isSpecial scheme = false ∧ (portPart scheme cs).head? ≠ some ':') ∧
        (∃ host, hostUnder scheme (hostText scheme false cs) = .ok host ∧
          (host = .name [] → owner.1 = [] ∧ owner.2 = [])) ∧
        ∃ p, splitPort scheme (portPart scheme cs) = .ok p := by
  have hsplit : splitHost scheme cs =
      if hostText scheme false cs = [] ∧ (isSpecial scheme = true ∨ (portPart scheme cs).head? = some ':') then
        .error .emptyHost
      else (hostUnder scheme (hostText scheme false cs)).map (·, portPart scheme cs) := by
    simp [splitHost, hostUnder, portPart]
  have hempty : (hostText scheme false cs = [] → isSpecial scheme = false ∧ (portPart scheme cs).head? ≠ some ':') ↔
      ¬(hostText scheme false cs = [] ∧ (isSpecial scheme = true ∨ (portPart scheme cs).head? = some ':')) := by
    rw [not_and, not_or, Bool.not_eq_true]
  rw [Located, hsplit, hempty]
  by_cases hnone : hostText scheme false cs = [] ∧ (isSpecial scheme = true ∨ (portPart scheme cs).head? = some ':')
  · rw [if_pos hnone]
    refine iff_of_false ?_ fun hall => hall.1 hnone
    rintro ⟨_, _, ⟨⟩, -⟩
  · rw [if_neg hnone, and_iff_right hnone]
    cases hostUnder scheme (hostText scheme false cs) with
    | error e =>
      constructor
      · rintro ⟨_, _, ⟨⟩, -⟩
      · rintro ⟨⟨_, ⟨⟩, -⟩, -⟩
    | ok host =>
      constructor
      · rintro ⟨_, _, ⟨⟩, hport, howner⟩
        exact ⟨⟨host, rfl, howner⟩, hport⟩
      · rintro ⟨⟨_, ⟨⟩, howner⟩, hport⟩
        exact ⟨host, _, rfl, hport, howner⟩

/-- blanks behind a host are part of it -/
theorem located_blanks_host {scheme b pad : List Char} {owner : List Char × List Char} (hwhole : hostText scheme false b = b)
    (hpad : IsPadding pad) (hne : pad ≠ []) (hb : Located scheme owner b) :
    Located scheme owner (b ++ pad) ↔ isSpecial scheme = false ∧ b.head? ≠ some '[' ∧ ' ' ∉ pad ∧ '\x00' ∉ pad := by
  have hboth : hostText scheme false (b ++ pad) = b ++ pad := by
    rw [hostText_append (hpad.hostText scheme), if_pos hwhole]
  have hsome : b ++ pad ≠ [] := List.append_ne_nil_of_right_ne_nil b hne
  have hport : portPart scheme (b ++ pad) = [] := by rw [portPart, hboth, List.drop_length]
  rw [located_iff, hwhole] at hb
  rw [located_iff, hboth, hport]
  obtain ⟨-, ⟨own, hown, -⟩, -⟩ := hb
  rw [hostUnder] at hown ⊢
  by_cases hspecial : isSpecial scheme = true
  · -- no host of its own ends in a blank
    obtain ⟨init, c, rfl, hc⟩ := hpad.concat hne
    rw [if_pos hspecial, hspecial, ← List.append_assoc]
    refine iff_of_false ?_ fun hall => Bool.false_ne_true hall.1.symm
    rintro ⟨-, ⟨host, hhost, -⟩, -⟩
    exact Host.ofText_blank _ hc host hhost
  · rw [if_neg hspecial] at hown ⊢
    rw [Bool.not_eq_true] at hspecial
    rw [← Host.ofPlainText_blanks hown hpad hne, and_iff_right (b := ∃ host, _) hspecial]
    constructor
    · rintro ⟨-, ⟨host, hhost, -⟩, -⟩
      exact ⟨host, hhost⟩
    · rintro ⟨host, hhost⟩
      exact ⟨fun hnone => absurd hnone hsome,
        ⟨host, hhost, fun hname => absurd hname (Host.ofPlainText_ne_nil hsome hhost)⟩, _, rfl⟩

/-- behind the digits of a port an authority can only go on with a backslash, and not under every scheme -/
theorem behind_digits_iff {scheme q : List Char} (hq : IsArea scheme q) (hport : ∃ p, splitPort scheme (':' :: q) = .ok p) :
    q.dropWhile Char.isDigit ≠ [] ↔ isSpecial scheme = false ∧ '\\' ∈ q := by
  constructor
  · intro hne
    obtain ⟨c, rest, hrest⟩ := List.exists_cons_of_ne_nil hne
    have hmem : c ∈ q := (List.dropWhile_suffix Char.isDigit).subset (hrest ▸ List.mem_cons_self)
    have hends : endsPort c = true := by
      obtain ⟨p, hport⟩ := hport
      by_contra hnot
      simp only [endsPort, Bool.not_eq_true, Bool.or_eq_false_iff, decide_eq_false_iff_not] at hnot
      simp [splitPort, hrest, hnot] at hport
    have harea : endsAuthority scheme c = false := hq c hmem
    simp only [endsPort, endsAuthority, Bool.or_eq_true, Bool.or_eq_false_iff, Bool.and_eq_false_iff, decide_eq_true_eq,
      decide_eq_false_iff_not] at hends harea
    obtain ⟨⟨hslash, htail⟩, hspecial⟩ := harea
    obtain rfl : c = '\\' := by
      rcases hends with (hends | hends) | hends
      · exact absurd hends hslash
      · exact hends
      · exact absurd (htail.symm.trans hends) Bool.false_ne_true
    exact ⟨hspecial.resolve_right (· rfl), hmem⟩
  · rintro ⟨-, hmem⟩ hnone
    exact absurd (List.dropWhile_eq_nil_iff.1 hnone _ hmem) (by decide)

/-- a port takes no blanks in, but what stands behind its backslash may hold them -/
theorem located_blanks_port {scheme h q pad : List Char} {owner : List Char × List Char} (hb : IsArea scheme (h ++ ':' :: q))
    (hhost : hostText scheme false (h ++ ':' :: q) = h) (hpad : IsPadding pad) (hne : pad ≠ [])
    (hown : Located scheme owner (h ++ ':' :: q)) :
    Located scheme owner (h ++ ':' :: q ++ pad) ↔ isSpecial scheme = false ∧ '\\' ∈ q := by
  have hboth : hostText scheme false (h ++ ':' :: q ++ pad) = h := by
    rw [hostText_append (hpad.hostText scheme), if_neg (by rw [hhost]; simp), hhost]
  have hport : portPart scheme (h ++ ':' :: q) = ':' :: q := by rw [portPart, hhost, List.drop_left]
  have hmore : portPart scheme (h ++ ':' :: q ++ pad) = ':' :: (q ++ pad) := by
    rw [portPart, hboth, List.append_assoc, List.drop_left, List.cons_append]
  rw [located_iff, hhost, hport] at hown
  rw [located_iff, hboth, hmore]
  obtain ⟨hsome, hread, hdigits⟩ := hown
  have hfirst : ∀ c ∈ pad.head?, c.isDigit = false ∧ endsPort c = false := fun c hc =>
    (around_plain (hpad c (List.mem_of_mem_head? hc)).1).2
  rw [List.head?_cons] at hsome ⊢
  rw [and_iff_right hsome, and_iff_right hread, splitPort_behind scheme q fun c hc => (hfirst c hc).1, and_iff_right hdigits,
    ← behind_digits_iff (fun c hc => hb c (List.mem_append_right _ (List.mem_cons_of_mem _ hc))) hdigits]
  refine imp_congr_right fun _ => iff_of_false (fun hends => ?_) id
  have hhead := List.head?_eq_some_head hne
  exact Bool.false_ne_true ((hfirst _ hhead).2.symm.trans (hends _ hhead))

/-- blanks behind host and port -/
theorem located_blanks {scheme b pad : List Char} {owner : List Char × List Char} (hb : IsArea scheme b)
    (hpad : IsPadding pad) (hne : pad ≠ []) (hown : Located scheme owner b) :
    Located scheme owner (b ++ pad) ↔ isSpecial scheme = false ∧ TakesIn scheme b pad := by
  rcases hostText_cases hb false with hwhole | ⟨q, hq⟩
  · have hport : portPart scheme b = [] := by rw [portPart, hwhole, List.drop_length]
    rw [located_blanks_host hwhole hpad hne hown, TakesIn, hport]
    simp
  · obtain ⟨h, hhost, rfl⟩ : ∃ h, hostText scheme false (h ++ ':' :: q) = h ∧ b = h ++ ':' :: q :=
      ⟨_, by rw [← hq], hq⟩
    have hport : portPart scheme (h ++ ':' :: q) = ':' :: q := by rw [portPart, hhost, List.drop_left]
    rw [located_blanks_port hb hhost hpad hne hown, TakesIn, hport]
    simp

/-- a drive does not end in a blank -/
theorem isDrive_blank (cs : List Char) {c : Char} (hc : isAround c = true) : Path.isDrive (cs ++ [c]) = false := by
  have hmark : ¬(c = ':' ∨ c = '|') := by
    rintro (rfl | rfl) <;> exact absurd hc (by decide)
  rcases cs with - | ⟨a, - | ⟨b, - | ⟨d, cs⟩⟩⟩
  · rfl
  · simpa [Path.isDrive] using fun _ => not_or.1 hmark
  · rfl
  · rfl

/-- **Blanks behind an authority** are read if the scheme has no hosts of its own and what stands last can hold them. -/
theorem admits_blanks_iff {scheme area pad : List Char} (harea : IsArea scheme area) (hpad : IsPadding pad) (hne : pad ≠ [])
    (hown : Admits scheme area) :
    Admits scheme (area ++ pad) ↔ isSpecial scheme = false ∧ TakesIn scheme (hostPort area) pad := by
  have hat : '@' ∉ pad := fun hmem => (around_plain (hpad _ hmem).1).1.2.2.2 rfl
  have hboth : IsArea scheme (area ++ pad) := List.forall_mem_append.2 ⟨harea, hpad.isArea scheme⟩
  have hnone : Follows scheme [] := follows_nil scheme
  by_cases hfile : isFile scheme = true
  · have hspecial : isSpecial scheme = true := by rw [isSpecial, hfile, Bool.or_true]
    obtain ⟨init, c, rfl, hc⟩ := hpad.concat hne
    rw [admits_file hfile, hspecial, ← List.append_assoc, isDrive_blank _ hc, Bool.or_false, List.isEmpty_iff]
    refine iff_of_false ?_ fun hall => Bool.false_ne_true hall.1.symm
    rintro (hempty | ⟨host, hhost⟩)
    · exact List.append_ne_nil_of_right_ne_nil _ (List.cons_ne_nil _ _) hempty
    · exact Host.ofText_blank _ hc host hhost
  · rw [Admits, if_neg hfile] at hown ⊢
    rw [← List.append_nil area] at hown
    rw [← List.append_nil (area ++ pad)]
    by_cases hmem : '@' ∈ area
    · obtain ⟨front, behind, rfl, hbehind⟩ := exists_last_at hmem
      have hsplit : front ++ '@' :: behind ++ pad = front ++ '@' :: (behind ++ pad) := by rw [List.append_assoc, List.cons_append]
      have hbehind' : '@' ∉ behind ++ pad := fun hmem => (List.mem_append.1 hmem).elim hbehind hat
      have hlocated := ((withHost_at harea hnone hbehind).1 hown).1
      rw [hsplit] at hboth ⊢
      rw [withHost_at hboth hnone hbehind', and_iff_left fun halone => halone.2.2 rfl, hostPort_at front hbehind]
      exact located_blanks (fun c hc => harea c (List.mem_append_right _ (List.mem_cons_of_mem _ hc))) hpad hne hlocated
    · have hmem' : '@' ∉ area ++ pad := fun hmem' => (List.mem_append.1 hmem').elim hmem hat
      rw [withHost_plain hboth hnone hmem', hostPort_plain hmem]
      exact located_blanks harea hpad hne ((withHost_plain harea hnone hmem).1 hown)

end ServiceMonitor.Url
