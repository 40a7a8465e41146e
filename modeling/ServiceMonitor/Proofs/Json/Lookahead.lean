import Mathlib.Tactic
import ServiceMonitor.Json.Reader

/-!
Nothing is read ahead.

A reader that stops in front of some bytes has seen the first of them and no more (`Stops`), and one that has taken
a closing sign has seen none of them (`Closes`). So what stands behind may be exchanged, and the reader does as before.
Where there is fuel, it is enough for the bytes that are read, whatever its amount.

- `Stops.bind`, `Stops.bind_closes`: one reader behind the other.
- `Stops.sign`, `Stops.from_sign`, `Closes.sign`: blanks, and the byte behind them that decides how it goes on.
- `string_closes`, `skipString_closes`: a string ends with its quote.
-/

namespace ServiceMonitor.Json

/-! ## Stopping and closing -/

/-- `f` reads `bs` up to `rest` with the outcome `out rest`; with other bytes there it does the same, if the first is the
same -/
def Stops {β : Type} (f : Bytes → Except Error β) (out : Bytes → β) (bs rest : Bytes) : Prop :=
  ∃ front, bs = front ++ rest ∧ ∀ more, more.head? = rest.head? → f (front ++ more) = .ok (out more)

/-- `f` reads something of `bs` up to `rest` with the outcome `out rest`; with any other bytes there it does the same -/
def Closes {β : Type} (f : Bytes → Except Error β) (out : Bytes → β) (bs rest : Bytes) : Prop :=
  ∃ front, front ≠ [] ∧ bs = front ++ rest ∧ ∀ more, f (front ++ more) = .ok (out more)

theorem bind_eq_ok {β γ : Type} {x : Except Error β} {g : β → Except Error γ} {c : γ} (h : x >>= g = .ok c) :
    ∃ b, x = .ok b ∧ g b = .ok c := by
  cases x with
  | error e => cases h
  | ok b => exact ⟨b, rfl, h⟩

/-- bytes behind others that are not none begin as those do -/
theorem head?_front {front more rest : Bytes} (h : more.head? = rest.head?) :
    (front ++ more).head? = (front ++ rest).head? := by
  rw [List.head?_append, List.head?_append, h]

theorem head?_front_of_ne_nil {front : Bytes} (h : front ≠ []) (more rest : Bytes) :
    (front ++ more).head? = (front ++ rest).head? := by
  rw [List.head?_append_of_ne_nil _ h, List.head?_append_of_ne_nil _ h]

section

variable {β γ : Type} {f g : Bytes → Except Error β} {k : β → Except Error γ}
variable {out : Bytes → β} {out' : Bytes → γ}
variable {b : UInt8} {bs r mid rest : Bytes}

theorem Closes.stops (h : Closes f out bs rest) : Stops f out bs rest := by
  obtain ⟨front, -, hbs, h⟩ := h
  exact ⟨front, hbs, fun more _ => h more⟩

theorem Closes.length_lt (h : Closes f out bs rest) : rest.length < bs.length := by
  obtain ⟨front, hne, rfl, -⟩ := h
  have := List.length_pos_iff.2 hne
  rw [List.length_append]
  omega

/-- nothing is read -/
theorem stops_ok (r : Bytes) : Stops (fun r => .ok (out r)) out r r := ⟨[], rfl, fun _ _ => rfl⟩

theorem Stops.suffix (h : Stops f out bs rest) : rest <:+ bs := by
  obtain ⟨front, hbs, -⟩ := h
  exact ⟨front, hbs.symm⟩

theorem Stops.length_le (h : Stops f out bs rest) : rest.length ≤ bs.length := h.suffix.length_le

theorem Stops.map (k : β → γ) (h : Stops f out bs rest) : Stops (fun bs => (f bs).map k) (fun r => k (out r)) bs rest := by
  obtain ⟨front, hbs, h⟩ := h
  refine ⟨front, hbs, fun more hmore => ?_⟩
  simp only [h more hmore]
  rfl

/-- one reader behind the other -/
theorem Stops.bind (hf : Stops f out bs mid) (hk : Stops (fun r => k (out r)) out' mid rest) :
    Stops (fun bs => f bs >>= k) out' bs rest := by
  obtain ⟨front, rfl, hf⟩ := hf
  obtain ⟨front', rfl, hk⟩ := hk
  refine ⟨front ++ front', (List.append_assoc _ _ _).symm, fun more hmore => ?_⟩
  simp only [List.append_assoc, hf _ (head?_front hmore)]
  exact hk more hmore

/-- a closing sign behind something -/
theorem Stops.bind_closes (hf : Stops f out bs mid) (hk : Closes (fun r => k (out r)) out' mid rest) :
    Closes (fun bs => f bs >>= k) out' bs rest := by
  obtain ⟨front, rfl, hf⟩ := hf
  obtain ⟨front', hne, rfl, hk⟩ := hk
  refine ⟨front ++ front', by simp [hne], (List.append_assoc _ _ _).symm, fun more => ?_⟩
  simp only [List.append_assoc, hf _ (head?_front_of_ne_nil hne more rest)]
  exact hk more

/-- nothing more is read -/
theorem Closes.bind_ok (hf : Closes f out bs rest) (hk : ∀ r, k (out r) = .ok (out' r)) :
    Closes (fun bs => f bs >>= k) out' bs rest := by
  obtain ⟨front, hne, hbs, hf⟩ := hf
  refine ⟨front, hne, hbs, fun more => ?_⟩
  simp only [hf more]
  exact hk more

/-- a byte is taken -/
theorem closes_cons (hf : ∀ r, f (b :: r) = .ok (out r)) (r : Bytes) : Closes f out (b :: r) r :=
  ⟨[b], List.cons_ne_nil _ _, rfl, hf⟩

theorem Stops.cons (hf : ∀ r, f (b :: r) = g r) (hg : Stops g out r rest) : Stops f out (b :: r) rest := by
  obtain ⟨front, rfl, hg⟩ := hg
  exact ⟨b :: front, rfl, fun more hmore => (hf _).trans (hg more hmore)⟩

/-! ## Blanks -/

theorem mem_takeWhile {p : UInt8 → Bool} (h : b ∈ bs.takeWhile p) : p b = true := by
  have hall := List.all_takeWhile (p := p) (l := bs)
  exact List.all_eq_true.1 hall b h

theorem length_lt_of_skipBlank (h : skipBlank bs = b :: r) : r.length < bs.length := by
  have hle := (List.dropWhile_suffix (l := bs) isBlankByte).length_le
  rw [show bs.dropWhile isBlankByte = b :: r from h, List.length_cons] at hle
  exact hle

/-- blanks in front of a byte that is none -/
theorem skipBlank_eq_cons (h : skipBlank bs = b :: r) :
    ∃ blanks, bs = blanks ++ b :: r ∧ ∀ more, skipBlank (blanks ++ b :: more) = b :: more := by
  refine ⟨bs.takeWhile isBlankByte, ?_, fun more => ?_⟩
  · rw [← h]
    exact List.takeWhile_append_dropWhile.symm
  · have hb : isBlankByte b = false := by
      have := List.head?_dropWhile_not isBlankByte bs
      rw [show bs.dropWhile isBlankByte = b :: r from h] at this
      simpa using this
    unfold skipBlank
    rw [List.dropWhile_append_of_pos fun c hc => mem_takeWhile hc, List.dropWhile_cons_of_neg (by simp [hb])]

/-- the first byte that is no blank is taken -/
theorem closes_sign (hs : skipBlank bs = b :: r) (hf : ∀ bs r, skipBlank bs = b :: r → f bs = .ok (out r)) :
    Closes f out bs r := by
  obtain ⟨blanks, rfl, hblanks⟩ := skipBlank_eq_cons hs
  refine ⟨blanks ++ [b], by simp, by simp, fun more => ?_⟩
  rw [List.append_assoc]
  exact hf _ _ (hblanks more)

/-- the first byte that is no blank decides how it goes on -/
theorem Closes.sign (hs : skipBlank bs = b :: r) (hf : ∀ bs r, skipBlank bs = b :: r → f bs = g r)
    (hg : Closes g out r rest) : Closes f out bs rest := by
  obtain ⟨blanks, rfl, hblanks⟩ := skipBlank_eq_cons hs
  obtain ⟨front, -, rfl, hg⟩ := hg
  refine ⟨blanks ++ b :: front, by simp, by simp, fun more => ?_⟩
  rw [List.append_assoc]
  exact (hf _ _ (hblanks _)).trans (hg more)

theorem Stops.sign (hs : skipBlank bs = b :: r) (hf : ∀ bs r, skipBlank bs = b :: r → f bs = g r)
    (hg : Stops g out r rest) : Stops f out bs rest := by
  obtain ⟨blanks, rfl, hblanks⟩ := skipBlank_eq_cons hs
  obtain ⟨front, rfl, hg⟩ := hg
  refine ⟨blanks ++ b :: front, by simp, fun more hmore => ?_⟩
  rw [List.append_assoc]
  exact (hf _ _ (hblanks _)).trans (hg more hmore)

/-- the first byte that is no blank decides how it goes on from there -/
theorem Stops.from_sign (hs : skipBlank bs = b :: r) (hf : ∀ bs r, skipBlank bs = b :: r → f bs = g (b :: r))
    (hg : Stops g out (b :: r) rest) : Stops f out bs rest := by
  obtain ⟨blanks, rfl, hblanks⟩ := skipBlank_eq_cons hs
  obtain ⟨front, hfront, hg⟩ := hg
  refine ⟨blanks ++ front, by rw [List.append_assoc, hfront], fun more hmore => ?_⟩
  obtain ⟨tail, htail⟩ : ∃ tail, front ++ more = b :: tail :=
    List.head?_eq_some_iff.1 (by rw [head?_front hmore, ← hfront]; rfl)
  rw [List.append_assoc, htail, hf _ _ (hblanks tail), ← htail]
  exact hg more hmore

end

/-! ## Signs between values -/

theorem colon_eq_ok_iff {bs rest : Bytes} : colon bs = .ok rest ↔ skipBlank bs = 0x3A :: rest := by
  unfold colon
  cases skipBlank bs with
  | nil => simp
  | cons b r => by_cases hb : b = 0x3A <;> simp [hb]

theorem endObject_eq_ok_iff {bs rest : Bytes} : endObject bs = .ok rest ↔ skipBlank bs = 0x7D :: rest := by
  unfold endObject
  cases skipBlank bs with
  | nil => simp
  | cons b r =>
    by_cases hb : b = 0x7D
    · simp [hb]
    · simp only [hb, if_false, List.cons.injEq, false_and, iff_false]
      split_ifs <;> simp

theorem endArray_eq_ok_iff {bs rest : Bytes} : endArray bs = .ok rest ↔ skipBlank bs = 0x5D :: rest := by
  unfold endArray
  cases skipBlank bs with
  | nil => simp
  | cons b r =>
    by_cases hb : b = 0x5D
    · simp [hb]
    · -- behind a comma it is an error as well
      simp only [hb, if_false, List.cons.injEq, false_and, iff_false]
      split_ifs with hcomma
      · split
        · split_ifs <;> simp
        · simp
      · simp

theorem colon_closes {bs rest : Bytes} (h : colon bs = .ok rest) : Closes colon id bs rest :=
  closes_sign (colon_eq_ok_iff.1 h) fun _ _ => colon_eq_ok_iff.2

theorem endObject_closes {bs rest : Bytes} (h : endObject bs = .ok rest) : Closes endObject id bs rest :=
  closes_sign (endObject_eq_ok_iff.1 h) fun _ _ => endObject_eq_ok_iff.2

theorem endArray_closes {bs rest : Bytes} (h : endArray bs = .ok rest) : Closes endArray id bs rest :=
  closes_sign (endArray_eq_ok_iff.1 h) fun _ _ => endArray_eq_ok_iff.2

/-! ## Literals and strings -/

theorem literal_stops {ws bs rest : Bytes} (h : literal ws bs = .ok ((), rest)) : Stops (literal ws) ((), ·) bs rest := by
  induction ws generalizing bs with
  | nil =>
    cases h
    exact stops_ok rest
  | cons w ws ih =>
    cases bs with
    | nil => cases h
    | cons b bs =>
      simp only [literal] at h
      split_ifs at h with hb
      exact (ih h).cons fun r => by simp only [literal, hb, if_true]

theorem hexEscape_closes {bs rest : Bytes} {n : ℕ} (h : hexEscape bs = .ok (n, rest)) :
    Closes hexEscape (n, ·) bs rest := by
  unfold hexEscape at h
  split at h
  · rename_i a b c d r
    split at h
    · rename_i ha hb hc hd
      cases h
      exact ⟨[a, b, c, d], by simp, rfl, fun more => by simp [hexEscape, ha, hb, hc, hd]⟩
    · cases h
  · cases h

theorem trailingSurrogate_closes {lead : ℕ} {bs out rest : Bytes} (h : trailingSurrogate lead bs = .ok (out, rest)) :
    Closes (trailingSurrogate lead) (out, ·) bs rest := by
  unfold trailingSurrogate at h
  split at h
  · cases h
  · cases h
  · rename_i r
    obtain ⟨⟨n, r'⟩, hhex, h⟩ := bind_eq_ok h
    dsimp only at h
    split_ifs at h with hn
    rw [Except.ok.injEq, Prod.mk.injEq] at h
    obtain ⟨rfl, rfl⟩ := h
    obtain ⟨front, hne, rfl, hclose⟩ := hexEscape_closes hhex
    refine ⟨0x5C :: 0x75 :: front, by simp, rfl, fun more => ?_⟩
    change (hexEscape (front ++ more) >>= _) = _
    rw [hclose]
    exact if_pos hn
  · cases h

theorem escape_closes {bs out rest : Bytes} (h : escape bs = .ok (out, rest)) : Closes escape (out, ·) bs rest := by
  cases bs with
  | nil => cases h
  | cons b r =>
    by_cases hu : b = 0x75
    · subst hu
      change (hexEscape r >>= _) = _ at h
      obtain ⟨⟨n, mid⟩, hhex, hthen⟩ := bind_eq_ok h
      clear h
      obtain ⟨front, hne, rfl, hclose⟩ := hexEscape_closes hhex
      dsimp only at hthen
      split_ifs at hthen with hlow hhigh
      · obtain ⟨front', hne', rfl, hclose'⟩ := trailingSurrogate_closes hthen
        refine ⟨0x75 :: (front ++ front'), by simp, by simp, fun more => ?_⟩
        change (hexEscape (front ++ front' ++ more) >>= _) = _
        rw [List.append_assoc, hclose]
        exact (if_neg hlow).trans ((if_pos hhigh).trans (hclose' more))
      · rw [Except.ok.injEq, Prod.mk.injEq] at hthen
        obtain ⟨rfl, rfl⟩ := hthen
        refine ⟨0x75 :: front, by simp, by simp, fun more => ?_⟩
        change (hexEscape (front ++ more) >>= _) = _
        rw [hclose]
        exact (if_neg hlow).trans (if_neg hhigh)
    · -- one letter stands for one byte
      have hone (r : Bytes) : escape (b :: r) = ((escape [b]).map Prod.fst).map (·, r) := by
        simp only [escape, hu, if_false]
        split_ifs <;> rfl
      rw [hone] at h
      cases hletter : (escape [b]).map Prod.fst with
      | error e => rw [hletter] at h; cases h
      | ok out =>
        rw [hletter] at h
        cases h
        refine closes_cons (fun r => ?_) _
        rw [hone, hletter]
        rfl

/-! ## Fuel for each byte -/

/-- `f` reads something of `bs` up to `rest`, whatever stands there, with no more fuel than a unit for each byte -/
def ClosesWith {β : Type} (f : ℕ → Bytes → Except Error β) (out : Bytes → β) (bs rest : Bytes) : Prop :=
  ∃ front, front ≠ [] ∧ bs = front ++ rest ∧
    ∀ fuel more, front.length ≤ fuel → f fuel (front ++ more) = .ok (out more)

section

variable {β γ : Type} {f f' : ℕ → Bytes → Except Error β} {g : Bytes → Except Error γ}
variable {out : Bytes → β} {via : Bytes → γ}
variable {b : UInt8} {bs r mid rest : Bytes}

theorem ClosesWith.closes (h : ClosesWith f out bs rest) : Closes (fun bs => f (bs.length + 1) bs) out bs rest := by
  obtain ⟨front, hne, rfl, h⟩ := h
  refine ⟨front, hne, rfl, fun more => h _ more ?_⟩
  rw [List.length_append]
  omega

theorem closesWith_cons (hf : ∀ fuel r, f (fuel + 1) (b :: r) = .ok (out r)) (r : Bytes) :
    ClosesWith f out (b :: r) r := by
  refine ⟨[b], List.cons_ne_nil _ _, rfl, fun fuel more hfuel => ?_⟩
  obtain ⟨fuel, rfl⟩ := Nat.exists_eq_add_of_le' hfuel
  exact hf fuel more

theorem ClosesWith.cons (hf : ∀ fuel r, f (fuel + 1) (b :: r) = f' fuel r) (h : ClosesWith f' out r rest) :
    ClosesWith f out (b :: r) rest := by
  obtain ⟨front, -, rfl, h⟩ := h
  refine ⟨b :: front, List.cons_ne_nil _ _, rfl, fun fuel more hfuel => ?_⟩
  obtain ⟨fuel, rfl⟩ := Nat.exists_eq_add_of_le' (Nat.one_le_of_lt (Nat.lt_of_lt_of_le (Nat.succ_pos _) hfuel))
  exact (hf fuel _).trans (h fuel more (Nat.le_of_succ_le_succ hfuel))

/-- something that closes by itself is read in between -/
theorem ClosesWith.through (hg : Closes g via r mid)
    (hf : ∀ fuel r mid, g r = .ok (via mid) → f (fuel + 1) (b :: r) = f' fuel mid)
    (h : ClosesWith f' out mid rest) : ClosesWith f out (b :: r) rest := by
  obtain ⟨front, -, rfl, hg⟩ := hg
  obtain ⟨front', -, rfl, h⟩ := h
  refine ⟨b :: (front ++ front'), List.cons_ne_nil _ _, by simp, fun fuel more hfuel => ?_⟩
  rw [List.length_cons, List.length_append] at hfuel
  obtain ⟨fuel, rfl⟩ := Nat.exists_eq_add_of_le' (Nat.one_le_of_lt (Nat.lt_of_lt_of_le (Nat.succ_pos _) hfuel))
  rw [List.cons_append, List.append_assoc, hf _ _ _ (hg _)]
  exact h fuel more (by omega)

end

theorem stringBytes_closes {fuel : ℕ} {acc bs text rest : Bytes} (h : stringBytes fuel acc bs = .ok (text, rest)) :
    ClosesWith (stringBytes · acc) (text, ·) bs rest := by
  induction fuel generalizing acc bs with
  | zero => cases h
  | succ fuel ih =>
    cases bs with
    | nil => cases h
    | cons b r =>
      simp only [stringBytes] at h
      split_ifs at h with hquote hslash hcontrol
      · cases h
        exact closesWith_cons (fun fuel r => by simp [stringBytes, hquote]) rest
      · cases hescape : escape r with
        | error e => rw [hescape] at h; cases h
        | ok x =>
          obtain ⟨out, mid⟩ := x
          rw [hescape] at h
          exact (ih h).through (escape_closes hescape) fun fuel r mid hr => by simp [stringBytes, hslash, hr]
      · exact (ih h).cons fun fuel r => by simp [stringBytes, hquote, hslash, hcontrol]

theorem string_closes {bs rest : Bytes} {s : String} (h : string bs = .ok (s, rest)) : Closes string (s, ·) bs rest := by
  obtain ⟨⟨text, mid⟩, hbytes, hthen⟩ := bind_eq_ok h
  clear h
  obtain ⟨front, hne, rfl, hclose⟩ := (stringBytes_closes hbytes).closes
  dsimp only at hthen
  split at hthen
  · rename_i s' htext
    cases hthen
    refine ⟨front, hne, rfl, fun more => ?_⟩
    simp only [string, hclose more, bind, Except.bind, htext]
  · cases hthen

/-- passes over what follows a backslash -/
def skipEscape : Bytes → Except Error Bytes
  | [] => .error .eofString
  | e :: r =>
    if e = 0x75 then (hexEscape r).map Prod.snd
    else if [0x22, 0x5C, 0x2F, 0x62, 0x66, 0x6E, 0x72, 0x74].contains e then .ok r
    else .error .invalidEscape

theorem skipString_slash (fuel : ℕ) (r : Bytes) :
    skipString (fuel + 1) (0x5C :: r) = skipEscape r >>= skipString fuel := by
  cases r with
  | nil => rfl
  | cons e r =>
    have hquote : (0x5C : UInt8) ≠ 0x22 := by decide
    simp only [skipString, skipEscape, hquote, if_false, if_true]
    split_ifs
    · cases hexEscape r <;> rfl
    · rfl
    · rfl

theorem skipEscape_closes {bs rest : Bytes} (h : skipEscape bs = .ok rest) : Closes skipEscape id bs rest := by
  cases bs with
  | nil => cases h
  | cons e r =>
    simp only [skipEscape] at h
    split_ifs at h with hu hletter
    · cases hhex : hexEscape r with
      | error e => rw [hhex] at h; cases h
      | ok x =>
        obtain ⟨n, mid⟩ := x
        rw [hhex] at h
        obtain ⟨front, hne, rfl, hclose⟩ := hexEscape_closes hhex
        cases h
        exact ⟨e :: front, List.cons_ne_nil _ _, rfl, fun more => by simp [skipEscape, hu, hclose, Except.map]⟩
    · cases h
      exact closes_cons (fun r => by simp only [skipEscape, hu, hletter, if_false, if_true]; rfl) rest

theorem skipString_closes {fuel : ℕ} {bs rest : Bytes} (h : skipString fuel bs = .ok ((), rest)) :
    ClosesWith skipString ((), ·) bs rest := by
  induction fuel generalizing bs with
  | zero => cases h
  | succ fuel ih =>
    cases bs with
    | nil => cases h
    | cons b r =>
      by_cases hslash : b = 0x5C
      · subst hslash
        rw [skipString_slash] at h
        obtain ⟨mid, hescape, hthen⟩ := bind_eq_ok h
        refine (ih hthen).through (skipEscape_closes hescape) fun fuel r mid hr => ?_
        rw [skipString_slash, hr]
        rfl
      · simp only [skipString, hslash, if_false] at h
        split_ifs at h with hquote hcontrol
        · cases h
          exact closesWith_cons (fun fuel r => by simp [skipString, hquote]) rest
        · exact (ih h).cons fun fuel r => by simp [skipString, hquote, hslash, hcontrol]

end ServiceMonitor.Json
