import ServiceMonitor.Proofs.Text.Utf8

/-!
What becomes of bytes that are read as text and written again.

`mend` keeps what is well-formed and writes U+FFFD for each malformed stretch. A byte below 0x80 ends whatever the reader is
inside of, and stays what it is; everything else is mended to bytes from 0x80 on. So the bytes below 0x80 are the same before
and after, and in the same order.

A reader inside a character has taken bytes that show in what it has gathered (`State.taken`), and every byte that it lets
through leads to a character (`State.Sound`). `Fed` says what one byte does to both (`feed_fed`), and all else follows.

- `mend_wellFormed`: well-formed bytes stay as they are.
- `mend_append`: a byte below 0x80 separates what stands on both sides.
- `mend_cons_high`, `takeWhile_mend`, `dropWhile_mend`: other bytes stay other bytes.
-/

namespace ServiceMonitor.Utf8

/-! ## Inside a character -/

/-- the bytes that a reader inside a character has taken -/
def State.taken : State → List UInt8
  | .start => []
  | .inside 1 acc _ _ =>
    if acc < 0x20 then [(0xC0 + acc).toUInt8]
    else if acc < 0x400 then [(0xE0 + acc / 0x40).toUInt8, (0x80 + acc % 0x40).toUInt8]
    else [(0xF0 + acc / 0x1000).toUInt8, (0x80 + acc / 0x40 % 0x40).toUInt8, (0x80 + acc % 0x40).toUInt8]
  | .inside 2 acc _ _ =>
    if acc < 0x10 then [(0xE0 + acc).toUInt8] else [(0xF0 + acc / 0x40).toUInt8, (0x80 + acc % 0x40).toUInt8]
  | .inside _ acc _ _ => [(0xF0 + acc).toUInt8]

/-- the bytes let through lead to a character that is written with as many bytes -/
inductive State.Sound : State → Prop where
  | start : Sound .start
  | one {acc lo hi : ℕ} (low : 0x80 ≤ lo) (high : hi ≤ 0xBF) (least : 0x80 ≤ acc * 0x40 + (lo - 0x80))
    (valid : acc * 0x40 + (hi - 0x80) < 0xD800 ∨ 0xDFFF < acc * 0x40 + (lo - 0x80))
    (most : acc * 0x40 + (hi - 0x80) < 0x110000) : Sound (.inside 1 acc lo hi)
  | two {acc lo hi : ℕ} (low : 0x80 ≤ lo) (high : hi ≤ 0xBF) (least : 0x20 ≤ acc * 0x40 + (lo - 0x80))
    (valid : acc * 0x40 + (hi - 0x80) < 0x360 ∨ 0x37F < acc * 0x40 + (lo - 0x80))
    (most : acc * 0x40 + (hi - 0x80) < 0x4400) : Sound (.inside 2 acc lo hi)
  | three {acc lo hi : ℕ} (low : 0x80 ≤ lo) (high : hi ≤ 0xBF) (least : 0x10 ≤ acc * 0x40 + (lo - 0x80))
    (most : acc * 0x40 + (hi - 0x80) < 0x110) : Sound (.inside 3 acc lo hi)

/-- a byte from 0x80 on: none of its own character -/
def IsHigh (b : UInt8) : Prop := 0x80 ≤ b.toNat

theorem State.Sound.tail {need acc lo hi : ℕ} (h : Sound (.inside need acc lo hi)) : 0x80 ≤ lo ∧ hi ≤ 0xBF := by
  cases h with
  | one hlow hhigh => exact ⟨hlow, hhigh⟩
  | two hlow hhigh => exact ⟨hlow, hhigh⟩
  | three hlow hhigh => exact ⟨hlow, hhigh⟩

theorem toUInt8_toNat (b : UInt8) : b.toNat.toUInt8 = b := by simp

theorem byte_eq {n : ℕ} {b : UInt8} (h : n = b.toNat) : n.toUInt8 = b := by rw [h, toUInt8_toNat]

theorem toNat_ofNat {n : ℕ} (h : n < 0xD800 ∨ 0xDFFF < n ∧ n < 0x110000) : (Char.ofNat n).toNat = n := by
  have hvalid : n.isValidChar := h
  rw [Char.ofNat, dif_pos hvalid]
  rfl

/-! ## One byte further -/

section

variable {acc lo hi : ℕ} {b : UInt8}

/-- the first byte of a character is taken -/
theorem taken_first_two (hacc : acc < 0x20) (hb : 0xC0 + acc = b.toNat) : (State.inside 1 acc lo hi).taken = [b] := by
  simp only [State.taken, if_pos hacc, byte_eq hb]

theorem taken_first_three (hacc : acc < 0x10) (hb : 0xE0 + acc = b.toNat) : (State.inside 2 acc lo hi).taken = [b] := by
  simp only [State.taken, if_pos hacc, byte_eq hb]

theorem taken_first_four (hb : 0xF0 + acc = b.toNat) : (State.inside 3 acc lo hi).taken = [b] := by
  simp only [State.taken, byte_eq hb]

variable (hlow : 0x80 ≤ lo) (hhigh : hi ≤ 0xBF) (hin : lo ≤ b.toNat ∧ b.toNat ≤ hi)

include hlow hhigh hin

/-- what is gathered keeps what was there before, and the byte that came last -/
theorem gathered (acc : ℕ) : (acc * 0x40 + (b.toNat - 0x80)) / 0x40 = acc ∧
    (0x80 + (acc * 0x40 + (b.toNat - 0x80)) % 0x40).toUInt8 = b :=
  ⟨by omega, byte_eq (by omega)⟩

/-- one of three further bytes -/
theorem taken_three (hleast : 0x10 ≤ acc * 0x40 + (lo - 0x80)) :
    (State.inside 2 (acc * 0x40 + (b.toNat - 0x80)) 0x80 0xBF).taken = (State.inside 3 acc lo hi).taken ++ [b] := by
  obtain ⟨hacc, hlast⟩ := gathered hlow hhigh hin acc
  have hfour : ¬acc * 0x40 + (b.toNat - 0x80) < 0x10 := by omega
  simp only [State.taken, if_neg hfour, hlast, hacc]
  rfl

/-- one of two further bytes; whether there were three shows in what is gathered -/
theorem taken_two (hleast : 0x20 ≤ acc * 0x40 + (lo - 0x80)) :
    (State.inside 1 (acc * 0x40 + (b.toNat - 0x80)) 0x80 0xBF).taken = (State.inside 2 acc lo hi).taken ++ [b] := by
  obtain ⟨hacc, hlast⟩ := gathered hlow hhigh hin acc
  have hthree : ¬acc * 0x40 + (b.toNat - 0x80) < 0x20 := by omega
  have hfour : acc * 0x40 + (b.toNat - 0x80) < 0x400 ↔ acc < 0x10 := by omega
  have hbefore : (acc * 0x40 + (b.toNat - 0x80)) / 0x1000 = acc / 0x40 := by omega
  simp only [State.taken, if_neg hthree, hfour, hlast, hacc, hbefore]
  split_ifs <;> rfl

/-- the last byte -/
theorem taken_one (hleast : 0x80 ≤ acc * 0x40 + (lo - 0x80)) {c : Char} (hc : c.toNat = acc * 0x40 + (b.toNat - 0x80)) :
    encodeChar c = (State.inside 1 acc lo hi).taken ++ [b] := by
  obtain ⟨hacc, hlast⟩ := gathered hlow hhigh hin acc
  have htwo : ¬acc * 0x40 + (b.toNat - 0x80) < 0x80 := by omega
  have hthree : acc * 0x40 + (b.toNat - 0x80) < 0x800 ↔ acc < 0x20 := by omega
  have hfour : acc * 0x40 + (b.toNat - 0x80) < 0x10000 ↔ acc < 0x400 := by omega
  have hbefore : (acc * 0x40 + (b.toNat - 0x80)) / 0x1000 = acc / 0x40 := by omega
  have hfirst : (acc * 0x40 + (b.toNat - 0x80)) / 0x40000 = acc / 0x1000 := by omega
  simp only [encodeChar, hc, State.taken, if_neg htwo, hthree, hfour, hlast, hacc, hbefore, hfirst]
  split_ifs <;> rfl

end

/-- what one byte does: it completes a character, or is taken, or shows that something is malformed -/
inductive Fed (s : State) (b : UInt8) : State × List (Option Char) → Prop where
  | completes {c : Char} (written : encodeChar c = s.taken ++ [b]) : Fed s b (.start, [some c])
  | goesOn {s' : State} (sound : s'.Sound) (taken : s'.taken = s.taken ++ [b]) (high : IsHigh b) : Fed s b (s', [])
  | bad (fresh : s = .start) (high : IsHigh b) : Fed s b (.start, [none])
  | breaks (inside : s ≠ .start) : Fed s b ((enter b).1, none :: (enter b).2)

/-- the ranges of a first byte leave room for characters of their length only -/
theorem fed_start (b : UInt8) : Fed .start b (enter b) := by
  unfold enter
  dsimp only
  split_ifs with h0 h1 h2 h3 h4 h5 h6 h7 h8
  · have hc : (Char.ofNat b.toNat).toNat = b.toNat := toNat_ofNat (by omega)
    exact .completes (by rw [encodeChar_ascii (by omega), hc, toUInt8_toNat]; rfl)
  all_goals
    have hb : IsHigh b := Nat.le_of_not_lt h0
  · exact .bad rfl hb
  · exact .goesOn (.one le_rfl le_rfl (by omega) (by omega) (by omega)) (taken_first_two (by omega) (by omega)) hb
  · exact .goesOn (.two (by decide) le_rfl (by decide) (by decide) (by decide))
      (taken_first_three (by omega) (by omega)) hb
  · exact .goesOn (.two le_rfl (by decide) (by decide) (by decide) (by decide))
      (taken_first_three (by omega) (by omega)) hb
  · exact .goesOn (.two le_rfl le_rfl (by omega) (by omega) (by omega)) (taken_first_three (by omega) (by omega)) hb
  · exact .goesOn (.three (by decide) le_rfl (by decide) (by decide)) (taken_first_four (by omega)) hb
  · exact .goesOn (.three le_rfl le_rfl (by omega) (by omega)) (taken_first_four (by omega)) hb
  · exact .goesOn (.three le_rfl (by decide) (by decide) (by decide)) (taken_first_four (by omega)) hb
  · exact .bad rfl hb

/-- **One byte further**, from any sound state. -/
theorem feed_fed {s : State} (hs : s.Sound) (b : UInt8) : Fed s b (feed s b) := by
  cases hs with
  | start => exact fed_start b
  | @one acc lo hi hlow hhigh hleast hvalid hmost =>
    rw [feed]
    split_ifs with hin hlast
    · exact .completes (taken_one hlow hhigh hin hleast (toNat_ofNat (by omega)))
    · omega
    · exact .breaks (by simp)
  | @two acc lo hi hlow hhigh hleast hvalid hmost =>
    rw [feed]
    split_ifs with hin hlast
    · omega
    · exact .goesOn (.one le_rfl le_rfl (by omega) (by omega) (by omega)) (taken_two hlow hhigh hin hleast)
        (hlow.trans hin.1)
    · exact .breaks (by simp)
  | @three acc lo hi hlow hhigh hleast hmost =>
    rw [feed]
    split_ifs with hin hlast
    · omega
    · exact .goesOn (.two le_rfl le_rfl (by omega) (by omega) (by omega)) (taken_three hlow hhigh hin hleast)
        (hlow.trans hin.1)
    · exact .breaks (by simp)

/-! ## Reading -/

theorem read_cons (s : State) (b : UInt8) (bs : List UInt8) : read s (b :: bs) = (feed s b).2 ++ read (feed s b).1 bs := by
  cases s <;> rfl

theorem encodeChar_ne_nil (c : Char) : encodeChar c ≠ [] := by
  simp only [encodeChar]
  split_ifs <;> exact List.cons_ne_nil _ _

/-- the first byte of a character does not continue another -/
theorem encodeChar_head (c : Char) : ∃ b r, encodeChar c = b :: r ∧ (b.toNat < 0x80 ∨ 0xBF < b.toNat) := by
  have hvalid := toNat_cases c
  simp only [encodeChar]
  split_ifs with h1 h2 h3
  · exact ⟨_, _, rfl, .inl (by rw [toNat_toUInt8 (by omega)]; exact h1)⟩
  · exact ⟨_, _, rfl, .inr (by rw [toNat_toUInt8 (by omega)]; omega)⟩
  · exact ⟨_, _, rfl, .inr (by rw [toNat_toUInt8 (by omega)]; omega)⟩
  · exact ⟨_, _, rfl, .inr (by rw [toNat_toUInt8 (by omega)]; omega)⟩

/-- a character from U+0080 on is written with bytes from 0x80 on -/
theorem high_encodeChar {c : Char} (h : 0x80 ≤ c.toNat) : ∀ b ∈ encodeChar c, IsHigh b := by
  have hvalid := toNat_cases c
  intro b hb
  simp only [encodeChar] at hb
  split_ifs at hb with h1 h2 h3
  · omega
  all_goals
    simp only [List.mem_cons, List.not_mem_nil, or_false] at hb
    unfold IsHigh
    rcases hb with rfl | rfl | rfl | rfl <;> rw [toNat_toUInt8 (by omega)] <;> omega

theorem Fed.sound {s : State} {b : UInt8} {x : State × List (Option Char)} (h : Fed s b x)
    (hanew : s ≠ .start → (enter b).1.Sound) : x.1.Sound := by
  cases h with
  | completes => exact .start
  | goesOn hsound => exact hsound
  | bad => exact .start
  | breaks hinside => exact hanew hinside

theorem feed_sound {s : State} (hs : s.Sound) (b : UInt8) : (feed s b).1.Sound :=
  (feed_fed hs b).sound fun _ => (fed_start b).sound fun h => absurd rfl h

/-- a byte below 0x80 ends what the reader is inside of -/
theorem read_low {s : State} (hs : s.Sound) {b : UInt8} (hb : b.toNat < 0x80) (bs : List UInt8) :
    read s (b :: bs) = read s [] ++ some (Char.ofNat b.toNat) :: read .start bs := by
  have henter : enter b = (.start, [some (Char.ofNat b.toNat)]) := by simp [enter, hb]
  cases s with
  | start => rw [read_cons, feed, henter]; rfl
  | inside need acc lo hi =>
    have hlow := hs.tail.1
    rw [read_cons, feed, if_neg (by omega), henter]
    rfl

/-- what stands in front of a byte below 0x80 is read as if nothing stood behind -/
theorem read_append {s : State} (hs : s.Sound) (front : List UInt8) {b : UInt8} (hb : b.toNat < 0x80) (bs : List UInt8) :
    read s (front ++ b :: bs) = read s front ++ some (Char.ofNat b.toNat) :: read .start bs := by
  induction front generalizing s with
  | nil => exact read_low hs hb bs
  | cons c front ih => rw [List.cons_append, read_cons, ih (feed_sound hs c), read_cons, List.append_assoc]

/-! ## Writing what was read -/

/-- characters and malformed stretches as bytes, U+FFFD for each of the latter -/
def rewritten (out : List (Option Char)) : List UInt8 := encode (out.map (·.getD '\uFFFD'))

/-- the bytes of the text that any bytes are read as, from a given state on -/
def mendFrom (s : State) (bs : List UInt8) : List UInt8 := rewritten (read s bs)

/-- the bytes of the text that any bytes are read as -/
def mend (bs : List UInt8) : List UInt8 := encode (decodeLossy bs)

theorem mendFrom_start (bs : List UInt8) : mendFrom .start bs = mend bs := rfl

theorem rewritten_append (out out' : List (Option Char)) : rewritten (out ++ out') = rewritten out ++ rewritten out' := by
  rw [rewritten, List.map_append, encode_append, rewritten, rewritten]

theorem rewritten_some (c : Char) (out : List (Option Char)) : rewritten (some c :: out) = encodeChar c ++ rewritten out :=
  encode_cons _ _

theorem rewritten_none (out : List (Option Char)) : rewritten (none :: out) = encodeChar '\uFFFD' ++ rewritten out :=
  encode_cons _ _

theorem rewritten_nil : rewritten [] = [] := rfl

/-- U+FFFD is written with bytes from 0x80 on -/
theorem high_replacement : ∀ b ∈ encodeChar '\uFFFD', IsHigh b := high_encodeChar (by decide)

theorem mendFrom_cons (s : State) (b : UInt8) (bs : List UInt8) :
    mendFrom s (b :: bs) = rewritten (feed s b).2 ++ mendFrom (feed s b).1 bs := by
  rw [mendFrom, read_cons, rewritten_append, mendFrom]

theorem mendFrom_append {s : State} (hs : s.Sound) (front : List UInt8) {b : UInt8} (hb : b.toNat < 0x80)
    (bs : List UInt8) : mendFrom s (front ++ b :: bs) = mendFrom s front ++ b :: mend bs := by
  have hc : (Char.ofNat b.toNat).toNat = b.toNat := toNat_ofNat (by omega)
  rw [mendFrom, read_append hs front hb, rewritten_append, rewritten_some, encodeChar_ascii (by omega), hc, toUInt8_toNat]
  rfl

/-- **Well-formed bytes** are those of the text that is read. -/
theorem mendFrom_wellFormed {s : State} (hs : s.Sound) {bs : List UInt8} (hbs : none ∉ read s bs) :
    mendFrom s bs = s.taken ++ bs := by
  induction bs generalizing s with
  | nil =>
    cases s with
    | start => rfl
    | inside => exact absurd (List.mem_singleton_self _) hbs
  | cons b bs ih =>
    rw [read_cons] at hbs
    rw [mendFrom_cons]
    have hstep := feed_fed hs b
    generalize feed s b = x at hstep hbs ⊢
    cases hstep with
    | completes hwritten =>
      have hrest := ih .start fun h => hbs (List.mem_cons_of_mem _ h)
      rw [hrest, rewritten_some, hwritten, rewritten_nil, State.taken]
      simp
    | goesOn hsound htaken =>
      rw [List.nil_append] at hbs
      rw [ih hsound hbs, htaken, rewritten_nil]
      simp
    | bad => exact absurd List.mem_cons_self hbs
    | breaks => exact absurd List.mem_cons_self hbs

/-! ## Bytes from 0x80 on -/

/-- a character that ends with a byte from 0x80 on is written with such bytes -/
theorem high_completed {s : State} {b : UInt8} {c : Char} (hb : IsHigh b) (hc : encodeChar c = s.taken ++ [b]) :
    ∀ x ∈ encodeChar c, IsHigh x := by
  refine high_encodeChar (Nat.le_of_not_lt fun hlow => ?_)
  rw [encodeChar_ascii hlow] at hc
  have hlast : c.toNat.toUInt8 = b := by
    have := congrArg List.getLast? hc
    simpa using this
  have hnat : b.toNat = c.toNat := by rw [← hlast, toNat_toUInt8 (by omega)]
  unfold IsHigh at hb
  omega

theorem Fed.high {s : State} {b : UInt8} {x : State × List (Option Char)} (h : Fed s b x) (hb : IsHigh b)
    (hanew : s ≠ .start → ∀ y ∈ rewritten (enter b).2, IsHigh y) : ∀ y ∈ rewritten x.2, IsHigh y := by
  cases h with
  | completes hwritten =>
    rw [rewritten_some, rewritten_nil, List.append_nil]
    exact high_completed hb hwritten
  | goesOn => exact fun _ h => absurd h List.not_mem_nil
  | bad =>
    rw [rewritten_none, rewritten_nil, List.append_nil]
    exact high_replacement
  | breaks hinside =>
    rw [rewritten_none]
    exact List.forall_mem_append.2 ⟨high_replacement, hanew hinside⟩

/-- bytes from 0x80 on are read as such -/
theorem high_feed {s : State} (hs : s.Sound) {b : UInt8} (hb : IsHigh b) : ∀ x ∈ rewritten (feed s b).2, IsHigh x :=
  (feed_fed hs b).high hb fun _ => (fed_start b).high hb fun h => absurd rfl h

/-- what is broken off -/
theorem high_mendFrom_nil (s : State) : ∀ x ∈ mendFrom s [], IsHigh x := by
  cases s with
  | start => exact fun _ h => absurd h List.not_mem_nil
  | inside =>
    rw [mendFrom, read, rewritten_none, rewritten_nil, List.append_nil]
    exact high_replacement

theorem head_of_high {bs more : List UInt8} (hne : bs ≠ []) (hbs : ∀ b ∈ bs, IsHigh b) :
    ∃ b r, bs ++ more = b :: r ∧ IsHigh b := by
  obtain ⟨b, r, rfl⟩ := List.exists_cons_of_ne_nil hne
  exact ⟨b, r ++ more, rfl, hbs b List.mem_cons_self⟩

/-- inside a character, or before a byte from 0x80 on, such a byte is written next -/
theorem mendFrom_head {s : State} (hs : s.Sound) {bs : List UInt8} (h : s ≠ .start ∨ ∃ b r, bs = b :: r ∧ IsHigh b) :
    ∃ b r, mendFrom s bs = b :: r ∧ IsHigh b := by
  induction bs generalizing s with
  | nil =>
    cases s with
    | start => simp at h
    | inside =>
      rw [mendFrom, read, rewritten_none]
      exact head_of_high (encodeChar_ne_nil _) high_replacement
  | cons b bs ih =>
    by_cases hb : IsHigh b
    · rw [mendFrom_cons]
      by_cases hout : rewritten (feed s b).2 = []
      · -- nothing is written yet, so the byte was taken
        rw [hout, List.nil_append]
        refine ih (feed_sound hs b) (.inl ?_)
        have hstep := feed_fed hs b
        generalize feed s b = x at hstep hout ⊢
        cases hstep with
        | completes => exact absurd (List.append_eq_nil_iff.1 hout).1 (encodeChar_ne_nil _)
        | goesOn hsound htaken =>
          rintro rfl
          simp [State.taken] at htaken
        | bad => exact absurd (List.append_eq_nil_iff.1 hout).1 (encodeChar_ne_nil _)
        | breaks => exact absurd (List.append_eq_nil_iff.1 hout).1 (encodeChar_ne_nil _)
      · exact head_of_high hout (high_feed hs hb)
    · have hinside : s ≠ .start := h.resolve_right (by rintro ⟨b', r, heq, hb'⟩; cases heq; exact hb hb')
      rw [mendFrom, read_low hs (Nat.lt_of_not_le hb), rewritten_append]
      cases s with
      | start => exact absurd rfl hinside
      | inside =>
        rw [read, rewritten_none, rewritten_nil, List.append_nil]
        exact head_of_high (encodeChar_ne_nil _) high_replacement

/-! ## Mended bytes -/

/-- a byte below 0x80 stays -/
theorem mend_cons {b : UInt8} (hb : b.toNat < 0x80) (bs : List UInt8) : mend (b :: bs) = b :: mend bs :=
  mendFrom_append .start [] hb bs

/-- any other byte stays such a byte -/
theorem mend_cons_high {b : UInt8} (hb : IsHigh b) (bs : List UInt8) : ∃ c r, mend (b :: bs) = c :: r ∧ IsHigh c :=
  mendFrom_head .start (.inr ⟨b, bs, rfl, hb⟩)

/-- **A byte below 0x80** separates what stands on both sides. -/
theorem mend_append (front : List UInt8) {b : UInt8} (hb : b.toNat < 0x80) (bs : List UInt8) :
    mend (front ++ b :: bs) = mend front ++ b :: mend bs :=
  mendFrom_append .start front hb bs

theorem mend_low {front : List UInt8} (h : ∀ b ∈ front, b.toNat < 0x80) (bs : List UInt8) :
    mend (front ++ bs) = front ++ mend bs := by
  induction front with
  | nil => rfl
  | cons b front ih =>
    obtain ⟨hb, hfront⟩ := List.forall_mem_cons.1 h
    rw [List.cons_append, mend_cons hb, ih hfront, List.cons_append]

theorem mend_wellFormed {bs : List UInt8} (h : none ∉ read .start bs) : mend bs = bs := mendFrom_wellFormed .start h

section

variable {p : UInt8 → Bool} (hp : ∀ b, p b = true → b.toNat < 0x80)

include hp

theorem not_of_high {b : UInt8} (hb : IsHigh b) : ¬p b = true := fun h => absurd (hp b h) (Nat.not_lt.2 hb)

/-- bytes of a kind below 0x80 stay in front of those of another kind -/
theorem dropWhile_mend (bs : List UInt8) : (mend bs).dropWhile p = mend (bs.dropWhile p) := by
  induction bs with
  | nil => rfl
  | cons b bs ih =>
    by_cases hb : IsHigh b
    · obtain ⟨c, r, hmend, hc⟩ := mend_cons_high hb bs
      rw [List.dropWhile_cons_of_neg (not_of_high hp hb), hmend, List.dropWhile_cons_of_neg (not_of_high hp hc)]
    · rw [mend_cons (Nat.lt_of_not_le hb), List.dropWhile_cons, List.dropWhile_cons]
      split_ifs
      · exact ih
      · rw [mend_cons (Nat.lt_of_not_le hb)]

theorem takeWhile_mend (bs : List UInt8) : (mend bs).takeWhile p = bs.takeWhile p := by
  induction bs with
  | nil => rfl
  | cons b bs ih =>
    by_cases hb : IsHigh b
    · obtain ⟨c, r, hmend, hc⟩ := mend_cons_high hb bs
      rw [List.takeWhile_cons_of_neg (not_of_high hp hb), hmend, List.takeWhile_cons_of_neg (not_of_high hp hc)]
    · rw [mend_cons (Nat.lt_of_not_le hb), List.takeWhile_cons, List.takeWhile_cons, ih]

end

/-- where the bytes begin with one below 0x80, the mended ones do, and nowhere else -/
theorem head?_mend {b : UInt8} (hb : b.toNat < 0x80) (bs : List UInt8) : (mend bs).head? = some b ↔ bs.head? = some b := by
  cases bs with
  | nil => rfl
  | cons c bs =>
    by_cases hc : IsHigh c
    · obtain ⟨d, r, hmend, hd⟩ := mend_cons_high hc bs
      have hne {x : UInt8} (hx : IsHigh x) : x ≠ b := fun heq => absurd (heq ▸ hx) (Nat.not_le.2 hb)
      simp [hmend, hne hc, hne hd]
    · rw [mend_cons (Nat.lt_of_not_le hc)]
      rfl

end ServiceMonitor.Utf8
