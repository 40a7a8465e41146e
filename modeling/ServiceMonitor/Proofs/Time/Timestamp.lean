import Mathlib.Tactic
import ServiceMonitor.Time.Timestamp

/-!
An instant is read as it was written.

The reader takes each part of the text off its front: the lemmas below say so for a number of fixed width, for a sign,
for the year, for the fraction and for the offset, whatever stands behind them. Together they give `parse_text` and
`parse_textWithOffset`, for every instant there is: before year 0 and behind year 9999, with any fraction, and in a leap
second.
-/

namespace ServiceMonitor.Timestamp

/-! ## Digits -/

/-- a number with at least `width` digits -/
def digits (width n : ℕ) : List Char := (Duration.padded width n).toList

theorem digits_eq (width n : ℕ) :
    digits width n = List.replicate (width - (Nat.toDigits 10 n).length) '0' ++ Nat.toDigits 10 n := by
  rw [digits, Duration.padded, String.toList_ofList]

theorem isDigit_of_mem_digits {width n : ℕ} {c : Char} (h : c ∈ digits width n) : c.isDigit = true := by
  rw [digits_eq, List.mem_append] at h
  rcases h with h | h
  · rw [List.eq_of_mem_replicate h]
    decide
  · exact Nat.isDigit_of_mem_toDigits (by decide) (by decide) h

theorem digits_ne_nil (width n : ℕ) : digits width n ≠ [] := by
  rw [digits_eq]
  exact fun h => Nat.toDigits_ne_nil (List.append_eq_nil_iff.1 h).2

theorem length_digits {width n : ℕ} (hwidth : 0 < width) (h : n < 10 ^ width) : (digits width n).length = width := by
  have hle := (Nat.length_toDigits_le_iff (b := 10) (n := n) (by decide) hwidth).2 h
  rw [digits_eq, List.length_append, List.length_replicate]
  omega

theorem digitsValue_eq (ds : List Char) : digitsValue ds = Nat.ofDigitChars 10 ds 0 := by
  simp only [digitsValue, Nat.ofDigitChars, Nat.mul_comm]
  rfl

theorem digitsValue_digits (width n : ℕ) : digitsValue (digits width n) = n := by
  have hzeros : ∀ k, Nat.ofDigitChars 10 (List.replicate k '0') 0 = 0 := by
    intro k
    induction k with
    | zero => rfl
    | succ k ih => rw [List.replicate_succ, Nat.ofDigitChars_cons]; exact ih
  rw [digitsValue_eq, digits_eq, Nat.ofDigitChars, List.foldl_append]
  exact (congrArg (fun init => Nat.ofDigitChars 10 (Nat.toDigits 10 n) init) (hzeros _)).trans
    (Nat.ofDigitChars_toDigits (by decide) (by decide))

theorem isBlank_digit {c : Char} (h : c.isDigit = true) : Text.isBlank c = false := by
  simp only [Char.isDigit, Bool.and_eq_true, decide_eq_true_eq, UInt32.le_iff_toNat_le] at h
  have hlo : 48 ≤ c.toNat := h.1
  have hhi : c.toNat ≤ 57 := h.2
  simp only [Text.isBlank, Bool.or_eq_false_iff, Bool.and_eq_false_iff, decide_eq_false_iff_not]
  omega

/-! ## Numbers and signs -/

/-- the text does not go on with a digit -/
def Ends (r : List Char) : Prop := ∀ c ∈ r.head?, c.isDigit = false

theorem takeWhile_digits {ds r : List Char} (hds : ∀ c ∈ ds, c.isDigit = true) (hr : Ends r) :
    (ds ++ r).takeWhile Char.isDigit = ds := by
  rw [List.takeWhile_append_of_pos hds]
  cases r with
  | nil => rw [List.takeWhile_nil, List.append_nil]
  | cons c r => rw [List.takeWhile_cons_of_neg (by simp [hr c rfl]), List.append_nil]

theorem ends_take {r : List Char} (h : Ends r) (k : ℕ) : Ends (r.take k) := by
  cases k with
  | zero => simp [Ends]
  | succ k =>
    cases r with
    | nil => exact h
    | cons c r => simpa [Ends] using h

/-- digits are a number if they are as many as there may be, or if no more follow -/
theorem number_digits {width w n : ℕ} {r : List Char} (hn : n < 2 ^ 63)
    (h : (digits w n).length = width ∨ (digits w n).length ≤ width ∧ Ends r) :
    number width (digits w n ++ r) = .ok (n, r) := by
  have hdigits : ∀ c ∈ digits w n, c.isDigit = true := fun c hc => isDigit_of_mem_digits hc
  have htake : ((digits w n ++ r).take width).takeWhile Char.isDigit = digits w n := by
    rcases h with hlen | ⟨hlen, hr⟩
    · rw [← hlen, List.take_left]
      simpa using takeWhile_digits (r := []) hdigits (by simp [Ends])
    · rw [List.take_append, List.take_of_length_le hlen]
      exact takeWhile_digits hdigits (ends_take hr _)
  have hne : (digits w n).isEmpty = false := by simpa using digits_ne_nil w n
  unfold number
  split
  next hnil => exact absurd (List.append_eq_nil_iff.1 hnil).1 (digits_ne_nil w n)
  next c cs hcons =>
    simp only [htake, hne, digitsValue_digits, List.drop_left, Bool.false_eq_true, if_false]
    exact if_pos hn

/-- a number of fixed width -/
theorem number_padded {w n : ℕ} (hw : 0 < w) (hw' : w ≤ 18) (hn : n < 10 ^ w) (r : List Char) :
    number w (digits w n ++ r) = .ok (n, r) := by
  have hle : 10 ^ w ≤ 10 ^ 18 := Nat.pow_le_pow_right (by decide) hw'
  exact number_digits (by omega) (.inl (length_digits hw hn))

theorem trimStart_digits (w n : ℕ) (r : List Char) : Text.trimStart (digits w n ++ r) = digits w n ++ r := by
  obtain ⟨c, cs, hcons⟩ := List.exists_cons_of_ne_nil (digits_ne_nil w n)
  have hc := isBlank_digit (isDigit_of_mem_digits (hcons ▸ List.mem_cons_self))
  rw [hcons, List.cons_append, Text.trimStart, List.dropWhile_cons_of_neg (by simp [hc])]

theorem field_padded {lo hi n : ℕ} (hlo : lo ≤ n) (hhi : n ≤ hi) (hn : n < 100) (r : List Char) :
    field lo hi (digits 2 n ++ r) = .ok (n, r) := by
  have hnumber : number 2 (digits 2 n ++ r) = .ok (n, r) := number_padded (by decide) (by decide) hn r
  simp [field, trimStart_digits, hnumber, bind, Except.bind, hlo, hhi]

theorem sign_self {c : Char} (hc : Text.isBlank c = false) (r : List Char) : sign c (c :: r) = .ok r := by
  simp [sign, Text.trimStart, hc]

/-! ## The year -/

/-- the text of a year -/
def yearDigits (y : ℤ) : List Char :=
  if y < 0 then '-' :: digits 4 y.natAbs else if 9999 < y then '+' :: digits 1 y.natAbs else digits 4 y.natAbs

theorem toList_yearText (y : ℤ) : (yearText y).toList = yearDigits y := by
  have hplain : (toString y.natAbs).toList = digits 1 y.natAbs := by
    have hpos : 1 - (Nat.toDigits 10 y.natAbs).length = 0 := by
      have := Nat.length_toDigits_pos (b := 10) (n := y.natAbs)
      omega
    rw [digits_eq, hpos, List.replicate_zero, List.nil_append, Nat.toString_eq_repr, Nat.toList_repr]
  unfold yearText yearDigits
  split_ifs
  · rw [String.toList_append]; rfl
  · rw [String.toList_append, hplain]; rfl
  · rfl

theorem yearField_text {y : ℤ} (hlo : -2147483648 ≤ y) (hhi : y ≤ 2147483647) {r : List Char} (hr : Ends r) :
    yearField (yearDigits y ++ r) = .ok (y, r) := by
  have hsigned : ∀ w, 0 < w → w ≤ 4 → number (digits w y.natAbs ++ r).length (digits w y.natAbs ++ r) =
      .ok (y.natAbs, r) := fun w _ _ =>
    number_digits (by omega) (.inr ⟨by rw [List.length_append]; exact Nat.le_add_right _ _, hr⟩)
  have hbounds : (decide (-2147483648 ≤ y) && decide (y ≤ 2147483647)) = true := by simp [hlo, hhi]
  unfold yearDigits
  split_ifs with hneg hbig
  · have hy : -(y.natAbs : ℤ) = y := by omega
    have htrim : Text.trimStart ('-' :: digits 4 y.natAbs ++ r) = '-' :: (digits 4 y.natAbs ++ r) := rfl
    simp only [yearField, htrim, hsigned 4 (by decide) (by decide), bind, Except.bind, hy, hbounds, if_true]
  · have hy : (y.natAbs : ℤ) = y := by omega
    have htrim : Text.trimStart ('+' :: digits 1 y.natAbs ++ r) = '+' :: (digits 1 y.natAbs ++ r) := rfl
    simp only [yearField, htrim, hsigned 1 (by decide) (by decide), bind, Except.bind, hy, hbounds, if_true]
  · have hy : (y.natAbs : ℤ) = y := by omega
    have hnumber : number 4 (digits 4 y.natAbs ++ r) = .ok (y.natAbs, r) :=
      number_padded (by decide) (by decide) (by omega) r
    obtain ⟨c, cs, hcons⟩ := List.exists_cons_of_ne_nil (digits_ne_nil 4 y.natAbs)
    have hc : c.isDigit = true := isDigit_of_mem_digits (hcons ▸ List.mem_cons_self)
    simp only [yearField, trimStart_digits]
    split
    next heq =>
      rw [hcons, List.cons_append, List.cons.injEq] at heq
      exact absurd hc (heq.1 ▸ by decide)
    next heq =>
      rw [hcons, List.cons_append, List.cons.injEq] at heq
      exact absurd hc (heq.1 ▸ by decide)
    next =>
      simp only [hnumber, bind, Except.bind, hy, hbounds, if_true]

/-! ## The fraction and the offset -/

/-- the text of a fraction -/
def fractionDigits (n : ℕ) : List Char :=
  if n = 0 then []
  else if n % 1000000 = 0 then '.' :: digits 3 (n / 1000000)
  else if n % 1000 = 0 then '.' :: digits 6 (n / 1000)
  else '.' :: digits 9 n

theorem toList_fractionText (n : ℕ) : (fractionText n).toList = fractionDigits n := by
  unfold fractionText fractionDigits
  split_ifs
  · rfl
  all_goals rw [String.toList_append]; rfl

/-- a fraction of `w` digits, in nanoseconds -/
theorem fractionField_digits {w n : ℕ} (hw : 0 < w) (hw' : w ≤ 9) (hn : n < 10 ^ w) {r : List Char} (hr : Ends r) :
    fractionField ('.' :: digits w n ++ r) = .ok (n * 10 ^ (9 - w), r) := by
  have hlen := length_digits hw hn
  have hle : 10 ^ w ≤ 10 ^ 9 := Nat.pow_le_pow_right (by decide) hw'
  have hnumber : number 9 (digits w n ++ r) = .ok (n, r) := number_digits (by omega) (.inr ⟨by omega, hr⟩)
  have hdrop : r.dropWhile Char.isDigit = r := by
    cases r with
    | nil => rfl
    | cons c r => exact List.dropWhile_cons_of_neg (by simp [hr c rfl])
  have hcount : (digits w n ++ r).length - r.length = w := by rw [List.length_append, hlen, Nat.add_sub_cancel_right]
  simp only [fractionField, List.cons_append, hnumber, bind, Except.bind, hdrop, hcount]
  rfl

/-- what may follow the seconds: neither a digit nor a point -/
def Offset (r : List Char) : Prop := ∀ c ∈ r.head?, c.isDigit = false ∧ c ≠ '.'

theorem fractionField_text {n : ℕ} (hn : n < nanosPerSecond) {r : List Char} (hr : Offset r) :
    fractionField (fractionDigits n ++ r) = .ok (n, r) := by
  have hends : Ends r := fun c hc => (hr c hc).1
  unfold fractionDigits
  split_ifs with h0 h3 h6
  · rw [h0, List.nil_append]
    unfold fractionField
    split
    next r' heq => exact absurd rfl (hr '.' rfl).2
    next => rfl
  · have hfit : n / 1000000 < 10 ^ 3 := by simp only [nanosPerSecond] at hn; omega
    have hvalue : n / 1000000 * 10 ^ (9 - 3) = n := by omega
    rw [fractionField_digits (by decide) (by decide) hfit hends, hvalue]
  · have hfit : n / 1000 < 10 ^ 6 := by simp only [nanosPerSecond] at hn; omega
    have hvalue : n / 1000 * 10 ^ (9 - 6) = n := by omega
    rw [fractionField_digits (by decide) (by decide) hfit hends, hvalue]
  · rw [fractionField_digits (by decide) (by decide) hn hends, Nat.sub_self, Nat.pow_zero, Nat.mul_one]

/-- a time of the zero meridian stays as it is -/
theorem toUniversal_zero {c : Civil} (hhour : c.hour < 24) (hminute : c.minute < 60) : toUniversal c 0 = c := by
  have hdiv : (((c.hour * 60 + c.minute : ℕ) : ℤ) / 60).toNat = c.hour := by omega
  have hmod : (((c.hour * 60 + c.minute : ℕ) : ℤ) % 60).toNat = c.minute := by omega
  simp only [toUniversal, sub_zero]
  rw [if_neg (by omega), if_neg (by omega), hdiv, hmod]

/-! ## The whole text -/

/-- the text of an instant with an offset behind it -/
def civilDigits (c : Civil) (offset : List Char) : List Char :=
  yearDigits c.year ++ '-' :: (digits 2 c.month ++ '-' :: (digits 2 c.day ++ 'T' :: (digits 2 c.hour ++
    ':' :: (digits 2 c.minute ++ ':' :: (digits 2 c.second ++ (fractionDigits c.nanos ++ offset))))))

theorem toList_localText (c : Civil) (offset : String) :
    (localText c ++ offset).toList = civilDigits c offset.toList := by
  have hdash : "-".toList = ['-'] := rfl
  have htime : "T".toList = ['T'] := rfl
  have hcolon : ":".toList = [':'] := rfl
  simp only [localText, String.toList_append, toList_yearText, toList_fractionText, civilDigits, digits, hdash, htime,
    hcolon, List.append_assoc, List.cons_append, List.nil_append]

/-- **An instant is read as it was written**, with any way to write that it is one of Universal Time. -/
theorem parse_localText (t : Timestamp) {offset : String} (hends : Offset offset.toList)
    (hzero : offsetField (Text.trimStart offset.toList) = .ok (0, [])) :
    parse (localText t.civil ++ offset) = .ok t := by
  have hvalid := t.valid
  simp only [Civil.isValid, Bool.and_eq_true, decide_eq_true_eq] at hvalid
  obtain ⟨⟨⟨⟨⟨⟨⟨⟨⟨hyear, hyear'⟩, hmonth⟩, hmonth'⟩, hday⟩, hday'⟩, hhour⟩, hminute⟩, hsecond⟩, hnanos⟩ := hvalid
  have hday31 : t.civil.day ≤ 31 := hday'.trans (by unfold daysInMonth; split_ifs <;> omega)
  have hthere : ofCivil? t.civil = some t := by simp [ofCivil?, t.valid]
  have hyearField : ∀ r, yearField (yearDigits t.civil.year ++ '-' :: r) = .ok (t.civil.year, '-' :: r) := fun r =>
    yearField_text (by simp only [minYear] at hyear; omega) (by simp only [maxYear] at hyear'; omega) (by simp [Ends])
  have hdash : ∀ r, sign '-' ('-' :: r) = .ok r := sign_self (by decide)
  have hcolon : ∀ r, sign ':' (':' :: r) = .ok r := sign_self (by decide)
  have hmonthField : ∀ r, field 1 12 (digits 2 t.civil.month ++ r) = .ok (t.civil.month, r) :=
    field_padded hmonth hmonth' (by omega)
  have hdayField : ∀ r, field 1 31 (digits 2 t.civil.day ++ r) = .ok (t.civil.day, r) :=
    field_padded hday hday31 (by omega)
  have hhourField : ∀ r, field 0 23 (digits 2 t.civil.hour ++ r) = .ok (t.civil.hour, r) :=
    field_padded (Nat.zero_le _) (by omega) (by omega)
  have hminuteField : ∀ r, field 0 59 (digits 2 t.civil.minute ++ r) = .ok (t.civil.minute, r) :=
    field_padded (Nat.zero_le _) (by omega) (by omega)
  have hsecondField : ∀ r, field 0 60 (digits 2 t.civil.second ++ r) = .ok (t.civil.second, r) :=
    field_padded (Nat.zero_le _) (by omega) (by omega)
  simp only [parse, toList_localText, civilDigits, bind, Except.bind, hyearField, hdash, hcolon, hmonthField, hdayField,
    hhourField, hminuteField, hsecondField, fractionField_text hnanos hends, hzero]
  simp [Text.trimStart, t.valid, toUniversal_zero hhour hminute, hthere]

theorem parse_text (t : Timestamp) : parse t.text = .ok t := parse_localText t (by simp [Offset]) rfl

theorem parse_textWithOffset (t : Timestamp) : parse t.textWithOffset = .ok t :=
  parse_localText t (by simp [Offset]) rfl

theorem text_injective : Function.Injective text := fun t u h => by
  have heq : (Except.ok t : Except Fault Timestamp) = .ok u := by rw [← parse_text t, h, parse_text]
  exact Except.ok.inj heq

end ServiceMonitor.Timestamp
