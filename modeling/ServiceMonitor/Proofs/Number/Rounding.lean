import Mathlib.Tactic
import ServiceMonitor.Number.Double

/-!
How far a rounded ratio is from the ratio.

A ratio is counted in units of the smallest subnormal, and rounded to the multiples of a power of two of them that its size
allows (`grain`): 53 bits are kept. So it is off by half of the last bit, and not at all if it is a double.

- `nearest_near`, `nearest_exact`: the two facts for any ratio.
- `ofNat_exact`, `ofNat_below`, `ofNat_end`: natural numbers of 53 and of 64 bits.
-/

namespace ServiceMonitor.Double

/-! ## Quotients to natural numbers -/

theorem roundHalfEven_le (num den : ℕ) : roundHalfEven num den ≤ num / den + 1 := by
  unfold roundHalfEven
  dsimp only
  split_ifs <;> omega

/-- a quotient is rounded to a natural number that is off by half at most -/
theorem roundHalfEven_near {den : ℕ} (hden : 0 < den) (num : ℕ) :
    2 * (roundHalfEven num den * den) ≤ 2 * num + den ∧ 2 * num ≤ 2 * (roundHalfEven num den * den) + den := by
  have hdiv : num / den * den + num % den = num := Nat.div_add_mod' num den
  have hmod : num % den < den := Nat.mod_lt num hden
  have hup : (num / den + 1) * den = num / den * den + den := Nat.succ_mul _ _
  unfold roundHalfEven
  dsimp only
  split_ifs with hlow hhigh
  · omega
  · rw [hup]; omega
  · -- halfway between two neighbours either of them is near enough
    rcases Nat.mod_two_eq_zero_or_one (num / den) with h | h
    · rw [h, Nat.add_zero]; omega
    · rw [h, hup]; omega

/-- what is nearer than half to a natural number is rounded to it -/
theorem roundHalfEven_eq {num den k : ℕ} (hlow : 2 * (k * den) < 2 * num + den) (hhigh : 2 * num < 2 * (k * den) + den) :
    roundHalfEven num den = k := by
  have hden : 0 < den := by omega
  obtain ⟨hle, hge⟩ := roundHalfEven_near hden num
  have hless : roundHalfEven num den * den < (k + 1) * den := by rw [Nat.succ_mul]; omega
  have hmore : k * den < (roundHalfEven num den + 1) * den := by rw [Nat.succ_mul]; omega
  have h₁ := Nat.lt_of_mul_lt_mul_right hless
  have h₂ := Nat.lt_of_mul_lt_mul_right hmore
  omega

theorem roundHalfEven_mul {den : ℕ} (hden : 0 < den) (k : ℕ) : roundHalfEven (k * den) den = k :=
  roundHalfEven_eq (by omega) (by omega)

theorem roundHalfEven_scale {c : ℕ} (hc : 0 < c) (a b : ℕ) : roundHalfEven (a * c) (b * c) = roundHalfEven a b := by
  have hlow : 2 * (a % b * c) < b * c ↔ 2 * (a % b) < b := by
    rw [← Nat.mul_assoc]
    exact Nat.mul_lt_mul_right hc
  have hhigh : b * c < 2 * (a % b * c) ↔ b < 2 * (a % b) := by
    rw [← Nat.mul_assoc]
    exact Nat.mul_lt_mul_right hc
  unfold roundHalfEven
  simp only [Nat.mul_div_mul_right _ _ hc, Nat.mul_mod_mul_right, hlow, hhigh]

/-- rounding keeps the order -/
theorem roundHalfEven_mono {a b den : ℕ} (hden : 0 < den) (h : a ≤ b) : roundHalfEven a den ≤ roundHalfEven b den := by
  rcases h.eq_or_lt with rfl | hlt
  · exact le_rfl
  · obtain ⟨hle, -⟩ := roundHalfEven_near hden a
    obtain ⟨-, hge⟩ := roundHalfEven_near hden b
    have hless : roundHalfEven a den * den < (roundHalfEven b den + 1) * den := by rw [Nat.succ_mul]; omega
    exact Nat.le_of_lt_succ (Nat.lt_of_mul_lt_mul_right hless)

/-! ## Ratios to doubles -/

/-- the exponent to whose multiples a number of so many units is rounded -/
def grain (q : ℕ) : ℕ := q.log2 - 52

theorem grain_eq {q k : ℕ} (h : 2 ^ (k + 52) ≤ q) (h' : q < 2 ^ (k + 53)) : grain q = k := by
  have hpos : 0 < q := (Nat.two_pow_pos _).trans_le h
  have hlog : q.log2 = k + 52 := (Nat.log2_eq_iff hpos.ne').2 ⟨h, h'⟩
  rw [grain, hlog, Nat.add_sub_cancel]

theorem grain_le {q k : ℕ} (h : q < 2 ^ (k + 53)) : grain q ≤ k := by
  unfold grain
  rcases Nat.eq_zero_or_pos q with rfl | hq
  · simp
  · have hlog : q.log2 < k + 53 := (Nat.log2_lt hq.ne').2 h
    omega

theorem lt_grain (q : ℕ) : q < 2 ^ (grain q + 53) := by
  calc q < 2 ^ (q.log2 + 1) := Nat.lt_log2_self
    _ ≤ 2 ^ (grain q + 53) := Nat.pow_le_pow_right Nat.two_pos (by unfold grain; omega)

/-- the double nearest to a ratio, with any weight of the unit -/
def nearest (weight : ℕ) (neg : Bool) (num den : ℕ) : Double :=
  let scaled := num * weight
  let e := (scaled / den).log2 - 52
  let m := roundHalfEven scaled (den * Nat.pow 2 e)
  let (m, e) := if m = Nat.pow 2 53 then (Nat.pow 2 52, e + 1) else (m, e)
  if 2045 < e then .inf neg else .fin neg m e

-- the weight is too long a number to be unfolded
theorem ofRatio_eq (neg : Bool) (num den : ℕ) : ofRatio neg num den = nearest unit neg num den := rfl

section

variable (weight : ℕ) (neg : Bool) {num den : ℕ}

/-- a ratio far from the largest double is rounded to the multiples of its grain -/
theorem nearest_eq (hk : grain (num * weight / den) ≤ 2000) :
    ∃ m e, nearest weight neg num den = .fin neg m e ∧ m < 2 ^ 53 ∧ e ≤ grain (num * weight / den) + 1 ∧
      units m e = roundHalfEven (num * weight) (den * 2 ^ grain (num * weight / den)) *
        2 ^ grain (num * weight / den) := by
  have hgrain := lt_grain (num * weight / den)
  have hle := roundHalfEven_le (num * weight) (den * 2 ^ grain (num * weight / den))
  unfold nearest
  extract_lets scaled e m
  have hm : m ≤ 2 ^ 53 := by
    have hquot : scaled / den / 2 ^ e < 2 ^ 53 := by
      rw [Nat.div_lt_iff_lt_mul (Nat.two_pow_pos e), ← pow_add, Nat.add_comm]
      exact hgrain
    rw [← Nat.div_div_eq_div_mul] at hle
    change m ≤ scaled / den / 2 ^ e + 1 at hle
    omega
  have he : e ≤ 2000 := hk
  by_cases hcarry : m = Nat.pow 2 53
  · rw [if_pos hcarry]
    refine ⟨Nat.pow 2 52, e + 1, if_neg (by omega), by decide, le_rfl, ?_⟩
    change Nat.pow 2 52 * Nat.pow 2 (e + 1) = m * Nat.pow 2 e
    rw [hcarry, Nat.pow_eq, Nat.pow_eq, Nat.pow_eq, Nat.pow_eq]
    ring
  · rw [if_neg hcarry]
    exact ⟨m, e, if_neg (by omega), lt_of_le_of_ne hm hcarry, Nat.le_succ e, rfl⟩

/-- **A ratio** below `2 ^ (k + 53)` units is off by half of `2 ^ k` units at most. -/
theorem nearest_near (hden : 0 < den) {k : ℕ} (hsmall : num * weight / den < 2 ^ (k + 53)) (hk : k ≤ 2000) :
    ∃ m e, nearest weight neg num den = .fin neg m e ∧ m < 2 ^ 53 ∧ e ≤ k + 1 ∧
      2 * (units m e * den) ≤ 2 * (num * weight) + den * 2 ^ k ∧
      2 * (num * weight) ≤ 2 * (units m e * den) + den * 2 ^ k := by
  have hle := grain_le hsmall
  obtain ⟨m, e, hfin, hm, he, hunits⟩ := nearest_eq weight neg (hle.trans hk)
  obtain ⟨hlow, hhigh⟩ := roundHalfEven_near
    (Nat.mul_pos hden (Nat.two_pow_pos (grain (num * weight / den)))) (num * weight)
  have hgrain : den * 2 ^ grain (num * weight / den) ≤ den * 2 ^ k :=
    Nat.mul_le_mul_left den (Nat.pow_le_pow_right Nat.two_pos hle)
  rw [Nat.mul_left_comm _ den, ← hunits, Nat.mul_comm den (units m e)] at hlow hhigh
  exact ⟨m, e, hfin, hm, by omega, hlow.trans (by omega), hhigh.trans (by omega)⟩

/-- **A ratio that is a double** is rounded to itself. -/
theorem nearest_exact (hden : 0 < den) {n f : ℕ} (heq : num * weight = units n f * den) (hn : n < 2 ^ 53)
    (hf : f ≤ 2000) : ∃ m e, nearest weight neg num den = .fin neg m e ∧ units m e = units n f := by
  have hquot : num * weight / den = units n f := by rw [heq, Nat.mul_div_cancel _ hden]
  have hle : grain (units n f) ≤ f := grain_le <| by
    rw [units, Nat.pow_eq, pow_add, Nat.mul_comm]
    exact Nat.mul_lt_mul_of_pos_left hn (Nat.two_pow_pos f)
  obtain ⟨m, e, hfin, -, -, hunits⟩ := nearest_eq weight neg (hquot ▸ hle.trans hf)
  refine ⟨m, e, hfin, ?_⟩
  rw [hunits, hquot, heq]
  generalize grain (units n f) = g at hle
  -- the grain divides the double
  obtain ⟨k, hk⟩ : 2 ^ g ∣ units n f := (Nat.pow_dvd_pow 2 hle).trans (Dvd.intro_left n rfl)
  rw [hk, Nat.mul_comm (2 ^ g) k, Nat.mul_assoc, Nat.mul_comm (2 ^ g) den,
    roundHalfEven_mul (Nat.mul_pos hden (Nat.two_pow_pos g))]

end

/-! ## The weight -/

/-- the weight of the unit, by the bits that a significand has; no proof has to compute it -/
theorem unit_split : ∃ t, unit = 2 ^ (t + 53) ∧ t ≤ 1021 := by
  have hsplit : 1074 = 1021 + 53 := rfl
  unfold unit
  rw [hsplit]
  generalize 1021 = t
  exact ⟨t, Nat.pow_eq, le_rfl⟩

theorem unit_pos : 0 < unit := by
  obtain ⟨t, ht, -⟩ := unit_split
  rw [ht]
  exact Nat.two_pow_pos _

/-- what is worth `x` units, and less than `2 ^ k`, is off by half of the last bit of such a number -/
theorem nearest_units {num den x t k : ℕ} (hx : num * unit = x * den) (hden : 0 < den) (ht : unit = 2 ^ (t + 53))
    (hle : t ≤ 1021) (hk : k ≤ 65) (h : x < 2 ^ k * unit) :
    ∃ m e, nearest unit false num den = .fin false m e ∧ m < 2 ^ 53 ∧ e ≤ 2000 ∧
      2 * units m e ≤ 2 * x + 2 ^ k * 2 ^ t ∧ 2 * x ≤ 2 * units m e + 2 ^ k * 2 ^ t := by
  have hquot : num * unit / den < 2 ^ (t + k + 53) := by
    rw [hx, Nat.mul_div_cancel _ hden]
    calc x < 2 ^ k * unit := h
      _ = 2 ^ (t + k + 53) := by rw [ht]; ring
  obtain ⟨m, e, hfin, hm, he, hlow, hhigh⟩ := nearest_near unit false hden hquot (by omega)
  rw [hx, pow_add] at hlow hhigh
  refine ⟨m, e, hfin, hm, by omega, ?_, ?_⟩
  · refine Nat.le_of_mul_le_mul_right (c := den) ?_ hden
    linarith
  · refine Nat.le_of_mul_le_mul_right (c := den) ?_ hden
    linarith

/-- what is worth 2^64 or more is not rounded to less -/
theorem nearest_end {x : ℕ} (h : 2 ^ 64 * unit ≤ x) (h' : x < 2 ^ 65 * unit) :
    ∃ m e, nearest unit false x unit = .fin false m e ∧ 2 ^ 64 * unit ≤ units m e := by
  obtain ⟨t, ht, hle⟩ := unit_split
  have hgrain : grain (x * unit / unit) = t + 65 := by
    rw [Nat.mul_div_cancel _ unit_pos]
    refine grain_eq ?_ ?_
    · calc 2 ^ (t + 65 + 52) = 2 ^ 64 * unit := by rw [ht]; ring
        _ ≤ x := h
    · calc x < 2 ^ 65 * unit := h'
        _ = 2 ^ (t + 65 + 53) := by rw [ht]; ring
  obtain ⟨m, e, hfin, -, -, hunits⟩ := nearest_eq unit false (hgrain.trans_le (by omega))
  refine ⟨m, e, hfin, ?_⟩
  rw [hunits, hgrain]
  have hden : 0 < unit * 2 ^ (t + 65) := Nat.mul_pos unit_pos (Nat.two_pow_pos _)
  have hend : 2 ^ 64 * unit = 2 ^ 52 * 2 ^ (t + 65) := by rw [ht]; ring
  have hround : roundHalfEven (2 ^ 52 * (unit * 2 ^ (t + 65))) (unit * 2 ^ (t + 65)) ≤
      roundHalfEven (x * unit) (unit * 2 ^ (t + 65)) := by
    refine roundHalfEven_mono hden ?_
    calc 2 ^ 52 * (unit * 2 ^ (t + 65)) = 2 ^ 64 * unit * unit := by rw [hend]; ring
      _ ≤ x * unit := Nat.mul_le_mul_right _ h
  rw [roundHalfEven_mul hden] at hround
  rw [hend]
  exact Nat.mul_le_mul_right _ hround

/-! ## Natural numbers -/

/-- a number of 53 bits is a double -/
theorem ofNat_exact {n : ℕ} (h : n < 2 ^ 53) : ∃ m e, ofNat n = .fin false m e ∧ units m e = n * unit := by
  obtain ⟨t, ht, hle⟩ := unit_split
  have heq : n * unit = units n (t + 53) * 1 := by rw [Nat.mul_one, units, Nat.pow_eq, ← ht]
  obtain ⟨m, e, hfin, hunits⟩ := nearest_exact unit false Nat.one_pos heq h (by omega)
  refine ⟨m, e, ?_, by rw [hunits, heq, Nat.mul_one]⟩
  rw [ofNat, ofRatio_eq]
  exact hfin

/-- a number of 64 bits is off by 1024 at most -/
theorem ofNat_near {n k : ℕ} (h : n < 2 ^ k) (hk : k ≤ 64) :
    ∃ m e, ofNat n = .fin false m e ∧ 2 ^ 53 * (2 * units m e) ≤ 2 ^ 53 * (2 * (n * unit)) + 2 ^ k * unit := by
  obtain ⟨t, ht, hle⟩ := unit_split
  have hbit : unit = 2 ^ 53 * 2 ^ t := by rw [ht]; ring
  have hsmall : n * unit < 2 ^ k * unit := Nat.mul_lt_mul_of_pos_right h unit_pos
  obtain ⟨m, e, hfin, -, -, hdown, -⟩ :=
    nearest_units (Nat.mul_one _).symm Nat.one_pos ht hle (hk.trans (by norm_num)) hsmall
  refine ⟨m, e, ?_, ?_⟩
  · rw [ofNat, ofRatio_eq]
    exact hfin
  · calc 2 ^ 53 * (2 * units m e) ≤ 2 ^ 53 * (2 * (n * unit) + 2 ^ k * 2 ^ t) := Nat.mul_le_mul_left _ hdown
      _ = 2 ^ 53 * (2 * (n * unit)) + 2 ^ k * (2 ^ 53 * 2 ^ t) := by ring
      _ = 2 ^ 53 * (2 * (n * unit)) + 2 ^ k * unit := by rw [← hbit]

/-- a number of 64 bits is rounded to its first 53 -/
theorem ofNat_high {n : ℕ} (h : 2 ^ 63 ≤ n) (h' : n < 2 ^ 64) :
    ∃ m e, ofNat n = .fin false m e ∧ units m e = roundHalfEven n (2 ^ 11) * (2 ^ 11 * unit) := by
  obtain ⟨t, ht, hle⟩ := unit_split
  have hgrain : grain (n * unit / 1) = t + 64 := by
    rw [Nat.div_one]
    refine grain_eq ?_ ?_
    · calc 2 ^ (t + 64 + 52) = 2 ^ 63 * unit := by rw [ht]; ring
        _ ≤ n * unit := Nat.mul_le_mul_right _ h
    · calc n * unit < 2 ^ 64 * unit := Nat.mul_lt_mul_of_pos_right h' unit_pos
        _ = 2 ^ (t + 64 + 53) := by rw [ht]; ring
  have hunit : 2 ^ (t + 64) = 2 ^ 11 * unit := by rw [ht]; ring
  obtain ⟨m, e, hfin, -, -, hunits⟩ := nearest_eq unit false (hgrain.trans_le (by omega))
  refine ⟨m, e, ?_, ?_⟩
  · rw [ofNat, ofRatio_eq]
    exact hfin
  · rw [hunits, hgrain, hunit, Nat.one_mul, roundHalfEven_scale unit_pos]

/-- a number of 64 bits that is not near their end is rounded to one that has another double behind it -/
theorem ofNat_below {n : ℕ} (h : n + 1024 < 2 ^ 64) :
    ∃ m e, ofNat n = .fin false m e ∧ units m e ≤ (2 ^ 64 - 2 ^ 11) * unit := by
  rcases Nat.lt_or_ge n (2 ^ 63) with hlow | hhigh
  · obtain ⟨m, e, hfin, hdown⟩ := ofNat_near hlow (by norm_num)
    have hsmall : (n + 1) * unit ≤ 2 ^ 63 * unit := Nat.mul_le_mul_right _ hlow
    rw [Nat.succ_mul] at hsmall
    exact ⟨m, e, hfin, by omega⟩
  · obtain ⟨m, e, hfin, hunits⟩ := ofNat_high hhigh (by omega)
    refine ⟨m, e, hfin, ?_⟩
    obtain ⟨hdown, -⟩ := roundHalfEven_near (show 0 < 2 ^ 11 by norm_num) n
    rw [hunits, ← Nat.mul_assoc]
    exact Nat.mul_le_mul_right unit (by omega)

/-- a number of 64 bits near their end is rounded to the first that has more -/
theorem ofNat_end {n : ℕ} (h : 2 ^ 64 ≤ n + 1024) (h' : n < 2 ^ 64) :
    ∃ m e, ofNat n = .fin false m e ∧ units m e = 2 ^ 64 * unit := by
  obtain ⟨m, e, hfin, hunits⟩ := ofNat_high (by omega) h'
  have hround : roundHalfEven n (2 ^ 11) = 2 ^ 53 := by
    unfold roundHalfEven
    dsimp only
    split_ifs <;> omega
  refine ⟨m, e, hfin, ?_⟩
  rw [hunits, hround]
  ring

/-! ## Signs and order -/

/-- what is not below zero has no sign but that of zero -/
theorem sign_of_not_lt {s : Bool} {m e : ℕ} (h : ¬lt (.fin s m e) .zero = true) : 0 ≤ signedUnits s m e := by
  have hzero : signedUnits false 0 0 = 0 := by simp [signedUnits, units]
  rw [zero, lt, decide_eq_true_eq, hzero] at h
  exact not_lt.1 h

theorem unsigned {s : Bool} {m e : ℕ} (h : 0 ≤ signedUnits s m e) : (s && m != 0) = false := by
  cases s with
  | false => rfl
  | true =>
    have hzero : units m e = 0 := by
      simp only [signedUnits, if_true] at h
      omega
    have hm : m = 0 := (Nat.mul_eq_zero.1 hzero).resolve_right (Nat.two_pow_pos e).ne'
    simp [hm]

/-- what is not above a double counts no more -/
theorem units_of_not_lt {s : Bool} {m e n f : ℕ} (hsign : 0 ≤ signedUnits s m e)
    (h : ¬lt (.fin false n f) (.fin s m e) = true) : units m e ≤ units n f := by
  rw [lt, decide_eq_true_eq, not_lt] at h
  unfold signedUnits at h hsign
  cases s <;> simp only [Bool.false_eq_true, if_false, if_true] at h hsign <;> omega

end ServiceMonitor.Double
