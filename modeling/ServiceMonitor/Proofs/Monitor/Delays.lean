import ServiceMonitor.Config.Settings
import ServiceMonitor.Proofs.Time.Duration

/-!
Policies whose delays are defined, and not above their limit.

A delay is limited in doubles and counted in nanoseconds. What a limit lets through is therefore not the limit but what
comes back of it from a double: the same span below 2^23 seconds, perhaps a longer one from there on, and none at all in the
last 1024 seconds before 2^64.

- `next?_cases`: a delay is the limit, or what is no more than the limit in doubles.
- `delays_usable`: under which limits every delay is defined, and under which it is not above the limit.
- `settings_hasDelays`: the delays of the program's own policy are defined.
-/

namespace ServiceMonitor

namespace Backoff

open Double

/-- a delay is the limit, or what doubles do not hold for more than the limit -/
theorem next?_cases (p : Backoff) (attempt : ℕ) {n f : ℕ} (hmax : p.max.toDouble = .fin false n f) :
    p.next? attempt = some p.max ∨ ∃ s m e, p.next? attempt = Duration.ofDouble? (.fin s m e) ∧
      0 ≤ signedUnits s m e ∧ units m e ≤ units n f := by
  unfold next?
  rw [hmax]
  generalize p.seconds attempt = secs
  dsimp only
  split_ifs with hlimited
  · exact Or.inl rfl
  · rw [Bool.or_eq_true, Bool.or_eq_true, not_or, not_or] at hlimited
    obtain ⟨⟨hfinite, hneg⟩, hless⟩ := hlimited
    cases secs with
    | nan => exact absurd rfl hfinite
    | inf s => exact absurd rfl hfinite
    | fin s m e =>
      have hsign : 0 ≤ signedUnits s m e := sign_of_not_lt hneg
      exact Or.inr ⟨s, m, e, rfl, hsign, units_of_not_lt hsign hless⟩

/-- **What a limit lets through** is the limit, or no more than what comes back of it from a double. -/
theorem next?_le (p : Backoff) (attempt : ℕ) {r : Duration} (h : Duration.ofDouble? p.max.toDouble = some r) :
    ∃ d, p.next? attempt = some d ∧ (d = p.max ∨ d.nanos ≤ r.nanos) := by
  obtain ⟨n, f, hmax, -, -⟩ := p.max.toDouble_fin
  rw [hmax] at h
  rcases p.next?_cases attempt hmax with hlimit | ⟨s, m, e, hnext, hsign, hunits⟩
  · exact ⟨p.max, hlimit, Or.inl rfl⟩
  · obtain ⟨d, hd, hle⟩ := Duration.ofDouble?_le hsign hunits h
    exact ⟨d, hnext.trans hd, Or.inr hle⟩

/-- where the first delay is the limit, all that comes back of the limit is let through -/
theorem next?_limit (max : Duration) (factor : Double) (retries : ℕ) :
    (Backoff.mk max max factor retries).next? 0 = Duration.ofDouble? max.toDouble := by
  obtain ⟨n, f, hmax, hn, hf⟩ := max.toDouble_fin
  obtain ⟨m, e, hone, hunits⟩ := ofNat_exact (n := 1) (by norm_num)
  have hden : 0 < unit * unit := Nat.mul_pos unit_pos unit_pos
  have hvalue : units n f * units m e * unit = units n f * (unit * unit) := by rw [hunits]; ring
  obtain ⟨m', e', hfin, hsame⟩ := nearest_exact unit false hden hvalue hn hf
  have hpow : factor.pow (min 0 largestExponent) = ofNat 1 := by
    rw [Nat.zero_min, pow, Nat.log2_zero, powLoop, Nat.zero_mod, Nat.zero_div, if_neg Nat.zero_ne_one, if_pos rfl]
  have hsecs : (Backoff.mk max max factor retries).seconds 0 = .fin false m' e' := by
    rw [seconds, hpow, hmax, hone, mul, bne_self_eq_false, ofRatio_eq]
    exact hfin
  have hneg : lt (.fin false m' e') .zero = false := by
    have hzero : signedUnits false 0 0 = 0 := by simp [signedUnits, units]
    rw [zero, lt, hzero, signedUnits, if_neg Bool.false_ne_true]
    exact decide_eq_false (Int.not_lt.2 (Int.natCast_nonneg _))
  have hless : lt (.fin false n f) (.fin false m' e') = false := by
    rw [lt, signedUnits, signedUnits, hsame]
    exact decide_eq_false (lt_irrefl _)
  have hnext : (Backoff.mk max max factor retries).next? 0 = Duration.ofDouble? (.fin false m' e') := by
    rw [next?, hsecs, hmax]
    dsimp only
    rw [hneg, hless, isFinite, Bool.not_true, Bool.or_false, Bool.or_false, if_neg Bool.false_ne_true]
  rw [hnext, hmax, Duration.ofDouble?, Duration.ofDouble?, hsame, Bool.false_and, Bool.false_and]

/-- **Delays are defined** under a limit that is not in the last 1024 seconds. -/
theorem next?_isSome {p : Backoff} (h : p.max.secs + 1024 < 2 ^ 64) (n : ℕ) : (p.next? n).isSome = true := by
  obtain ⟨r, hr⟩ := Option.isSome_iff_exists.1 ((Duration.ofDouble?_isSome_iff p.max).2 h)
  obtain ⟨d, hd, -⟩ := p.next?_le n hr
  exact Option.isSome_iff_exists.2 ⟨d, hd⟩

/-- **Which limits hold.** Whatever the first delay, the factor and the attempt are: delays are never above a limit exactly
if it comes back from a double no longer than it was, as every limit below 2^23 seconds does. They are defined exactly if
the limit is not in the last 1024 seconds. -/
theorem delays_usable (max : Duration) :
    ((∀ p : Backoff, p.max = max → ∀ attempt, ∃ d, p.next? attempt = some d ∧ d.nanos ≤ max.nanos) ↔
      ∃ r, Duration.ofDouble? max.toDouble = some r ∧ r.nanos ≤ max.nanos) ∧
    ((∀ p : Backoff, p.max = max → ∀ attempt, (p.next? attempt).isSome = true) ↔ max.secs + 1024 < 2 ^ 64) ∧
    (max.secs < 2 ^ 23 →
      ∀ p : Backoff, p.max = max → ∀ attempt, ∃ d, p.next? attempt = some d ∧ d.nanos ≤ max.nanos) := by
  have hfirst := next?_limit max (ofNat 1) 0
  have hholds (h : ∃ r, Duration.ofDouble? max.toDouble = some r ∧ r.nanos ≤ max.nanos) (p : Backoff)
      (hp : p.max = max) (attempt : ℕ) : ∃ d, p.next? attempt = some d ∧ d.nanos ≤ max.nanos := by
    obtain ⟨r, hr, hle⟩ := h
    subst hp
    obtain ⟨d, hd, rfl | hdr⟩ := p.next?_le attempt hr
    · exact ⟨p.max, hd, le_rfl⟩
    · exact ⟨d, hd, hdr.trans hle⟩
  refine ⟨⟨fun h => ?_, hholds⟩, ⟨fun h => ?_, fun h p hp => next?_isSome (hp ▸ h)⟩, fun h => ?_⟩
  · rw [← hfirst]
    exact h _ rfl 0
  · rw [← Duration.ofDouble?_isSome_iff, ← hfirst]
    exact h _ rfl 0
  · exact hholds ⟨max, Duration.ofDouble?_toDouble h, le_rfl⟩

/-- a nanosecond less than 2^23 seconds -/
def firmLimit : Duration := ⟨2 ^ 23 * nanosPerSecond - 1, by decide⟩

/-- the longest limit of which all shorter ones hold, with a first delay as long -/
theorem delays_usable_firm :
    firmLimit.secs < 2 ^ 23 ∧
    ∃ d, (Backoff.mk firmLimit firmLimit (ofNat 2) 5).next? 0 = some d ∧ d.nanos ≤ firmLimit.nanos :=
  ⟨by decide, (delays_usable firmLimit).2.2 (by decide) _ rfl 0⟩

/-- a nanosecond more than 2^23 seconds -/
def laxLimit : Duration := ⟨2 ^ 23 * nanosPerSecond + 1, by decide⟩

/-- a limit that is passed by a nanosecond, and one under which the first delay is none -/
theorem limit_passed :
    (∃ d, (Backoff.mk laxLimit laxLimit (ofNat 2) 5).next? 0 = some d ∧ laxLimit.nanos < d.nanos) ∧
    (Backoff.mk .longest .longest (ofNat 2) 5).next? 0 = none := by
  refine ⟨⟨⟨2 ^ 23 * nanosPerSecond + 2, by decide⟩, ?_, by decide⟩, ?_⟩
  · decide +kernel
  · decide +kernel

end Backoff

namespace Monitor

/-- the policy has a delay for every retry -/
def Policy.HasDelays (p : Policy) : Prop := ∀ n < p.backoff.maxRetries, (p.backoff.next? n).isSome = true

instance (p : Policy) : Decidable p.HasDelays :=
  inferInstanceAs (Decidable (∀ n < p.backoff.maxRetries, (p.backoff.next? n).isSome = true))

theorem Policy.HasDelays.next {p : Policy} (h : p.HasDelays) {failures : ℕ}
    (hex : ¬p.backoff.exhausted failures = true) : ∃ delay, p.backoff.next? (failures - 1) = some delay := by
  simp only [Backoff.exhausted, decide_eq_true_eq, not_le] at hex
  exact Option.isSome_iff_exists.1 (h (failures - 1) (by omega))

theorem hasDelays_of_max {p : Policy} (h : p.backoff.max.secs < 2 ^ 60) : p.HasDelays := by
  intro n _
  exact Backoff.next?_isSome (by omega) n

/-- whatever a configuration says, the monitor runs with a policy that has its delays -/
theorem settings_hasDelays (settings : Config.MonitorSettings) : settings.policy.HasDelays := by
  apply hasDelays_of_max
  change Backoff.standard.max.secs < 2 ^ 60
  decide

end Monitor

end ServiceMonitor
