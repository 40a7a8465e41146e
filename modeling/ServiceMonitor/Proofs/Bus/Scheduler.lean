import ServiceMonitor.Proofs.Bus.Schedule

/-!
The scheduler as one of the ways in which tasks may be run.

With enough fuel `runReady`, `settle`, `settleAll` and `advance` take steps of `GoesOn` and reach what they are there
for: nothing that can run is left, and the clock stands at its target. The tasks are those of handlers that leave the
bus alone. Each result says how far it gets, at which time, and that more fuel changes nothing.

- `runTask_goes`, `runReady_goes`: the first task, then every task, by recursion as the scheduler does it.
- `settleAll_goes`, `advance_goes`: by induction on how far the tasks are from their end.
- `Finishes.settles`: a publisher's code that is run to its end is run there by `finish`.
-/

namespace ServiceMonitor.Bus

/-- from some fuel on, a scheduler gets to a state -/
def Settles (f : ℕ → St) (s' : St) : Prop := ∃ n, ∀ fuel ≥ n, f fuel = s'

/-- one unit of fuel is used before `g` goes on -/
theorem Settles.succ {f g : ℕ → St} {s' : St} (h : Settles g s') (hf : ∀ fuel, f (fuel + 1) = g fuel) :
    Settles f s' := by
  obtain ⟨n, hn⟩ := h
  refine ⟨n + 1, fun fuel hfuel => ?_⟩
  obtain ⟨k, rfl⟩ : ∃ k, fuel = k + 1 := ⟨fuel - 1, by omega⟩
  rw [hf]
  exact hn k (by omega)

/-- what is settled first can be taken as it is -/
theorem Settles.bind {f : ℕ → St} {g : ℕ → St → St} {s1 s' : St} (h : Settles f s1)
    (h' : Settles (fun fuel => g fuel s1) s') : Settles (fun fuel => g fuel (f fuel)) s' := by
  obtain ⟨n, hn⟩ := h
  obtain ⟨m, hm⟩ := h'
  refine ⟨max n m, fun fuel hfuel => ?_⟩
  have hf : f fuel = s1 := hn fuel (le_trans (le_max_left n m) hfuel)
  simp only [hf]
  exact hm fuel (le_trans (le_max_right n m) hfuel)

theorem Settles.const (s : St) : Settles (fun _ => s) s := ⟨0, fun _ _ => rfl⟩

/-- the tasks have gone on from `s` to `s'` while the clock stood still -/
structure Within (s s' : St) : Prop where
  goes : ∃ rs, GoesOn s rs s'
  now : s'.now = s.now

theorem Within.refl (s : St) : Within s s := ⟨⟨[], .refl s⟩, rfl⟩

theorem Within.trans {s s1 s' : St} (h : Within s s1) (h' : Within s1 s') : Within s s' := by
  obtain ⟨rs, hgo⟩ := h.goes
  obtain ⟨rs', hgo'⟩ := h'.goes
  exact ⟨⟨rs ++ rs', hgo.trans hgo'⟩, h'.now.trans h.now⟩

theorem Within.sound {s s' : St} (h : Within s s') (hs : s.Sound) : s'.Sound := by
  obtain ⟨rs, hgo⟩ := h.goes
  exact hgo.sound hs

theorem Within.rank {s s' : St} (h : Within s s') (hs : s.Sound) : s'.rank ≤ s.rank := by
  obtain ⟨rs, hgo⟩ := h.goes
  exact hgo.rank hs

/-- a step and what comes behind it brings the tasks nearer to their end -/
theorem Within.of_goes {s s1 s' : St} {rs : List Record} (first : Goes s rs s1) (now : s1.now = s.now)
    (rest : Within s1 s') (hs : s.Sound) : Within s s' ∧ s'.rank < s.rank :=
  ⟨.trans ⟨⟨rs, .single first⟩, now⟩ rest, (rest.rank (goes_sound hs first)).trans_lt (goes_rank hs first)⟩

/-! ## One task -/

/-- a task that has begun its call runs until it waits, lets others run, or is through -/
theorem runTask_begun {s : St} (hs : s.Sound) {c : Code} {rest : List Code} (hready : s.ready = c :: rest)
    (hc : Begun c) :
    ∃ s', Settles (fun fuel => runTask fuel { s with ready := rest } c) s' ∧ (Within s s' ∧ s'.rank < s.rank) ∧
      s'.ready = rest := by
  induction hn : c.length using Nat.strong_induction_on generalizing s c with
  | _ n ih =>
    subst hn
    cases c with
    | nil =>
      have hend : Goes s [] { s with ready := rest } := .ends [] rest hready
      refine ⟨_, ⟨0, fun fuel _ => ?_⟩, Within.of_goes hend rfl (.refl _) hs, rfl⟩
      cases fuel <;> rfl
    | cons i code =>
      obtain ⟨log, o, hexec, ho, hlength, -⟩ := exec_begun { s with ready := rest } hc
      have hfirst : Goes s i.noted (place ({ s with ready := rest, log := log }, o)) := by
        have h := Goes.runs [] i code rest hready (inTurn_nil i)
        rwa [List.nil_append, hexec] at h
      cases o with
      | goOn code' =>
        have hless : code'.length < (i :: code).length := Nat.lt_succ_of_le hlength
        obtain ⟨s', hsettles, ⟨hwithin, -⟩, hrest⟩ := ih code'.length hless (goes_sound hs hfirst) rfl ho rfl
        refine ⟨s', hsettles.succ fun fuel => ?_, Within.of_goes hfirst rfl hwithin hs, hrest⟩
        simp only [runTask, hexec]
        rfl
      | pause due code' =>
        refine ⟨_, (Settles.const _).succ fun fuel => ?_, Within.of_goes hfirst rfl (.refl _) hs, rfl⟩
        simp only [runTask, hexec]
        rfl
      | yield code' =>
        refine ⟨_, (Settles.const _).succ fun fuel => ?_, Within.of_goes hfirst rfl (.refl _) hs, rfl⟩
        simp only [runTask, hexec]
        rfl

/-- **One task** runs until it waits, lets others run, or is through. -/
theorem runTask_goes {s : St} (hs : s.Sound) {c : Code} {rest : List Code} (hready : s.ready = c :: rest) :
    ∃ s', Settles (fun fuel => runTask fuel { s with ready := rest } c) s' ∧ (Within s s' ∧ s'.rank < s.rank) ∧
      s'.ready = rest := by
  rcases hs.ready c (by simp [hready]) with hbegun | ⟨d, rfl, hknows⟩
  · exact runTask_begun hs hready hbegun
  · have hquiet : Begun (opened s.calls d) := .acts d.1 d.2 _ (hknows.2 _ _)
    have hfirst :
        Goes s [] (place ({ s with ready := rest, calls := called s.calls d }, .goOn (opened s.calls d))) := by
      have h := Goes.runs [] _ [] rest hready (inTurn_nil (.invoke d.1 d.2))
      rwa [List.nil_append, exec_invoke] at h
    obtain ⟨s', hsettles, ⟨hwithin, -⟩, hrest⟩ := runTask_begun (goes_sound hs hfirst) rfl hquiet
    refine ⟨s', hsettles.succ fun fuel => ?_, Within.of_goes hfirst rfl hwithin hs, hrest⟩
    simp only [runTask, exec_invoke]
    rfl

/-! ## Rounds -/

theorem runReady_nil {s : St} (hready : s.ready = []) (fuel : ℕ) : runReady fuel s = s := by
  cases fuel with
  | zero => rfl
  | succ fuel => simp only [runReady, hready]

/-- every task that can run does -/
theorem runReady_goes {s : St} (hs : s.Sound) :
    ∃ s', Settles (fun fuel => runReady fuel s) s' ∧ Within s s' ∧ s'.ready = [] ∧
      (s.ready ≠ [] → s'.rank < s.rank) := by
  induction hready : s.ready generalizing s with
  | nil => exact ⟨s, ⟨0, fun fuel _ => runReady_nil hready fuel⟩, .refl s, hready, fun h => absurd rfl h⟩
  | cons c rest ih =>
    obtain ⟨s1, hfirst, ⟨hwithin, hless⟩, hrest⟩ := runTask_goes hs hready
    obtain ⟨s', hothers, hwithin', hnone, -⟩ := ih (hwithin.sound hs) hrest
    refine ⟨s', (Settles.bind hfirst hothers).succ fun fuel => ?_, hwithin.trans hwithin', hnone, fun _ => ?_⟩
    · simp only [runReady, hready]
    · exact (hwithin'.rank (hwithin.sound hs)).trans_lt hless

/-- the tasks that let others run can go on -/
theorem resume_all (s : St) : GoesOn s [] { s with ready := s.ready ++ s.yielded, yielded := [] } := by
  induction hyielded : s.yielded generalizing s with
  | nil =>
    have hsame : ({ s with ready := s.ready ++ [], yielded := [] } : St) = s := by
      rw [List.append_nil, ← hyielded]
    rw [hsame]
    exact .refl s
  | cons c rest ih =>
    have hfirst : Goes s [] { s with yielded := rest, ready := s.ready ++ [c] } := .resumes [] c rest hyielded
    have hrest := ih { s with yielded := rest, ready := s.ready ++ [c] } rfl
    simp only [List.append_assoc, List.singleton_append] at hrest
    exact .step hfirst hrest

/-- **One round.** -/
theorem settle_goes {s : St} (hs : s.Sound) :
    ∃ s', Settles (fun fuel => settle fuel s) s' ∧ Within s s' ∧ (s.ready ≠ [] → s'.rank < s.rank) := by
  obtain ⟨s1, hround, hwithin, -, hless⟩ := runReady_goes hs
  have hs1 : s1.Sound := hwithin.sound hs
  have hresume : Within s1 { s1 with ready := s1.ready ++ s1.yielded, yielded := [] } := ⟨⟨[], resume_all s1⟩, rfl⟩
  refine ⟨_, ?_, hwithin.trans hresume, fun h => (hresume.rank hs1).trans_lt (hless h)⟩
  obtain ⟨n, hn⟩ := hround
  refine ⟨n, fun fuel hfuel => ?_⟩
  simp only [settle, hn fuel hfuel]

/-- **Rounds** until every task waits for the clock. -/
theorem settleAll_goes {s : St} (hs : s.Sound) :
    ∃ s', Settles (fun fuel => settleAll fuel s) s' ∧ Within s s' := by
  induction hn : s.rank using Nat.strong_induction_on generalizing s with
  | _ n ih =>
    subst hn
    by_cases hready : s.ready = []
    · refine ⟨s, ⟨0, fun fuel _ => ?_⟩, .refl s⟩
      cases fuel with
      | zero => rfl
      | succ fuel => simp [settleAll, hready]
    · obtain ⟨s1, hround, hwithin, hless⟩ := settle_goes hs
      obtain ⟨s', hrest, hwithin'⟩ := ih s1.rank (hless hready) (hwithin.sound hs) rfl
      refine ⟨s', (Settles.bind hround hrest).succ fun fuel => ?_, hwithin.trans hwithin'⟩
      simp [settleAll, hready]

/-! ## Time -/

/-- what `advance` does when the tasks wait for the clock -/
def sleepUntil (target fuel : ℕ) (s : St) : St :=
  match s.nextDue with
  | some t => if t < target then advance fuel target (s.wake t) else settle fuel (s.wake target)
  | none => settle fuel (s.wake target)

theorem advance_succ (fuel target : ℕ) (s : St) :
    advance (fuel + 1) target s = sleepUntil target fuel (if s.now < target then settleAll fuel s else s) := rfl

/-- **The clock goes on to a time**, and whatever is due before is done when it is due. -/
theorem advance_goes {s : St} (hs : s.Sound) {target : ℕ} (hnow : s.now ≤ target) :
    ∃ s' rs, Settles (fun fuel => advance fuel target s) s' ∧ GoesOn s rs s' ∧ s'.now = target := by
  induction hn : s.rank using Nat.strong_induction_on generalizing s with
  | _ n ih =>
    subst hn
    have hrounds : ∃ s1, Settles (fun fuel => if s.now < target then settleAll fuel s else s) s1 ∧ Within s s1 := by
      by_cases hlate : s.now < target
      · obtain ⟨s1, hsettles, hwithin⟩ := settleAll_goes hs
        exact ⟨s1, by simpa only [if_pos hlate] using hsettles, hwithin⟩
      · exact ⟨s, by simpa only [if_neg hlate] using Settles.const s, .refl s⟩
    obtain ⟨s1, hrounds, hwithin⟩ := hrounds
    have hs1 : s1.Sound := hwithin.sound hs
    have hnow1 : s1.now ≤ target := hwithin.now.trans_le hnow
    obtain ⟨rs, hgo⟩ := hwithin.goes
    have hlast : ∃ s' rs', Settles (fun fuel => settle fuel (s1.wake target)) s' ∧ GoesOn s rs' s' ∧
        s'.now = target := by
      obtain ⟨s', hsettles, hrest, -⟩ := settle_goes (wake_sound hs1 target)
      obtain ⟨rs', hgo'⟩ := hrest.goes
      exact ⟨s', rs ++ rs', hsettles, hgo.trans (.wake target hnow1 hgo'), hrest.now⟩
    cases hdue : s1.nextDue with
    | none =>
      obtain ⟨s', rs', hsettles, hgo', hat⟩ := hlast
      refine ⟨s', rs', (Settles.bind hrounds ?_).succ fun fuel => advance_succ fuel target s, hgo', hat⟩
      simpa only [sleepUntil, hdue] using hsettles
    | some t =>
      by_cases ht : t < target
      · obtain ⟨p, hp, rfl⟩ := List.mem_map.1 (List.min?_mem hdue)
        have hlater : s1.now ≤ p.1 := (hs1.sleeping p hp).2.le
        have hless : (s1.wake p.1).rank < s.rank :=
          ((wake_rank hs1 p.1).2 ⟨p, hp, le_rfl⟩).trans_le (hwithin.rank hs)
        obtain ⟨s', rs', hsettles, hgo', hat⟩ := ih _ hless (wake_sound hs1 p.1) ht.le rfl
        refine ⟨s', rs ++ rs', (Settles.bind hrounds ?_).succ fun fuel => advance_succ fuel target s,
          hgo.trans (.wake p.1 hlater hgo'), hat⟩
        simpa only [sleepUntil, hdue, if_pos ht] using hsettles
      · obtain ⟨s', rs', hsettles, hgo', hat⟩ := hlast
        refine ⟨s', rs', (Settles.bind hrounds ?_).succ fun fuel => advance_succ fuel target s, hgo', hat⟩
        simpa only [sleepUntil, hdue, if_neg ht] using hsettles

/-! ## A publisher -/

/-- **A publisher's code** that is run to its end is run there by `finish`. -/
theorem Finishes.settles {s s' : St} {c : Code} {rs : List Record} (h : Finishes s c rs s') :
    Settles (fun fuel => Bus.finish fuel s c) s' := by
  induction h with
  | done s =>
    refine ⟨0, fun fuel _ => ?_⟩
    cases fuel <;> rfl
  | next _ ih => exact ih.succ fun fuel => rfl

end ServiceMonitor.Bus
