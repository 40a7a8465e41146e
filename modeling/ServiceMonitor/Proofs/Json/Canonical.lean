import ServiceMonitor.Proofs.Json.Written

/-!
The canonical form of a value.

Sorting puts members in strict order of their names (`sortMembers_sorted`) and loses none when no name comes twice
(`sortMembers_perm`), and members in strict order are determined by what they are (`sorted_ext`). So sorting once is
enough (`canonical_canonical`), a member put in its place may as well have been there before (`sortMembers_cons`), and a
member is found under its name as before (`member?_canonical`).
-/

namespace ServiceMonitor.Json

/-! ## Members in order -/

/-- members in strict order of their names -/
def Sorted (ms : List (String × Json)) : Prop := ms.Pairwise fun m m' => m.1 < m'.1

/-- no name comes twice -/
def Distinct (ms : List (String × Json)) : Prop := (ms.map (·.1)).Nodup

theorem Sorted.distinct {ms : List (String × Json)} (h : Sorted ms) : Distinct ms := by
  refine List.pairwise_map.2 (h.imp ?_)
  intro m m' hlt heq
  rw [heq] at hlt
  exact String.lt_irrefl _ hlt

theorem Distinct.perm {ms ms' : List (String × Json)} (h : Distinct ms) (hperm : ms.Perm ms') : Distinct ms' :=
  (hperm.map Prod.fst).nodup_iff.1 h

theorem sorted_ext {ms ms' : List (String × Json)} (h : Sorted ms) (h' : Sorted ms') (hperm : ms.Perm ms') : ms = ms' :=
  hperm.eq_of_pairwise (fun _ _ _ _ hlt hgt => absurd hgt (String.lt_asymm hlt)) h h'

theorem mem_insertMember {k : String} {v : Json} {ms : List (String × Json)} {m : String × Json}
    (h : m ∈ insertMember k v ms) : m = (k, v) ∨ m ∈ ms := by
  induction ms with
  | nil => exact .inl (List.mem_singleton.1 h)
  | cons m' ms ih =>
    rw [insertMember] at h
    split_ifs at h with heq hlt
    · exact (List.mem_cons.1 h).imp_right (List.mem_cons_of_mem _)
    · exact List.mem_cons.1 h
    · rcases List.mem_cons.1 h with rfl | h
      · exact .inr List.mem_cons_self
      · exact (ih h).imp_right (List.mem_cons_of_mem _)

theorem insertMember_sorted {ms : List (String × Json)} (h : Sorted ms) (k : String) (v : Json) :
    Sorted (insertMember k v ms) := by
  induction ms with
  | nil => exact List.pairwise_singleton _ _
  | cons m ms ih =>
    obtain ⟨hbefore, hms⟩ := List.pairwise_cons.1 h
    rw [insertMember]
    split_ifs with heq hlt
    · exact List.pairwise_cons.2 ⟨fun m' hm' => heq ▸ hbefore m' hm', hms⟩
    · refine List.pairwise_cons.2 ⟨fun m' hm' => ?_, h⟩
      rcases List.mem_cons.1 hm' with rfl | hm'
      · exact hlt
      · exact String.lt_trans hlt (hbefore m' hm')
    · have hgt : m.1 < k := by
        by_contra hngt
        exact heq (String.le_antisymm (String.not_lt.1 hngt) (String.not_lt.1 hlt))
      refine List.pairwise_cons.2 ⟨fun m' hm' => ?_, ih hms⟩
      rcases mem_insertMember hm' with rfl | hm'
      · exact hgt
      · exact hbefore m' hm'

theorem insertMember_perm {k : String} {ms : List (String × Json)} (h : k ∉ ms.map (·.1)) (v : Json) :
    (insertMember k v ms).Perm ((k, v) :: ms) := by
  induction ms with
  | nil => exact .refl _
  | cons m ms ih =>
    rw [List.map_cons, List.mem_cons, not_or] at h
    rw [insertMember, if_neg h.1]
    split_ifs
    · exact .refl _
    · exact ((ih h.2).cons m).trans (.swap _ _ _)

/-! ## Sorting -/

theorem sortMembers_sorted (ms : List (String × Json)) : Sorted (sortMembers ms) := by
  have hfold : ∀ acc, Sorted acc → Sorted (ms.foldl (fun acc m => insertMember m.1 m.2 acc) acc) := by
    induction ms with
    | nil => exact fun _ h => h
    | cons m ms ih => exact fun acc h => ih _ (insertMember_sorted h m.1 m.2)
  exact hfold [] .nil

theorem sortMembers_perm {ms : List (String × Json)} (h : Distinct ms) : (sortMembers ms).Perm ms := by
  have hfold : ∀ acc, Distinct (acc ++ ms) →
      (ms.foldl (fun acc m => insertMember m.1 m.2 acc) acc).Perm (acc ++ ms) := by
    clear h
    induction ms with
    | nil => exact fun acc _ => by rw [List.append_nil]; exact .refl _
    | cons m ms ih =>
      intro acc h
      have hmiddle : Distinct (m :: (acc ++ ms)) := h.perm List.perm_middle
      have hfresh : m.1 ∉ acc.map (·.1) := fun hmem =>
        (List.nodup_cons.1 hmiddle).1 (by rw [List.map_append]; exact List.mem_append_left _ hmem)
      have hperm : (insertMember m.1 m.2 acc ++ ms).Perm (m :: (acc ++ ms)) :=
        (insertMember_perm hfresh m.2).append_right ms
      exact (ih _ (hmiddle.perm hperm.symm)).trans (hperm.trans List.perm_middle.symm)
  exact hfold [] h

theorem sortMembers_of_sorted {ms : List (String × Json)} (h : Sorted ms) : sortMembers ms = ms :=
  sorted_ext (sortMembers_sorted ms) h (sortMembers_perm h.distinct)

/-- the first member may be put in its place after the others -/
theorem sortMembers_cons {m : String × Json} {ms : List (String × Json)} (h : Distinct (m :: ms)) :
    sortMembers (m :: ms) = insertMember m.1 m.2 (sortMembers ms) := by
  obtain ⟨hfresh, hms⟩ := List.nodup_cons.1 h
  have hperm := sortMembers_perm hms
  have hfresh' : m.1 ∉ (sortMembers ms).map (·.1) := fun hmem => hfresh ((hperm.map _).mem_iff.1 hmem)
  exact sorted_ext (sortMembers_sorted _) (insertMember_sorted (sortMembers_sorted ms) _ _)
    ((sortMembers_perm h).trans ((hperm.cons m).symm.trans (insertMember_perm hfresh' m.2).symm))

theorem mem_sortMembers {ms : List (String × Json)} {m : String × Json} (h : m ∈ sortMembers ms) : m ∈ ms := by
  have hfold : ∀ acc, m ∈ ms.foldl (fun acc m => insertMember m.1 m.2 acc) acc → m ∈ acc ∨ m ∈ ms := by
    clear h
    induction ms with
    | nil => exact fun _ h => .inl h
    | cons m' ms ih =>
      intro acc h
      rcases ih _ h with h | h
      · rcases mem_insertMember h with rfl | h
        · exact .inr List.mem_cons_self
        · exact .inl h
      · exact .inr (List.mem_cons_of_mem _ h)
  exact (hfold [] h).resolve_left List.not_mem_nil

/-! ## Values -/

theorem canonicalMembers_eq_map (ms : List (String × Json)) :
    canonicalMembers ms = ms.map fun m => (m.1, canonical m.2) := by
  induction ms with
  | nil => rfl
  | cons m ms ih => rw [canonicalMembers, ih, List.map_cons]

theorem canonicalMembers_strings {ms : List (String × Json)} (h : ∀ m ∈ ms, ∃ s, m.2 = .str s) :
    canonicalMembers ms = ms := by
  have hself : ∀ m ∈ ms, (m.1, canonical m.2) = m := fun m hm => by
    obtain ⟨s, hs⟩ := h m hm
    exact Prod.ext rfl (hs ▸ rfl)
  rw [canonicalMembers_eq_map, List.map_congr_left hself, List.map_id']

theorem names_canonicalMembers (ms : List (String × Json)) : (canonicalMembers ms).map (·.1) = ms.map (·.1) := by
  rw [canonicalMembers_eq_map, List.map_map]
  rfl

theorem canonicalMembers_insertMember (k : String) (v : Json) (ms : List (String × Json)) :
    canonicalMembers (insertMember k v ms) = insertMember k (canonical v) (canonicalMembers ms) := by
  induction ms with
  | nil => rfl
  | cons m ms ih =>
    rw [canonicalMembers, insertMember, insertMember]
    split_ifs
    · rw [canonicalMembers]
    · rw [canonicalMembers, canonicalMembers]
    · rw [canonicalMembers, ih]

theorem canonicalMembers_sortMembers (ms : List (String × Json)) :
    canonicalMembers (sortMembers ms) = sortMembers (canonicalMembers ms) := by
  have hfold : ∀ acc, canonicalMembers (ms.foldl (fun acc m => insertMember m.1 m.2 acc) acc) =
      (canonicalMembers ms).foldl (fun acc m => insertMember m.1 m.2 acc) (canonicalMembers acc) := by
    induction ms with
    | nil => exact fun _ => rfl
    | cons m ms ih =>
      intro acc
      rw [List.foldl_cons, ih, canonicalMembers_insertMember, canonicalMembers, List.foldl_cons]
  exact hfold []

mutual

/-- **The canonical form is its own canonical form.** -/
theorem canonical_canonical : ∀ v, canonical (canonical v) = canonical v
  | .null => rfl
  | .bool _ => rfl
  | .num _ => rfl
  | .str _ => rfl
  | .arr items => by rw [canonical, canonical, canonicalItems_canonicalItems items]
  | .obj ms => by
    rw [canonical, canonical, canonicalMembers_sortMembers, canonicalMembers_canonicalMembers ms,
      sortMembers_of_sorted (sortMembers_sorted _)]

theorem canonicalItems_canonicalItems : ∀ vs, canonicalItems (canonicalItems vs) = canonicalItems vs
  | [] => rfl
  | v :: vs => by rw [canonicalItems, canonicalItems, canonical_canonical v, canonicalItems_canonicalItems vs]

theorem canonicalMembers_canonicalMembers : ∀ ms, canonicalMembers (canonicalMembers ms) = canonicalMembers ms
  | [] => rfl
  | (k, v) :: ms => by
    rw [canonicalMembers, canonicalMembers, canonical_canonical v, canonicalMembers_canonicalMembers ms]

end

theorem Textual.canonical {d : ℕ} {v : Json} (h : Textual d v) : Textual d (canonical v) := by
  induction h with
  | str d s => exact .str d s
  | obj _ ih =>
    refine .obj fun m hm => ?_
    have hm := mem_sortMembers hm
    rw [canonicalMembers_eq_map, List.mem_map] at hm
    obtain ⟨m', hm', rfl⟩ := hm
    exact ih m' hm'

/-! ## Looking up a member -/

theorem member?_cons (k : String) (m : String × Json) (ms : List (String × Json)) :
    member? k (.obj (m :: ms)) = if m.1 = k then some m.2 else member? k (.obj ms) := by
  by_cases h : m.1 = k <;> simp [member?, h]

/-- a member of distinct names is found under its name -/
theorem member?_eq_some {k : String} {v : Json} {ms : List (String × Json)} (h : Distinct ms) :
    member? k (.obj ms) = some v ↔ (k, v) ∈ ms := by
  induction ms with
  | nil => simp [member?]
  | cons m ms ih =>
    obtain ⟨hfresh, hms⟩ := List.nodup_cons.1 h
    rw [member?_cons, List.mem_cons]
    split_ifs with hk
    · have hnone : (k, v) ∉ ms := fun hmem => hfresh (List.mem_map.2 ⟨(k, v), hmem, hk.symm⟩)
      rw [Option.some.injEq, or_iff_left hnone, ← hk, Prod.ext_iff]
      exact ⟨fun heq => ⟨rfl, heq.symm⟩, fun heq => heq.2.symm⟩
    · have hne : (k, v) ≠ m := fun heq => hk (heq ▸ rfl)
      rw [ih hms, or_iff_right hne]

theorem member?_canonical {k : String} {v : Json} {ms : List (String × Json)} (h : Distinct ms) (hv : (k, v) ∈ ms) :
    member? k (canonical (.obj ms)) = some (canonical v) := by
  have hdistinct : Distinct (canonicalMembers ms) := by rwa [Distinct, names_canonicalMembers]
  have hmem : (k, canonical v) ∈ canonicalMembers ms := by
    rw [canonicalMembers_eq_map]
    exact List.mem_map_of_mem (f := fun m => (m.1, canonical m.2)) hv
  rw [canonical, member?_eq_some (sortMembers_sorted _).distinct]
  exact (sortMembers_perm hdistinct).mem_iff.2 hmem

end ServiceMonitor.Json
