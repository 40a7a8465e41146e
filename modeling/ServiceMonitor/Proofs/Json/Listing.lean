import Mathlib.Data.List.Forall2
import ServiceMonitor.Proofs.Json.Records

/-!
An array is read element by element, or not at all.

Elements that end with a sign of their own (`Enclosed`) can be looked at one by one: an array decodes exactly if it is
some texts with commas between them and each of these decodes by itself (`decode_listOf_iff`). Where the elements in
front decode and what follows is not another element, nothing is read of the array, whatever stands behind
(`listOf_spoiled`).
-/

namespace ServiceMonitor.Json

/-- nothing but blanks -/
def Blank (bs : Bytes) : Prop := ∀ b ∈ bs, isBlankByte b = true

/-- a text of one value, with blanks around it -/
def Holds {α : Type} (read : Bytes → Except Error (α × Bytes)) (text : Bytes) (v : α) : Prop :=
  ∃ rest, read text = .ok (v, rest) ∧ Blank rest

/-- these texts with commas between them, or blanks if there is none -/
def IsInside (parts : List Bytes) (inside : Bytes) : Prop :=
  parts = [] ∧ Blank inside ∨ parts ≠ [] ∧ inside = [0x2C].intercalate parts

/-- a text of an array with these texts between its brackets and its commas -/
def IsArray (parts : List Bytes) (body : Bytes) : Prop :=
  ∃ before inside behind, body = before ++ 0x5B :: (inside ++ 0x5D :: behind) ∧ Blank before ∧ Blank behind ∧
    IsInside parts inside

/-! ## Blanks -/

theorem skipBlank_eq_nil_iff {bs : Bytes} : skipBlank bs = [] ↔ Blank bs := List.dropWhile_eq_nil_iff

theorem skipBlank_append {blanks : Bytes} (h : Blank blanks) (bs : Bytes) : skipBlank (blanks ++ bs) = skipBlank bs :=
  List.dropWhile_append_of_pos h

theorem exists_blanks (bs : Bytes) : ∃ blanks, Blank blanks ∧ bs = blanks ++ skipBlank bs :=
  ⟨bs.takeWhile isBlankByte, fun _ hb => mem_takeWhile hb, List.takeWhile_append_dropWhile.symm⟩

theorem decode_eq_ok_iff {α : Type} {read : Reader α} {bs : Bytes} {v : α} :
    decode read bs = .ok v ↔ Holds (read maxDepth) bs v := by
  constructor
  · intro h
    obtain ⟨⟨v', rest⟩, hread, hthen⟩ := bind_eq_ok h
    dsimp only at hthen
    split_ifs at hthen with hempty
    cases hthen
    exact ⟨rest, hread, skipBlank_eq_nil_iff.1 (List.isEmpty_iff.1 hempty)⟩
  · rintro ⟨rest, hread, hblank⟩
    simp [decode, hread, bind, Except.bind, skipBlank_eq_nil_iff.2 hblank]

/-! ## Items without fuel -/

/-- a reader of values that end with a sign of their own, with blanks in front of them -/
structure Enclosed {α : Type} (read : Bytes → Except Error (α × Bytes)) : Prop where
  closes : ∀ {bs v rest}, read bs = .ok (v, rest) → Closes read (v, ·) bs rest
  blanks : ∀ bs, read (skipBlank bs) = read bs
  starts : ∀ {bs v rest}, read bs = .ok (v, rest) → ∃ c r, skipBlank bs = c :: r ∧ c ≠ 0x5D

theorem record_enclosed {α : Type} {fields : List (Field α)} (hfields : ∀ f ∈ fields, f.Near) (name : String)
    (blank : α) (depth : ℕ) : Enclosed (record name fields blank depth) where
  closes h := record_closes hfields h
  blanks bs := record_skipBlank _ _ _ _ bs
  starts h := by
    obtain ⟨c, r, hs, rfl | rfl⟩ := record_starts h
    · exact ⟨_, r, hs, by decide⟩
    · exact ⟨_, r, hs, by decide⟩

/-- the items up to the closing bracket, one by one -/
inductive Items {α : Type} (read : Bytes → Except Error (α × Bytes)) : Bool → Bytes → List α → Bytes → Prop
  | last {first : Bool} {bs rest : Bytes} (next : nextItem first bs = .ok (false, rest)) : Items read first bs [] rest
  | more {first : Bool} {bs mid behind rest : Bytes} {v : α} {vs : List α}
    (next : nextItem first bs = .ok (true, mid)) (item : read mid = .ok (v, behind))
    (others : Items read false behind vs rest) : Items read first bs (v :: vs) rest

section

variable {α : Type} {read : Bytes → Except Error (α × Bytes)}

/-- an item is put in front of those already there -/
def keepItem (read : Bytes → Except Error (α × Bytes)) (acc : List α) (r : Bytes) : Except Error (List α × Bytes) := do
  let (v, r) ← read r
  .ok (v :: acc, r)

theorem foldItems_iff (hread : Enclosed read) {fuel : ℕ} {first : Bool} {acc vs : List α} {bs rest : Bytes}
    (hfuel : bs.length < fuel) :
    foldItems (keepItem read) fuel first acc bs = .ok (vs, rest) ↔
      ∃ items, vs = items.reverse ++ acc ∧ Items read first bs items rest := by
  induction fuel generalizing first acc bs with
  | zero => cases hfuel
  | succ fuel ih =>
    rw [foldItems]
    constructor
    · intro h
      obtain ⟨⟨more, mid⟩, hnext, hthen⟩ := bind_eq_ok h
      have hmid := (nextItem_stops hnext).length_le
      cases more with
      | false =>
        cases hthen
        exact ⟨[], rfl, .last hnext⟩
      | true =>
        obtain ⟨⟨acc', behind⟩, hkeep, hthen⟩ := bind_eq_ok hthen
        obtain ⟨⟨v, r⟩, hitem, hkeep⟩ := bind_eq_ok hkeep
        cases hkeep
        have hlt := (hread.closes hitem).length_lt
        obtain ⟨items, rfl, hitems⟩ := (ih (by omega)).1 hthen
        exact ⟨v :: items, by simp, .more hnext hitem hitems⟩
    · rintro ⟨items, rfl, hitems⟩
      cases hitems with
      | last hnext => simp [hnext, bind, Except.bind]
      | more hnext hitem hmore =>
        have hmid := (nextItem_stops hnext).length_le
        have hlt := (hread.closes hitem).length_lt
        simp only [hnext, keepItem, hitem, bind, Except.bind, if_true]
        refine (ih (hlt.trans_le (hmid.trans (Nat.le_of_lt_succ hfuel)))).2 ⟨_, ?_, hmore⟩
        simp

/-! ## What stands between items -/

theorem nextItem_last {first : Bool} {bs rest : Bytes} :
    nextItem first bs = .ok (false, rest) ↔ skipBlank bs = rest ∧ rest.head? = some 0x5D := by
  cases hs : skipBlank bs with
  | nil =>
    simp only [nextItem, hs]
    constructor
    · rintro ⟨⟩
    · rintro ⟨rfl, ⟨⟩⟩
  | cons b r =>
    simp only [nextItem, hs]
    constructor
    · intro h
      split_ifs at h with hclose hfirst hcomma
      · cases h
        exact ⟨rfl, by rw [hclose]; rfl⟩
      · cases h
      · split at h
        · cases h
        · split_ifs at h
          cases h
    · rintro ⟨rfl, hhead⟩
      have hclose : b = 0x5D := by simpa using hhead
      rw [if_pos hclose]

theorem nextItem_first {bs mid : Bytes} :
    nextItem true bs = .ok (true, mid) ↔ skipBlank bs = mid ∧ ∃ c r, mid = c :: r ∧ c ≠ 0x5D := by
  cases hs : skipBlank bs with
  | nil =>
    simp only [nextItem, hs]
    constructor
    · rintro ⟨⟩
    · rintro ⟨rfl, c, r, ⟨⟩, -⟩
  | cons b r =>
    simp only [nextItem, hs, if_true]
    constructor
    · intro h
      split_ifs at h with hclose
      · cases h
      · cases h
        exact ⟨rfl, b, r, rfl, hclose⟩
    · rintro ⟨rfl, c, r', hcons, hne⟩
      cases hcons
      rw [if_neg hne]

theorem nextItem_more {bs mid : Bytes} :
    nextItem false bs = .ok (true, mid) ↔
      ∃ r, skipBlank bs = 0x2C :: r ∧ skipBlank r = mid ∧ ∃ c r, mid = c :: r ∧ c ≠ 0x5D := by
  cases hs : skipBlank bs with
  | nil => simp [nextItem, hs]
  | cons b r =>
    simp only [nextItem, hs, Bool.false_eq_true, if_false]
    constructor
    · intro h
      split_ifs at h with hclose hcomma
      · cases h
      · subst hcomma
        cases hs' : skipBlank r with
        | nil => simp [hs'] at h
        | cons c r' =>
          simp only [hs'] at h
          split_ifs at h with hbracket
          cases h
          exact ⟨r, rfl, hs', c, r', rfl, hbracket⟩
    · rintro ⟨r', hcons, rfl, c, r'', hmid, hne⟩
      cases hcons
      have hcomma : (0x2C : UInt8) ≠ 0x5D := by decide
      simp only [if_neg hcomma, if_true, hmid, if_neg hne]

/-- what is read in front of blanks and other things is a text of its own -/
theorem Enclosed.part (hread : Enclosed read) {r blanks others : Bytes} {v : α}
    (item : read (skipBlank r) = .ok (v, blanks ++ others)) (hblanks : Blank blanks) :
    ∃ part, r = part ++ others ∧ Holds read part v := by
  obtain ⟨lead, hlead, hr⟩ := exists_blanks r
  obtain ⟨front, -, hfront, hclose⟩ := hread.closes item
  refine ⟨lead ++ (front ++ blanks), ?_, blanks, ?_, hblanks⟩
  · rw [hfront] at hr
    simpa using hr
  · rw [← hread.blanks, skipBlank_append hlead, hread.blanks]
    exact hclose blanks

/-- a text of its own is read with other things behind it -/
theorem Enclosed.reads (hread : Enclosed read) {part : Bytes} {v : α} (h : Holds read part v) (others : Bytes) :
    ∃ blanks, Blank blanks ∧ read (part ++ others) = .ok (v, blanks ++ others) := by
  obtain ⟨rest, hpart, hblank⟩ := h
  obtain ⟨front, -, rfl, hclose⟩ := hread.closes hpart
  exact ⟨rest, hblank, by rw [List.append_assoc]; exact hclose _⟩

/-! ## Parts -/

/-- behind an item the others stand with a comma before each -/
theorem Items.parts (hread : Enclosed read) {bs rest : Bytes} {vs : List α} (h : Items read false bs vs rest) :
    ∃ blanks parts, Blank blanks ∧ bs = blanks ++ (parts.flatMap (0x2C :: ·) ++ rest) ∧
      List.Forall₂ (Holds read) parts vs := by
  generalize hfirst : false = first at h
  induction h with
  | last next =>
    subst hfirst
    obtain ⟨hskip, -⟩ := nextItem_last.1 next
    obtain ⟨blanks, hblanks, hbs⟩ := exists_blanks _
    exact ⟨blanks, [], hblanks, by rw [← hskip]; exact hbs, .nil⟩
  | @more first bs mid behind rest v vs next item others ih =>
    subst hfirst
    obtain ⟨r, hcomma, rfl, -⟩ := nextItem_more.1 next
    obtain ⟨blanks, parts, hblanks, rfl, hparts⟩ := ih rfl
    obtain ⟨part, rfl, hpart⟩ := hread.part item hblanks
    obtain ⟨lead, hlead, hbs⟩ := exists_blanks bs
    refine ⟨lead, part :: parts, hlead, ?_, .cons hpart hparts⟩
    rw [hcomma] at hbs
    simpa using hbs

theorem skipBlank_sign {blanks : Bytes} (h : Blank blanks) {b : UInt8} (hb : isBlankByte b = false) (r : Bytes) :
    skipBlank (blanks ++ b :: r) = b :: r := by
  rw [skipBlank_append h, skipBlank, List.dropWhile_cons_of_neg (by simp [hb])]

theorem Items.of_parts (hread : Enclosed read) {blanks r : Bytes} {parts : List Bytes} {vs : List α}
    (hblanks : Blank blanks) (hparts : List.Forall₂ (Holds read) parts vs) :
    Items read false (blanks ++ (parts.flatMap (0x2C :: ·) ++ 0x5D :: r)) vs (0x5D :: r) := by
  induction hparts generalizing blanks with
  | nil => exact .last (nextItem_last.2 ⟨skipBlank_sign hblanks rfl r, rfl⟩)
  | @cons part v parts vs hpart _ ih =>
    obtain ⟨behind, hbehind, hitem⟩ := hread.reads hpart (parts.flatMap (0x2C :: ·) ++ 0x5D :: r)
    obtain ⟨c, r', hstart, hne⟩ := hread.starts hitem
    refine .more (nextItem_more.2 ⟨_, ?_, rfl, c, r', hstart, hne⟩) ((hread.blanks _).trans hitem) (ih hbehind)
    rw [List.flatMap_cons, List.append_assoc, List.cons_append]
    exact skipBlank_sign hblanks rfl _

theorem intercalate_cons (part : Bytes) (parts : List Bytes) :
    [0x2C].intercalate (part :: parts) = part ++ parts.flatMap (0x2C :: ·) := by
  induction parts generalizing part with
  | nil => simp
  | cons part' parts ih => rw [List.intercalate_cons_cons, ih]; simp

/-- the items of an array are the parts between its brackets -/
theorem items_iff (hread : Enclosed read) {r rest : Bytes} {vs : List α} :
    Items read true r vs (0x5D :: rest) ↔
      ∃ parts inside, r = inside ++ 0x5D :: rest ∧ IsInside parts inside ∧ List.Forall₂ (Holds read) parts vs := by
  constructor
  · intro h
    cases h with
    | last next =>
      obtain ⟨hskip, -⟩ := nextItem_last.1 next
      obtain ⟨blanks, hblanks, hr⟩ := exists_blanks r
      exact ⟨[], blanks, hskip ▸ hr, Or.inl ⟨rfl, hblanks⟩, .nil⟩
    | more next item others =>
      obtain ⟨rfl, -⟩ := nextItem_first.1 next
      obtain ⟨blanks, parts, hblanks, rfl, hparts⟩ := others.parts hread
      obtain ⟨part, rfl, hpart⟩ := hread.part item hblanks
      refine ⟨part :: parts, _, ?_, Or.inr ⟨List.cons_ne_nil _ _, rfl⟩, .cons hpart hparts⟩
      rw [intercalate_cons, List.append_assoc]
  · rintro ⟨parts, inside, rfl, ⟨rfl, hblank⟩ | ⟨hne, rfl⟩, hparts⟩
    · cases hparts
      exact .last (nextItem_last.2 ⟨skipBlank_sign hblank rfl rest, rfl⟩)
    · cases hparts with
      | nil => exact absurd rfl hne
      | @cons part v parts vs hpart hparts =>
        obtain ⟨blanks, hblanks, hitem⟩ := hread.reads hpart (parts.flatMap (0x2C :: ·) ++ 0x5D :: rest)
        obtain ⟨c, r', hstart, hne⟩ := hread.starts hitem
        rw [intercalate_cons, List.append_assoc]
        exact .more (nextItem_first.2 ⟨rfl, c, r', hstart, hne⟩) ((hread.blanks _).trans hitem)
          (Items.of_parts hread hblanks hparts)

/-- behind an item there is a comma or the closing bracket -/
theorem Items.sign {bs rest : Bytes} {vs : List α} (h : Items read false bs vs rest) :
    (skipBlank bs).head? = some 0x2C ∨ (skipBlank bs).head? = some 0x5D := by
  cases h with
  | last next =>
    obtain ⟨hskip, hhead⟩ := nextItem_last.1 next
    exact Or.inr (hskip ▸ hhead)
  | more next =>
    obtain ⟨r, hskip, -⟩ := nextItem_more.1 next
    exact Or.inl (by rw [hskip]; rfl)

theorem Items.rest_head {first : Bool} {bs rest : Bytes} {vs : List α} (h : Items read first bs vs rest) :
    ∃ r, rest = 0x5D :: r := by
  induction h with
  | last next => exact List.head?_eq_some_iff.1 (nextItem_last.1 next).2
  | more _ _ _ ih => exact ih

/-! ## What is no element -/

/-- where an element should begin, nothing is read that an element can end with -/
def NoElement (read : Bytes → Except Error (α × Bytes)) (bs : Bytes) : Prop :=
  ∀ v r, read bs = .ok (v, r) → (skipBlank r).head? ≠ some 0x2C ∧ (skipBlank r).head? ≠ some 0x5D

theorem NoElement.not_others (hread : Enclosed read) {bad mid behind rest : Bytes} {v : α} {vs : List α}
    (hbad : NoElement read bad) (hmid : skipBlank bad = mid) (item : read mid = .ok (v, behind))
    (others : Items read false behind vs rest) : False := by
  rw [← hmid, hread.blanks] at item
  obtain ⟨hcomma, hclose⟩ := hbad v behind item
  rcases others.sign with h | h
  · exact hcomma h
  · exact hclose h

/-- however many good parts stand in front -/
theorem NoElement.not_items (hread : Enclosed read) {bad : Bytes} (hbad : NoElement read bad) {blanks rest : Bytes}
    {parts : List Bytes} {vs vs' : List α} (hblanks : Blank blanks) (hparts : List.Forall₂ (Holds read) parts vs)
    (h : Items read false (blanks ++ (parts.flatMap (0x2C :: ·) ++ 0x2C :: bad)) vs' rest) : False := by
  induction hparts generalizing blanks vs' with
  | nil =>
    have hskip : skipBlank (blanks ++ ([].flatMap (0x2C :: ·) ++ 0x2C :: bad)) = 0x2C :: bad :=
      skipBlank_sign hblanks rfl bad
    cases h with
    | last next =>
      obtain ⟨rfl, hhead⟩ := nextItem_last.1 next
      rw [hskip] at hhead
      exact absurd hhead (by simp)
    | more next item others =>
      obtain ⟨r, hcomma, hmid, -⟩ := nextItem_more.1 next
      rw [hskip, List.cons.injEq] at hcomma
      obtain ⟨-, rfl⟩ := hcomma
      exact hbad.not_others hread hmid item others
  | @cons part v parts vs hpart _ ih =>
    have hskip : skipBlank (blanks ++ ((part :: parts).flatMap (0x2C :: ·) ++ 0x2C :: bad)) =
        0x2C :: (part ++ (parts.flatMap (0x2C :: ·) ++ 0x2C :: bad)) := by
      rw [List.flatMap_cons, List.append_assoc, List.cons_append]
      exact skipBlank_sign hblanks rfl _
    cases h with
    | last next =>
      obtain ⟨rfl, hhead⟩ := nextItem_last.1 next
      rw [hskip] at hhead
      exact absurd hhead (by simp)
    | more next item others =>
      obtain ⟨r, hcomma, rfl, -⟩ := nextItem_more.1 next
      obtain ⟨behind, hbehind, hitem⟩ := hread.reads hpart (parts.flatMap (0x2C :: ·) ++ 0x2C :: bad)
      rw [hskip, List.cons.injEq] at hcomma
      obtain ⟨-, rfl⟩ := hcomma
      rw [hread.blanks, hitem] at item
      cases item
      exact ih hbehind others

end

/-! ## Arrays -/

section

variable {α : Type} {read : Reader α} {depth : ℕ}

theorem listOf_eq_ok_iff (hread : Enclosed (read (depth - 1))) (hdepth : 1 < depth) {bs rest : Bytes} {vs : List α} :
    listOf read depth bs = .ok (vs, rest) ↔
      ∃ r, skipBlank bs = 0x5B :: r ∧ Items (read (depth - 1)) true r vs (0x5D :: rest) := by
  have hf (r : Bytes) (hs : skipBlank bs = 0x5B :: r) : listOf read depth bs =
      foldItems (keepItem (read (depth - 1))) (r.length + 1) true [] r >>= fun x =>
        endArray x.2 >>= fun r => .ok (x.1.reverse, r) := by
    simp only [listOf, hs, if_true, if_neg (not_le.2 hdepth)]
    rfl
  constructor
  · intro h
    cases hs : skipBlank bs with
    | nil => simp [listOf, hs] at h
    | cons b r =>
      by_cases hb : b = 0x5B
      · subst hb
        rw [hf r hs] at h
        obtain ⟨⟨items, mid⟩, hfold, hthen⟩ := bind_eq_ok h
        obtain ⟨r', hend, hthen⟩ := bind_eq_ok hthen
        cases hthen
        obtain ⟨vs, rfl, hitems⟩ := (foldItems_iff hread (Nat.lt_succ_self _)).1 hfold
        obtain ⟨behind, rfl⟩ := hitems.rest_head
        cases hend
        refine ⟨r, rfl, ?_⟩
        simpa using hitems
      · simp [listOf, hs, hb] at h
  · rintro ⟨r, hs, hitems⟩
    rw [hf r hs, (foldItems_iff hread (Nat.lt_succ_self _)).2 ⟨vs, rfl, hitems⟩]
    have hend : endArray (0x5D :: rest) = .ok rest := endArray_eq_ok_iff.2 rfl
    simp [bind, Except.bind, hend]

/-- **An array decodes exactly if its parts do**, each by itself. -/
theorem decode_listOf_iff (hread : Enclosed (read (maxDepth - 1))) {body : Bytes} {vs : List α} :
    decode (listOf read) body = .ok vs ↔
      ∃ parts, IsArray parts body ∧ List.Forall₂ (Holds (read (maxDepth - 1))) parts vs := by
  rw [decode_eq_ok_iff, Holds]
  constructor
  · rintro ⟨behind, hlist, hblank⟩
    obtain ⟨r, hs, hitems⟩ := (listOf_eq_ok_iff hread (by decide)).1 hlist
    obtain ⟨parts, inside, rfl, hinside, hparts⟩ := (items_iff hread).1 hitems
    obtain ⟨before, hbefore, hbody⟩ := exists_blanks body
    exact ⟨parts, ⟨before, inside, behind, hs ▸ hbody, hbefore, hblank, hinside⟩, hparts⟩
  · rintro ⟨parts, ⟨before, inside, behind, rfl, hbefore, hbehind, hinside⟩, hparts⟩
    refine ⟨behind, (listOf_eq_ok_iff hread (by decide)).2 ⟨_, skipBlank_sign hbefore rfl _, ?_⟩, hbehind⟩
    exact (items_iff hread).2 ⟨parts, inside, rfl, hinside, hparts⟩

/-- **One bad element spoils an array**, whatever stands behind it. -/
theorem listOf_spoiled (hread : Enclosed (read (maxDepth - 1))) {parts : List Bytes} {vs : List α}
    (hparts : List.Forall₂ (Holds (read (maxDepth - 1))) parts vs) {bad : Bytes}
    (hbad : NoElement (read (maxDepth - 1)) bad) (hfirst : parts = [] → (skipBlank bad).head? ≠ some 0x5D)
    {before : Bytes} (hbefore : Blank before) (vs' : List α) :
    decode (listOf read) (before ++ 0x5B :: [0x2C].intercalate (parts ++ [bad])) ≠ .ok vs' := by
  intro h
  obtain ⟨rest, hlist, -⟩ := decode_eq_ok_iff.1 h
  obtain ⟨r, hs, hitems⟩ := (listOf_eq_ok_iff hread (by decide)).1 hlist
  rw [skipBlank_sign hbefore rfl, List.cons.injEq] at hs
  obtain ⟨-, rfl⟩ := hs
  cases hparts with
  | nil =>
    rw [List.nil_append, List.intercalate_singleton] at hitems
    cases hitems with
    | last next =>
      obtain ⟨hskip, -⟩ := nextItem_last.1 next
      exact hfirst rfl (by rw [hskip]; rfl)
    | more next item others => exact hbad.not_others hread (nextItem_first.1 next).1 item others
  | @cons part v parts vs hpart hparts =>
    rw [List.cons_append, intercalate_cons, List.flatMap_append] at hitems
    obtain ⟨behind, hbehind, hitem⟩ := hread.reads hpart (parts.flatMap (0x2C :: ·) ++ [bad].flatMap (0x2C :: ·))
    cases hitems with
    | last next =>
      obtain ⟨c, r, hstart, hne⟩ := hread.starts hitem
      obtain ⟨hskip, -⟩ := nextItem_last.1 next
      rw [hstart, List.cons.injEq] at hskip
      exact hne hskip.1
    | more next item others =>
      obtain ⟨rfl, -⟩ := nextItem_first.1 next
      rw [hread.blanks, hitem] at item
      cases item
      rw [List.flatMap_singleton] at others
      exact hbad.not_items hread hbehind hparts others

end

end ServiceMonitor.Json
