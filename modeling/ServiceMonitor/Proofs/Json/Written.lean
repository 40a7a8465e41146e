import ServiceMonitor.Json.Reader
import ServiceMonitor.Proofs.Json.Strings

/-!
JSON is read as it was written.

A reader that goes through the members of a written object takes them one by one: what it does with each of them is all
that there is to know about it (`foldMembers_written`). So strings and objects of them are read back as far as the
levels of nesting go (`value_written`), and each typed reader needs to be looked at for single members only.
-/

namespace ServiceMonitor.Json

/-- the bytes of a value's text -/
def bytes (v : Json) : Bytes := Utf8.encode (chars v)

theorem ofString_render (v : Json) : Utf8.ofString v.render = bytes v := by
  rw [render, Utf8.ofString, String.toList_ofList, bytes]

/-! ## Members -/

/-- the bytes of a member -/
def memberBytes (m : String × Json) : Bytes := 0x22 :: (body m.1 ++ 0x22 :: 0x3A :: bytes m.2)

/-- members behind another one -/
def moreMembers (ms : List (String × Json)) : Bytes := ms.flatMap fun m => 0x2C :: memberBytes m

theorem encode_memberChars (m : String × Json) (ms : List (String × Json)) :
    Utf8.encode (memberChars (m :: ms)) = memberBytes m ++ moreMembers ms := by
  have hcolon : Utf8.encodeChar ':' = [0x3A] := rfl
  have hcomma : Utf8.encodeChar ',' = [0x2C] := rfl
  induction ms generalizing m with
  | nil =>
    simp [memberChars, Utf8.encode_append, Utf8.encode_cons, encode_renderString, hcolon, memberBytes, moreMembers, bytes]
  | cons m' ms ih =>
    rw [memberChars, Utf8.encode_append, Utf8.encode_append, Utf8.encode_cons, Utf8.encode_cons, ih, encode_renderString,
      hcolon, hcomma]
    simp [memberBytes, moreMembers, bytes]

theorem bytes_str_append (s : String) (r : Bytes) : bytes (.str s) ++ r = 0x22 :: (body s ++ 0x22 :: r) := by
  rw [bytes, chars, encode_renderString, List.cons_append, List.append_assoc]
  rfl

/-- the bytes of members with commas between them -/
def membersBytes (ms : List (String × Json)) : Bytes := Utf8.encode (memberChars ms)

theorem bytes_obj_append (ms : List (String × Json)) (r : Bytes) :
    bytes (.obj ms) ++ r = 0x7B :: (membersBytes ms ++ 0x7D :: r) := by
  have hopen : Utf8.encodeChar '{' = [0x7B] := rfl
  have hclose : Utf8.encode ['}'] = [0x7D] := rfl
  rw [bytes, chars, List.cons_append, Utf8.encode_cons, Utf8.encode_append, hopen, hclose, List.append_assoc,
    List.append_assoc]
  rfl

theorem length_le_membersBytes (ms : List (String × Json)) : ms.length ≤ (membersBytes ms).length := by
  have hmore : ∀ ms : List (String × Json), ms.length ≤ (moreMembers ms).length := by
    intro ms
    induction ms with
    | nil => exact Nat.zero_le _
    | cons m ms ih =>
      simp only [moreMembers, List.flatMap_cons, List.length_append, List.length_cons] at ih ⊢
      omega
  cases ms with
  | nil => exact Nat.zero_le _
  | cons m ms =>
    have := hmore ms
    rw [membersBytes, encode_memberChars, List.length_append, memberBytes, List.length_cons, List.length_cons]
    omega

/-! ## Going through the members -/

/-- what `step` does with a member in any state, with anything behind it -/
def TakesMember {σ : Type} (step : σ → String → Bytes → Except Error (σ × Bytes))
    (next : σ → String × Json → Except Error σ) (m : String × Json) : Prop :=
  ∀ s r, step s m.1 (0x3A :: (bytes m.2 ++ r)) = (next s m).map fun s => (s, r)

section

variable {σ : Type} {step : σ → String → Bytes → Except Error (σ × Bytes)} {next : σ → String × Json → Except Error σ}

theorem foldMembers_more {ms : List (String × Json)} (h : ∀ m ∈ ms, TakesMember step next m) {fuel : ℕ}
    (hfuel : ms.length < fuel) (s : σ) (r : Bytes) :
    foldMembers step fuel false s (moreMembers ms ++ 0x7D :: r) = (ms.foldlM next s).map fun s => (s, 0x7D :: r) := by
  induction ms generalizing fuel s with
  | nil =>
    obtain ⟨fuel, rfl⟩ := Nat.exists_eq_succ_of_ne_zero (Nat.ne_of_gt hfuel)
    rfl
  | cons m ms ih =>
    obtain ⟨fuel, rfl⟩ := Nat.exists_eq_succ_of_ne_zero (Nat.ne_of_gt (Nat.zero_lt_of_lt hfuel))
    have hmember : nextMember false (moreMembers (m :: ms) ++ 0x7D :: r) =
        .ok (true, body m.1 ++ 0x22 :: 0x3A :: (bytes m.2 ++ (moreMembers ms ++ 0x7D :: r))) := by
      simp only [moreMembers, List.flatMap_cons, memberBytes, List.cons_append, List.append_assoc]
      rfl
    have hstep := h m List.mem_cons_self s (moreMembers ms ++ 0x7D :: r)
    simp only [foldMembers, hmember, bind, Except.bind, if_true, string_body, hstep, List.foldlM_cons]
    cases next s m with
    | error e => rfl
    | ok s => exact ih (fun m hm => h m (List.mem_cons_of_mem _ hm)) (Nat.lt_of_succ_lt_succ hfuel) s

/-- **Going through a written object** is going through its members. -/
theorem foldMembers_written {ms : List (String × Json)} (h : ∀ m ∈ ms, TakesMember step next m) (s : σ) (r : Bytes) :
    foldMembers step ((membersBytes ms ++ 0x7D :: r).length + 1) true s (membersBytes ms ++ 0x7D :: r) =
      (ms.foldlM next s).map fun s => (s, 0x7D :: r) := by
  have hfuel : ms.length ≤ (membersBytes ms ++ 0x7D :: r).length := by
    rw [List.length_append]
    exact (length_le_membersBytes ms).trans (Nat.le_add_right _ _)
  generalize (membersBytes ms ++ 0x7D :: r).length = fuel at hfuel
  cases ms with
  | nil => rfl
  | cons m ms =>
    have hmember : nextMember true (memberBytes m ++ (moreMembers ms ++ 0x7D :: r)) =
        .ok (true, body m.1 ++ 0x22 :: 0x3A :: (bytes m.2 ++ (moreMembers ms ++ 0x7D :: r))) := by
      simp only [memberBytes, List.cons_append, List.append_assoc]
      rfl
    have hstep := h m List.mem_cons_self s (moreMembers ms ++ 0x7D :: r)
    rw [membersBytes, encode_memberChars, List.append_assoc]
    simp only [foldMembers, hmember, bind, Except.bind, if_true, string_body, hstep, List.foldlM_cons]
    cases next s m with
    | error e => rfl
    | ok s => exact foldMembers_more (fun m hm => h m (List.mem_cons_of_mem _ hm)) hfuel s r

end

/-! ## Values -/

/-- strings and objects of such values, which take no more than so many levels -/
inductive Textual : ℕ → Json → Prop
  | str (d : ℕ) (s : String) : Textual d (.str s)
  | obj {d : ℕ} {ms : List (String × Json)} (h : ∀ m ∈ ms, Textual (d + 1) m.2) : Textual (d + 2) (.obj ms)

theorem textual_strings {ms : List (String × Json)} (h : ∀ m ∈ ms, ∃ s, m.2 = .str s) (d : ℕ) :
    Textual (d + 2) (.obj ms) :=
  .obj fun m hm => by
    obtain ⟨s, hs⟩ := h m hm
    exact hs ▸ .str _ s

theorem foldlM_cons (ms acc : List (String × Json)) :
    ms.foldlM (fun acc m => (.ok (m :: acc) : Except Error _)) acc = .ok (ms.reverse ++ acc) := by
  induction ms generalizing acc with
  | nil => rfl
  | cons m ms ih => simp [List.foldlM_cons, bind, Except.bind, ih]

theorem colon_self (r : Bytes) : colon (0x3A :: r) = .ok r := rfl

theorem endObject_self (r : Bytes) : endObject (0x7D :: r) = .ok r := rfl

/-- how a member of any value is read: it goes before those already there -/
def keepMember (read : Bytes → Except Error (Json × Bytes)) (acc : List (String × Json)) (name : String) (r : Bytes) :
    Except Error (List (String × Json) × Bytes) := do
  let r ← colon r
  let (v, r) ← read r
  .ok ((name, v) :: acc, r)

theorem takesMember_keep {read : Bytes → Except Error (Json × Bytes)} {m : String × Json}
    (h : ∀ r, read (bytes m.2 ++ r) = .ok (m.2, r)) : TakesMember (keepMember read) (fun acc m => .ok (m :: acc)) m := by
  intro acc r
  simp only [keepMember, colon_self, bind, Except.bind, h]
  rfl

theorem valueWith_brace (fuel d : ℕ) (r : Bytes) : valueWith (fuel + 1) (d + 2) (0x7B :: r) = (do
    let (members, r) ← foldMembers (keepMember (valueWith fuel (d + 1))) (r.length + 1) true [] r
    let r ← endObject r
    .ok (.obj members.reverse, r)) := by
  have hdepth : ¬d + 2 ≤ 1 := by omega
  change (if d + 2 ≤ 1 then Except.error Error.recursionLimit else _) = _
  exact if_neg hdepth

theorem valueWith_quote (fuel d : ℕ) (r : Bytes) : valueWith (fuel + 1) d (0x22 :: r) = (do
    let (s, r) ← string r
    .ok (.str s, r)) := rfl

theorem valueWith_written {d : ℕ} {v : Json} (h : Textual d v) {fuel : ℕ} (hfuel : d < fuel) (r : Bytes) :
    valueWith fuel d (bytes v ++ r) = .ok (v, r) := by
  induction h generalizing fuel r with
  | str d s =>
    obtain ⟨fuel, rfl⟩ := Nat.exists_eq_succ_of_ne_zero (Nat.ne_of_gt (Nat.zero_lt_of_lt hfuel))
    rw [bytes_str_append, valueWith_quote, string_body]
    rfl
  | @obj d ms _ ih =>
    obtain ⟨fuel, rfl⟩ := Nat.exists_eq_succ_of_ne_zero (Nat.ne_of_gt (Nat.zero_lt_of_lt hfuel))
    have htakes : ∀ m ∈ ms, TakesMember (keepMember (valueWith fuel (d + 1))) (fun acc m => .ok (m :: acc)) m :=
      fun m hm => takesMember_keep (ih m hm (Nat.lt_of_succ_lt_succ hfuel))
    rw [bytes_obj_append, valueWith_brace, foldMembers_written htakes, foldlM_cons]
    simp [Except.map, bind, Except.bind, endObject_self]

/-- **Strings and objects of them are read as they were written.** -/
theorem value_written {d : ℕ} {v : Json} (h : Textual d v) (r : Bytes) : value d (bytes v ++ r) = .ok (v, r) :=
  valueWith_written h (Nat.lt_succ_self d) r

theorem text_written (expected s : String) (d : ℕ) (r : Bytes) : text expected d (bytes (.str s) ++ r) = .ok (s, r) := by
  rw [bytes_str_append]
  exact string_body s r

/-! ## Names -/

/-- a table of the same names has the same names in it -/
theorem lookup_map_bind {α β γ : Type} {known : List (String × α)} {g : String × α → String × β} (name : String)
    (x : Except Error γ) (hg : ∀ k, (g k).1 = k.1) :
    (lookup (known.map g) name >>= fun _ => x) = lookup known name >>= fun _ => x := by
  have hsame : ((fun k : String × β => k.1 == name) ∘ g) = fun k => k.1 == name := funext fun k => by
    rw [Function.comp_apply, hg]
  have hnames : (known.map g).map (·.1) = known.map (·.1) := by
    rw [List.map_map]
    exact List.map_congr_left fun k _ => hg k
  unfold lookup
  rw [List.find?_map, hsame, hnames]
  cases known.find? fun k => k.1 == name <;> rfl

theorem variant_quote {α : Type} (known : List (String × Reader α)) (bare : String → Except Error α) (d : ℕ) (r : Bytes) :
    variant known bare d (0x22 :: r) = (do
      let (name, r) ← string r
      let _ ← lookup known name
      let v ← bare name
      .ok (v, r)) := rfl

theorem oneOf_written {α : Type} {known : List (String × α)} {name : String} {v : α} (h : lookup known name = .ok v)
    (d : ℕ) (r : Bytes) : oneOf known d (bytes (.str name) ++ r) = .ok (v, r) := by
  rw [bytes_str_append, oneOf, variant_quote, string_body]
  change (lookup (known.map _) name >>= fun _ => lookup known name >>= fun v => .ok (v, r)) = _
  rw [lookup_map_bind, h]
  · rfl
  · exact fun _ => rfl

/-! ## Records -/

/-- what a record does with a member of one of its fields, which `set` puts into it -/
def putMember {α : Type} (set : String → α → α) (s : List String × α) (m : String × Json) :
    Except Error (List String × α) :=
  if s.1.contains m.1 then .error (.duplicateField m.1) else .ok (m.1 :: s.1, set m.1 s.2)

theorem takesMember_put {α : Type} {fields : List (Field α)} {set : String → α → α} {d : ℕ} {m : String × Json}
    {f : Field α} (hfind : fields.find? (fun f => f.name == m.1) = some f)
    (hread : ∀ a r, f.read d a (bytes m.2 ++ r) = .ok (set m.1 a, r)) :
    TakesMember (readMember fields d) (putMember set) m := by
  intro s r
  by_cases hseen : m.1 ∈ s.1
  · simp [readMember, hfind, putMember, hseen, Except.map]
  · simp [readMember, hfind, putMember, hseen, Except.map, colon_self, bind, Except.bind, hread]

theorem record_brace {α : Type} (name : String) (fields : List (Field α)) (blank : α) (d : ℕ) (r : Bytes) :
    record name fields blank (d + 2) (0x7B :: r) = (do
      let ((seen, a), r) ← foldMembers (readMember fields (d + 1)) (r.length + 1) true ([], blank) r
      let a ← fillAbsent fields seen a
      let r ← endObject r
      .ok (a, r)) := by
  have hdepth : ¬d + 2 ≤ 1 := by omega
  change (if d + 2 ≤ 1 then Except.error Error.recursionLimit else _) = _
  exact if_neg hdepth

/-! ## Whole texts -/

/-- what is read of a value wherever it stands is read of its text -/
theorem decode_written {α : Type} {read : Reader α} {v : Json} {a : α}
    (h : ∀ r, read maxDepth (bytes v ++ r) = .ok (a, r)) : decode read (Utf8.ofString v.render) = .ok a := by
  have hwhole := h []
  rw [List.append_nil] at hwhole
  simp only [decode, ofString_render, hwhole, bind, Except.bind]
  rfl

end ServiceMonitor.Json
