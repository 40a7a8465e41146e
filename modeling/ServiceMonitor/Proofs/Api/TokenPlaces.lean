import ServiceMonitor.Proofs.Api.Authorization
import ServiceMonitor.Proofs.Text.Utf8
import ServiceMonitor.Url.Percent

/-!
The two places of a token.

In the header a token stands as it is. In a query it cannot always do so: some characters would end the value or begin an
escape, so whoever puts a token into a query escapes them (`valueText`). The server does not undo that.

- `token_places`: which of the two places lets a token in. They agree for a token that needs no escapes.
- `escaped_token_refused`: they disagree for one that does.
-/

namespace ServiceMonitor.Api

open Http (Bytes Request)

/-- characters that cannot stand for themselves in a query's value: they separate values, begin an escape, are read as a
blank, or may not stand in a query at all -/
def needsEscape (c : Char) : Bool := Url.isAnyOf "&%+" c || Url.escapedInQuery c

/-- a text as a query's value; further characters may be escaped with those that need it -/
def valueText (further : Char → Bool) (s : String) : String :=
  String.ofList (Url.escape (fun c => needsEscape c || further c) s.toList)

/-- a printed character of ASCII -/
def isVisible (c : Char) : Bool := 0x21 ≤ c.toNat && c.toNat ≤ 0x7E

/-! ## Escaped texts -/

section

variable {set : Char → Bool} {cs : List Char}

theorem escape_cons (c : Char) (cs : List Char) : Url.escape set (c :: cs) =
    (if set c then (Utf8.encodeChar c).flatMap Url.escapeByte else [c]) ++ Url.escape set cs := List.flatMap_cons

/-- the escape of a character of ASCII -/
theorem escapes_ascii {c : Char} (h : c.toNat < 0x80) :
    (Utf8.encodeChar c).flatMap Url.escapeByte = ['%', Url.hexDigit (c.toNat / 16), Url.hexDigit (c.toNat % 16)] := by
  rw [Utf8.encodeChar_ascii h, List.flatMap_singleton, Url.escapeByte, Utf8.toNat_toUInt8 (by omega)]

theorem length_le_escape (h : ∀ c ∈ cs, c.toNat < 0x80) : cs.length ≤ (Url.escape set cs).length := by
  induction cs with
  | nil => exact Nat.zero_le _
  | cons c cs ih =>
    have htail := ih fun c hc => h c (List.mem_cons_of_mem _ hc)
    rw [escape_cons, escapes_ascii (h c List.mem_cons_self), List.length_append, List.length_cons]
    split_ifs <;> simp <;> omega

/-- a text that is not changed has nothing to be escaped: an escape is longer than its character -/
theorem escape_eq_self_iff (h : ∀ c ∈ cs, c.toNat < 0x80) : Url.escape set cs = cs ↔ ∀ c ∈ cs, set c = false := by
  induction cs with
  | nil => simp [Url.escape]
  | cons c cs ih =>
    have htail : ∀ c ∈ cs, c.toNat < 0x80 := fun c hc => h c (List.mem_cons_of_mem _ hc)
    rw [escape_cons, List.forall_mem_cons]
    cases hc : set c with
    | false => simp [ih htail]
    | true =>
      have hlen : cs.length ≤ (Url.escape set cs).length := length_le_escape htail
      simp only [if_true, escapes_ascii (h c List.mem_cons_self), reduceCtorEq, false_and, iff_false]
      intro heq
      have := congrArg List.length heq
      simp at this
      omega

theorem hexDigit_spec : ∀ n < 16, (Url.hexDigit n).toNat < 0x80 ∧ Url.hexDigit n ≠ '&' := by decide

/-- an escaped text is ASCII, and nothing in it separates values -/
theorem mem_escape (h : ∀ c ∈ cs, c.toNat < 0x80) (hset : set '&' = true) {c : Char} (hc : c ∈ Url.escape set cs) :
    c.toNat < 0x80 ∧ c ≠ '&' := by
  obtain ⟨d, hd, hc⟩ := List.mem_flatMap.1 hc
  have hascii := h d hd
  split_ifs at hc with hs
  · rw [escapes_ascii hascii] at hc
    simp only [List.mem_cons, List.not_mem_nil, or_false] at hc
    rcases hc with rfl | rfl | rfl
    · decide
    · exact hexDigit_spec _ (by omega)
    · exact hexDigit_spec _ (by omega)
  · rw [List.mem_singleton.1 hc]
    exact ⟨hascii, fun hamp => hs (hamp ▸ hset)⟩

end

/-- the bytes of a text of ASCII -/
theorem encode_ascii {cs : List Char} (h : ∀ c ∈ cs, c.toNat < 0x80) :
    Utf8.encode cs = cs.map fun c => c.toNat.toUInt8 := by
  induction cs with
  | nil => rfl
  | cons c cs ih =>
    rw [Utf8.encode_cons, Utf8.encodeChar_ascii (h c List.mem_cons_self), ih fun d hd => h d (List.mem_cons_of_mem _ hd)]
    rfl

/-! ## Reading the two places -/

theorem authorize_of_presented {r : Request} {found token : String} (h : presented r = .ok (Utf8.ofString found)) :
    authorize token r = if found = token then .ok () else .error .wrong := by
  simp only [authorize, h, bind, Except.bind, Utf8.ofString_injective.eq_iff]

/-- a header holds a visible token as it is -/
theorem presented_header {r : Request} {token : String} (visible : ∀ c ∈ token.toList, isVisible c = true)
    (h : r.header? "authorization" = some (Utf8.ofString ("Bearer " ++ token))) :
    presented r = .ok (Utf8.ofString token) := by
  have hbytes : Utf8.ofString token = token.toList.map fun c => c.toNat.toUInt8 := encode_ascii fun c hc => by
    have := visible c hc
    simp only [isVisible, Bool.and_eq_true, decide_eq_true_eq] at this
    omega
  have hreadable : Http.isReadable (bearer ++ Utf8.ofString token) = true := by
    refine List.all_eq_true.2 fun b hb => ?_
    rcases List.mem_append.1 hb with hb | hb
    · exact List.all_eq_true.1 (by decide : Http.isReadable bearer = true) b hb
    · rw [hbytes] at hb
      obtain ⟨c, hc, rfl⟩ := List.mem_map.1 hb
      have := visible c hc
      simp only [isVisible, Bool.and_eq_true, decide_eq_true_eq] at this
      have hb : c.toNat.toUInt8.toNat = c.toNat := Utf8.toNat_toUInt8 (by omega)
      simp only [Bool.or_eq_true, Bool.and_eq_true, decide_eq_true_eq, UInt8.le_iff_toNat_le, UInt8.lt_iff_toNat_lt, hb]
      exact .inl ⟨by simp; omega, by simp; omega⟩
  rw [Utf8.ofString_append] at h
  unfold presented
  rw [h]
  exact headerToken_eq_ok_iff.2 ⟨hreadable, rfl⟩

/-- a query of one value holds its text, as it is -/
theorem presented_query {r : Request} {text : String} (notEmpty : text ≠ "") (whole : 0x26 ∉ Utf8.ofString text)
    (header : r.header? "authorization" = none) (h : r.target.query = some (Utf8.ofString ("token=" ++ text))) :
    presented r = .ok (Utf8.ofString text) := by
  have hsplit : pieces (tokenPiece ++ Utf8.ofString text) = [tokenPiece ++ Utf8.ofString text] := by
    refine List.splitOn_eq_singleton ?_
    rw [List.mem_append]
    exact not_or.2 ⟨by decide, whole⟩
  have hne : Utf8.ofString text ≠ [] := fun hnil => notEmpty (Utf8.ofString_injective hnil)
  have hfound := queryToken_eq_some_iff.2 ⟨[], [], hsplit, hne, by simp⟩
  have hquery : r.target.query.bind queryToken = some (Utf8.ofString text) := by
    rw [h, Utf8.ofString_append]
    exact hfound
  simp only [presented, header, hquery]

/-- what stands between separators has none in it -/
theorem separator_notMem {sep : UInt8} {bs piece : Bytes} (h : piece ∈ bs.splitOn sep) : sep ∉ piece := by
  induction hn : bs.length using Nat.strong_induction_on generalizing bs with
  | _ n ih =>
    by_cases hmem : sep ∈ bs
    · obtain ⟨before, after, hsplit, hbefore⟩ := List.eq_append_cons_of_mem hmem
      rw [hsplit, List.splitOn_append_cons_self_of_not_mem hbefore, List.mem_cons] at h
      rcases h with rfl | h
      · exact hbefore
      · exact ih after.length (by rw [← hn, hsplit]; simp; omega) h rfl
    · rw [List.splitOn_eq_singleton hmem, List.mem_singleton] at h
      exact h ▸ hmem

/-- a token with a separator in it stands in no query -/
theorem authorize_ampersand {r : Request} {token : String} (hamp : '&' ∈ token.toList)
    (header : r.header? "authorization" = none) : authorize token r ≠ .ok () := by
  have hnot : ¬Presents r (Utf8.ofString token) := by
    intro h
    cases h with
    | header first only readable form =>
      rw [header?_eq_some_iff.2 ⟨_, _, first, only⟩] at header
      cases header
    | @query before after query none asked split notEmpty first =>
      have hpiece : tokenPiece ++ Utf8.ofString token ∈ pieces query := by simp [split]
      have hbyte : 0x26 ∈ Utf8.ofString token := List.mem_flatMap.2 ⟨'&', hamp, by decide⟩
      exact separator_notMem hpiece (List.mem_append_right _ hbyte)
  rw [authorize_of_not_presents hnot]
  exact fun h => by cases h

theorem valueText_ne_empty {further : Char → Bool} {s : String} (h : s ≠ "") (ascii : ∀ c ∈ s.toList, c.toNat < 0x80) :
    valueText further s ≠ "" := by
  intro hempty
  have hnil : Url.escape (fun c => needsEscape c || further c) s.toList = [] := by
    simpa [valueText] using congrArg String.toList hempty
  have hlen : s.toList.length ≤ (Url.escape (fun c => needsEscape c || further c) s.toList).length :=
    length_le_escape ascii
  rw [hnil, List.length_nil, Nat.le_zero, List.length_eq_zero_iff] at hlen
  exact h (String.toList_eq_nil_iff.1 hlen)

theorem separator_notMem_valueText {further : Char → Bool} {s : String} (ascii : ∀ c ∈ s.toList, c.toNat < 0x80) :
    0x26 ∉ Utf8.ofString (valueText further s) := by
  have hamp : (needsEscape '&' || further '&') = true := by
    rw [show needsEscape '&' = true by decide, Bool.true_or]
  have hmem : ∀ c ∈ Url.escape (fun c => needsEscape c || further c) s.toList, c.toNat < 0x80 ∧ c ≠ '&' :=
    fun c hc => mem_escape ascii hamp hc
  rw [Utf8.ofString, valueText, String.toList_ofList, encode_ascii fun c hc => (hmem c hc).1]
  intro h
  obtain ⟨c, hc, hbyte⟩ := List.mem_map.1 h
  obtain ⟨hascii, hne⟩ := hmem c hc
  have hnat := congrArg UInt8.toNat hbyte
  rw [Utf8.toNat_toUInt8 (by omega)] at hnat
  exact hne (Char.toNat_inj.1 hnat)

theorem valueText_eq_self_iff {further : Char → Bool} {s : String} (ascii : ∀ c ∈ s.toList, c.toNat < 0x80) :
    valueText further s = s ↔ ∀ c ∈ s.toList, needsEscape c = false ∧ further c = false := by
  rw [valueText, ← String.toList_inj, String.toList_ofList, escape_eq_self_iff ascii]
  simp only [Bool.or_eq_false_iff]

/-- **Where a token lets in.** A token `p` of visible characters is presented in a header, and as the value of a query
without one.
- The header lets in if `p` is the server's token.
- The query lets in if `p` with its escapes is; any other text gets 403 at either place.
- So the two places agree exactly for a token that needs no escapes, and where neither the token nor its escaped form is
  the server's.
- No query lets in where the server's token has an ampersand, however the token is written. -/
theorem token_places {token p : String} {further : Char → Bool} {byHeader byQuery : Request}
    (visible : ∀ c ∈ p.toList, isVisible c = true) (notEmpty : p ≠ "")
    (header : byHeader.header? "authorization" = some (Utf8.ofString ("Bearer " ++ p)))
    (bare : byQuery.header? "authorization" = none)
    (query : byQuery.target.query = some (Utf8.ofString ("token=" ++ valueText further p))) :
    authorize token byHeader = (if p = token then .ok () else .error .wrong) ∧
    authorize token byQuery = (if valueText further p = token then .ok () else .error .wrong) ∧
    (authorize token byHeader = authorize token byQuery ↔
      (∀ c ∈ p.toList, needsEscape c = false ∧ further c = false) ∨ p ≠ token ∧ valueText further p ≠ token) ∧
    ('&' ∈ token.toList → ∀ r, r.header? "authorization" = none → authorize token r ≠ .ok ()) := by
  have ascii : ∀ c ∈ p.toList, c.toNat < 0x80 := fun c hc => by
    have := visible c hc
    simp only [isVisible, Bool.and_eq_true, decide_eq_true_eq] at this
    omega
  have hheader : authorize token byHeader = if p = token then .ok () else .error .wrong :=
    authorize_of_presented (presented_header visible header)
  have hquery : authorize token byQuery = if valueText further p = token then .ok () else .error .wrong :=
    authorize_of_presented
      (presented_query (valueText_ne_empty notEmpty ascii) (separator_notMem_valueText ascii) bare query)
  refine ⟨hheader, hquery, ?_, fun hamp r hr => authorize_ampersand hamp hr⟩
  rw [hheader, hquery, ← valueText_eq_self_iff ascii]
  by_cases hp : p = token
  · subst hp
    by_cases htext : valueText further p = p <;> simp [htext]
  · by_cases htext : valueText further p = token
    · have hne : token ≠ p := Ne.symm hp
      simp [hp, htext, hne]
    · simp [hp, htext]

/-! ## A token that needs escapes -/

/-- a token in the header of a request for the stream -/
def streamByHeader (token : String) : Request :=
  ⟨"GET", ⟨Utf8.ofString "/api/v1/stream", none⟩, [⟨"authorization", Utf8.ofString ("Bearer " ++ token)⟩]⟩

/-- a text as the token of the query -/
def streamByQuery (text : String) : Request :=
  ⟨"GET", ⟨Utf8.ofString "/api/v1/stream", some (Utf8.ofString ("token=" ++ text))⟩, []⟩

/-- a token of hyphens and dots lets in at both places, also where it is not the server's that is presented -/
theorem token_places_plain :
    (∀ c ∈ "s3-c.ret".toList, isVisible c = true) ∧ "s3-c.ret" ≠ "" ∧
    authorize "s3-c.ret" (streamByHeader "s3-c.ret") = authorize "s3-c.ret" (streamByQuery "s3-c.ret") ∧
    authorize "s3-c.ret" (streamByHeader "s3-c.ret") = .ok () := by
  have hvisible : ∀ c ∈ "s3-c.ret".toList, isVisible c = true := List.all_eq_true.1 (by decide +kernel)
  have hunescaped : ∀ c ∈ "s3-c.ret".toList, (!needsEscape c) = true := List.all_eq_true.1 (by decide +kernel)
  have hplain : ∀ c ∈ "s3-c.ret".toList, needsEscape c = false ∧ false = false := fun c hc =>
    ⟨Bool.not_eq_true' _ ▸ hunescaped c hc, rfl⟩
  have htext : valueText (fun _ => false) "s3-c.ret" = "s3-c.ret" := by decide +kernel
  obtain ⟨hheader, -, hagree, -⟩ := @token_places "s3-c.ret" "s3-c.ret" (fun _ => false) (streamByHeader "s3-c.ret")
    (streamByQuery "s3-c.ret") hvisible (by decide) rfl rfl (by rw [htext]; rfl)
  exact ⟨hvisible, by decide, hagree.2 (.inl hplain), hheader.trans (if_pos rfl)⟩

/-- **An escaped token is refused.** The server's token lets in from a header; from a query, written as queries write it,
it gets 403. -/
theorem escaped_token_refused :
    Request.make "GET" (Utf8.ofString "/api/v1/stream") [("Authorization", Utf8.ofString "Bearer a&b")] =
      .ok (streamByHeader "a&b") ∧
    Request.make "GET" (Utf8.ofString "/api/v1/stream?token=a%26b") [] = .ok (streamByQuery "a%26b") ∧
    valueText (fun _ => false) "a&b" = "a%26b" ∧ Url.unescape (Utf8.ofString "a%26b") = Utf8.ofString "a&b" ∧
    authorize "a&b" (streamByHeader "a&b") = .ok () ∧ authorize "a&b" (streamByQuery "a%26b") = .error .wrong ∧
    AuthError.wrong.status = 403 := by
  decide +kernel

end ServiceMonitor.Api
