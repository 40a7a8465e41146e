import Mathlib.Tactic
import ServiceMonitor.Api.Router

/-!
Who gets past the token.

`Presents` says what it is to present a token, without the order in which the server looks: in the first `Authorization`
header, or, without any, as the first token of the query that is not empty. A header decides alone, even one that cannot be
read.

- `presented_eq_ok_iff`: the server finds the token that is presented.
- `auth_exact`: the routes run for the right token and for nothing else, whatever they are and whatever is asked for; and
  nobody learns anything about the token from being turned away.
-/

namespace ServiceMonitor.Api

open Http (Bytes Header Request Response)

/-- a request presents a token -/
inductive Presents (r : Request) (token : Bytes) : Prop
  | header {before after : List Header} {value : Bytes}
      (first : r.headers = before ++ ⟨"authorization", value⟩ :: after) (only : ∀ h ∈ before, h.name ≠ "authorization")
      (readable : Http.isReadable value = true) (form : value = bearer ++ token)
  | query {before after : List Bytes} {query : Bytes} (none : ∀ h ∈ r.headers, h.name ≠ "authorization")
      (asked : r.target.query = some query) (split : pieces query = before ++ (tokenPiece ++ token) :: after)
      (notEmpty : token ≠ []) (first : ∀ rest, rest ≠ [] → tokenPiece ++ rest ∉ before)

/-! ## Reading a token -/

theorem behind?_eq_some_iff {start bs rest : Bytes} : behind? start bs = some rest ↔ bs = start ++ rest := by
  unfold behind?
  constructor
  · intro h
    split_ifs at h with hp
    obtain ⟨rest', rfl⟩ := List.isPrefixOf_iff_prefix.1 hp
    rw [List.drop_left, Option.some.injEq] at h
    rw [h]
  · rintro rfl
    rw [if_pos (List.isPrefixOf_iff_prefix.2 (List.prefix_append start rest)), List.drop_left]

theorem headerToken_eq_ok_iff {value token : Bytes} :
    headerToken value = .ok token ↔ Http.isReadable value = true ∧ value = bearer ++ token := by
  unfold headerToken
  cases hr : Http.isReadable value with
  | false => simp
  | true =>
    rw [if_pos rfl, ← behind?_eq_some_iff]
    cases behind? bearer value <;> simp

theorem pieceToken_eq_some_iff {piece token : Bytes} :
    pieceToken piece = some token ↔ piece = tokenPiece ++ token ∧ token ≠ [] := by
  unfold pieceToken
  rw [← behind?_eq_some_iff]
  cases behind? tokenPiece piece with
  | none => simp
  | some rest =>
    cases rest with
    | nil => simp
    | cons b bs =>
      constructor
      · rintro ⟨⟩
        exact ⟨rfl, List.cons_ne_nil b bs⟩
      · exact fun h => h.1

theorem pieceToken_eq_none_iff {piece : Bytes} :
    pieceToken piece = none ↔ ∀ rest, rest ≠ [] → piece ≠ tokenPiece ++ rest := by
  rw [Option.eq_none_iff_forall_ne_some]
  refine forall_congr' fun rest => ?_
  rw [Ne, pieceToken_eq_some_iff]
  tauto

theorem queryToken_eq_some_iff {query token : Bytes} :
    queryToken query = some token ↔ ∃ before after, pieces query = before ++ (tokenPiece ++ token) :: after ∧
      token ≠ [] ∧ ∀ rest, rest ≠ [] → tokenPiece ++ rest ∉ before := by
  unfold queryToken
  rw [List.findSome?_eq_some_iff]
  constructor
  · rintro ⟨before, piece, after, hsplit, hpiece, hbefore⟩
    obtain ⟨rfl, hne⟩ := pieceToken_eq_some_iff.1 hpiece
    refine ⟨before, after, hsplit, hne, fun rest hrest hmem => ?_⟩
    exact pieceToken_eq_none_iff.1 (hbefore _ hmem) rest hrest rfl
  · rintro ⟨before, after, hsplit, hne, hfirst⟩
    refine ⟨before, _, after, hsplit, pieceToken_eq_some_iff.2 ⟨rfl, hne⟩, fun piece hpiece => ?_⟩
    rw [pieceToken_eq_none_iff]
    rintro rest hrest rfl
    exact hfirst rest hrest hpiece

theorem header?_eq_some_iff {r : Request} {name : String} {value : Bytes} :
    r.header? name = some value ↔
      ∃ before after, r.headers = before ++ ⟨name, value⟩ :: after ∧ ∀ h ∈ before, h.name ≠ name := by
  unfold Request.header?
  rw [Option.map_eq_some_iff]
  constructor
  · rintro ⟨h, hfind, rfl⟩
    rw [List.find?_eq_some_iff_append] at hfind
    obtain ⟨hname, before, after, hsplit, hbefore⟩ := hfind
    rw [decide_eq_true_eq] at hname
    refine ⟨before, after, ?_, fun h' hmem => ?_⟩
    · rw [hsplit, ← hname]
    · simpa using hbefore h' hmem
  · rintro ⟨before, after, hsplit, hbefore⟩
    refine ⟨⟨name, value⟩, ?_, rfl⟩
    rw [List.find?_eq_some_iff_append]
    refine ⟨by simp, before, after, hsplit, fun h hmem => ?_⟩
    simpa using hbefore h hmem

theorem header?_eq_none_iff {r : Request} {name : String} :
    r.header? name = none ↔ ∀ h ∈ r.headers, h.name ≠ name := by
  unfold Request.header?
  rw [Option.map_eq_none_iff, List.find?_eq_none]
  simp

/-- **The token that is presented** is the one that the server finds. -/
theorem presented_eq_ok_iff {r : Request} {token : Bytes} : presented r = .ok token ↔ Presents r token := by
  unfold presented
  cases hvalue : r.header? "authorization" with
  | some value =>
    obtain ⟨before, after, hsplit, hbefore⟩ := header?_eq_some_iff.1 hvalue
    simp only [headerToken_eq_ok_iff]
    constructor
    · rintro ⟨hreadable, hform⟩
      exact .header hsplit hbefore hreadable hform
    · intro h
      cases h with
      | header first only readable form =>
        have hother := header?_eq_some_iff.2 ⟨_, _, first, only⟩
        rw [hvalue, Option.some.injEq] at hother
        subst hother
        exact ⟨readable, form⟩
      | query none asked split notEmpty first =>
        rw [header?_eq_none_iff.2 none] at hvalue
        cases hvalue
  | none =>
    have hnone := header?_eq_none_iff.1 hvalue
    constructor
    · intro h
      cases hquery : r.target.query.bind queryToken with
      | none => simp [hquery] at h
      | some found =>
        simp only [hquery, Except.ok.injEq] at h
        subst h
        obtain ⟨query, hasked, hfound⟩ := Option.bind_eq_some_iff.1 hquery
        obtain ⟨before, after, hsplit, hne, hfirst⟩ := queryToken_eq_some_iff.1 hfound
        exact .query hnone hasked hsplit hne hfirst
    · intro h
      cases h with
      | header first only readable form =>
        rw [header?_eq_some_iff.2 ⟨_, _, first, only⟩] at hvalue
        cases hvalue
      | query none asked split notEmpty first =>
        have hfound := queryToken_eq_some_iff.2 ⟨_, _, split, notEmpty, first⟩
        rw [asked, Option.bind_some, hfound]

/-! ## Turned away -/

/-- why a request without the right token is turned away; the right one has no part in it -/
def refusal (r : Request) : AuthError :=
  match presented r with
  | .ok _ => .wrong
  | .error e => e

theorem refusal_status (r : Request) :
    ((∃ other, Presents r other) → (refusal r).status = 403) ∧
      ((∀ other, ¬Presents r other) → (refusal r).status = 401) := by
  unfold refusal
  cases hp : presented r with
  | ok found =>
    refine ⟨fun _ => rfl, fun hnone => ?_⟩
    exact absurd (presented_eq_ok_iff.1 hp) (hnone found)
  | error e =>
    refine ⟨?_, fun _ => ?_⟩
    · rintro ⟨other, hother⟩
      rw [presented_eq_ok_iff.2 hother] at hp
      cases hp
    · -- missing or malformed
      simp only [presented, headerToken] at hp
      split at hp <;> split at hp <;> cases hp <;> rfl

theorem authorize_of_presents {r : Request} {token : String} (h : Presents r (Utf8.ofString token)) :
    authorize token r = .ok () := by
  simp [authorize, presented_eq_ok_iff.2 h, bind, Except.bind]

theorem authorize_of_not_presents {r : Request} {token : String} (h : ¬Presents r (Utf8.ofString token)) :
    authorize token r = .error (refusal r) := by
  unfold authorize refusal
  cases hp : presented r with
  | error e => rfl
  | ok found =>
    have hne : found ≠ Utf8.ofString token := by
      rintro rfl
      exact h (presented_eq_ok_iff.1 hp)
    simp [bind, Except.bind, hne]

/-- a response keeps its status on the way out -/
theorem finished_status (server : Server) (r : Request) (a : Response) :
    ∃ a', finished server r (.response a) = .response a' ∧ a'.status = a.status := by
  have hsized : (a.sized (r.method != "HEAD")).status = a.status := by
    simp only [Response.sized]
    split_ifs <;> rfl
  have hallowed : ∀ b : Response, (allowed r b).status = b.status := by
    intro b
    unfold allowed
    split_ifs <;> rfl
  have hpermitted : ∀ b : Response, (permitted server r b).status = b.status := by
    intro b
    simp only [permitted]
    split_ifs <;> rfl
  exact ⟨_, rfl, by rw [hpermitted, hallowed, hsized]⟩

/-- no route asks for credentials -/
theorem inner_status (health : Health) (canSwitch : Bool) (r : Request) {a : Response}
    (h : inner health canSwitch r = .response a) : a.status ≠ 401 ∧ a.status ≠ 403 := by
  unfold inner at h
  split at h
  · cases h
    decide
  · cases h
    split_ifs <;> simp [Health.response, Response.bare]
  · split_ifs at h
    · unfold upgrade at h
      split_ifs at h <;> cases h <;> decide
    · cases h
      decide

section

variable {server : Server} {token : String} {r : Request}

theorem served_of_presents (required : server.token = some token) (asks : isPreflight server r = false)
    (h : Presents r (Utf8.ofString token)) (routes : Request → Answer) :
    served server routes r = finished server r (routes r) := by
  simp [served, guarded, asks, required, authorize_of_presents h]

/-- without the right token there is one answer, whatever the routes are and whatever the token is -/
theorem served_of_not_presents (required : server.token = some token) (asks : isPreflight server r = false)
    (h : ¬Presents r (Utf8.ofString token)) (routes : Request → Answer) :
    served server routes r = finished server r (.response (.plain (refusal r).status (refusal r).message)) := by
  simp [served, guarded, asks, required, authorize_of_not_presents h]

/-- **The token decides, and nothing else.** Where a token is required, take any request that is no preflight.
- Its routes run, whatever they are, exactly if it presents the token; of the server's own routes the answer shows it.
- Otherwise no route has a part in the answer, which is 403 if another token is presented and 401 if none is.
- A token that is not presented could be any other one: the answer is the same. -/
theorem auth_exact (required : server.token = some token) (asks : isPreflight server r = false) :
    ((∀ routes, served server routes r = finished server r (routes r)) ↔ Presents r (Utf8.ofString token)) ∧
    (∀ health canSwitch,
      answer server health canSwitch r = finished server r (inner health canSwitch r) ↔
        Presents r (Utf8.ofString token)) ∧
    (¬Presents r (Utf8.ofString token) → ∃ refused, (∀ routes, served server routes r = .response refused) ∧
      ((∃ other, Presents r other) → refused.status = 403) ∧ ((∀ other, ¬Presents r other) → refused.status = 401)) ∧
    ∀ token', ¬Presents r (Utf8.ofString token) → ¬Presents r (Utf8.ofString token') →
      ∀ routes, served { server with token := some token' } routes r = served server routes r := by
  have hown : ∀ health canSwitch, answer server health canSwitch r = finished server r (inner health canSwitch r) →
      Presents r (Utf8.ofString token) := by
    intro health canSwitch h
    by_contra hnot
    rw [answer, served_of_not_presents required asks hnot] at h
    obtain ⟨refused, hrefused, hstatus⟩ := finished_status server r (.plain (refusal r).status (refusal r).message)
    rw [hrefused] at h
    cases hinner : inner health canSwitch r with
    | switch =>
      rw [hinner] at h
      cases h
    | response a =>
      obtain ⟨a', ha', hstatus'⟩ := finished_status server r a
      rw [hinner, ha'] at h
      cases h
      have hsame : a.status = (refusal r).status := hstatus'.symm.trans hstatus
      obtain ⟨h401, h403⟩ := inner_status health canSwitch r hinner
      rw [hsame] at h401 h403
      cases hwhy : refusal r <;> simp [hwhy, AuthError.status] at h401 h403
  refine ⟨⟨fun h => ?_, fun h => served_of_presents required asks h⟩, fun health canSwitch => ⟨hown health canSwitch, ?_⟩,
    fun hnot => ?_, fun token' hnot hnot' routes => ?_⟩
  · exact hown ⟨"", 0⟩ false (h (inner ⟨"", 0⟩ false))
  · exact fun h => served_of_presents required asks h (inner health canSwitch)
  · obtain ⟨refused, hrefused, hstatus⟩ := finished_status server r (.plain (refusal r).status (refusal r).message)
    obtain ⟨hwrong, hnone⟩ := refusal_status r
    refine ⟨refused, fun routes => ?_, fun h => hstatus.trans (hwrong h), fun h => hstatus.trans (hnone h)⟩
    exact (served_of_not_presents required asks hnot routes).trans hrefused
  · have required' : { server with token := some token' }.token = some token' := rfl
    exact (served_of_not_presents required' asks hnot' routes).trans
      (served_of_not_presents required asks hnot routes).symm

end

/-! ## A look-alike -/

/-- the server behind the examples -/
def locked : Server := { Server.standard with token := some "s3cret" }

/-- an unknown path, with look-alikes and an empty token before the right one -/
def lateToken : Request :=
  ⟨"DELETE", ⟨Utf8.ofString "/nope", some (Utf8.ofString "mytoken=x&token=&token=s3cret&token=other")⟩, []⟩

/-- the same with a header that is not about bearers -/
def basicHeader : Request := { lateToken with headers := [⟨"authorization", Utf8.ofString "Basic s3cret"⟩] }

theorem lateToken_presents : Presents lateToken (Utf8.ofString "s3cret") :=
  presented_eq_ok_iff.1 (by decide +kernel)

theorem basicHeader_presents (token : Bytes) : ¬Presents basicHeader token := by
  intro h
  have hpresented : presented basicHeader = .error .malformed := by decide +kernel
  rw [presented_eq_ok_iff.2 h] at hpresented
  cases hpresented

theorem auth_exact_lookalike :
    locked.token = some "s3cret" ∧ isPreflight locked lateToken = false ∧ isPreflight locked basicHeader = false ∧
    (∀ routes, served locked routes lateToken = finished locked lateToken (routes lateToken)) ∧
    (∃ refused, (∀ routes, served locked routes basicHeader = .response refused) ∧ refused.status = 401) ∧
    ∀ routes, served { locked with token := some "other" } routes basicHeader = served locked routes basicHeader := by
  have required : locked.token = some "s3cret" := rfl
  have hlate : isPreflight locked lateToken = false := by decide
  have hbasic : isPreflight locked basicHeader = false := by decide
  obtain ⟨hruns, -, -, -⟩ := auth_exact required hlate
  obtain ⟨-, -, hturned, hsame⟩ := auth_exact required hbasic
  obtain ⟨refused, hrefused, -, hnone⟩ := hturned (basicHeader_presents _)
  refine ⟨required, hlate, hbasic, hruns.2 lateToken_presents, ⟨refused, hrefused, hnone basicHeader_presents⟩, ?_⟩
  exact hsame "other" (basicHeader_presents _) (basicHeader_presents _)

end ServiceMonitor.Api
