import Resources.Web

/-! Where redirects lead. The chain from a URL to its last response is said apart from the limit on
its length. A web that treats both methods alike leads both the same way. -/
namespace Resources

/-- A response without its body. -/
def Response.bare (r : Response) : Response := { r with body := [], ending := none }

/-- The head of a response, as it is read. -/
def Response.ofHead (status : Nat) (headers : List (Bytes × Bytes)) : Response :=
  ⟨status, headers.map fun (n, v) => (Answer.headerName n, Answer.trimmed v), [], none⟩

namespace Web

variable {w : Web} {m : Method} {n : Nat} {u v : Url} {r : Response}

/-! ### Chains -/

/-- From the URL a number of redirects lead to a response that leads no further. -/
inductive Leads (w : Web) (m : Method) : Nat → Url → Response → Prop where
  | last {u : Url} {r : Response} (sendable : isSendable u = true) (answered : (w.ask m u).1 = .ok r)
      (settled : target? u r = none) : Leads w m 0 u r
  | hop {n : Nat} {u v : Url} {r r' : Response} (sendable : isSendable u = true)
      (answered : (w.ask m u).1 = .ok r) (redirected : target? u r = some v)
      (web : v.isHttp = true) (onward : Leads w m n v r') : Leads w m (n + 1) u r'

/-- The final response for a URL, if the way to it is short enough. -/
def EndsIn (w : Web) (m : Method) (u : Url) (r : Response) : Prop :=
  ∃ n, n ≤ redirectLimit ∧ w.Leads m n u r

theorem Leads.sendable_of (h : w.Leads m n u r) : isSendable u = true := by
  cases h <;> assumption

theorem Leads.of_last {r' : Response} (ha : (w.ask m u).1 = .ok r') (hr : target? u r' = none) :
    w.Leads m n u r ↔ isSendable u = true ∧ n = 0 ∧ r' = r := by
  constructor
  · intro h
    cases h with
    | last hs ha' _ => exact ⟨hs, rfl, Except.ok.inj (ha.symm.trans ha')⟩
    | hop _ ha' hr' _ _ =>
      obtain rfl := Except.ok.inj (ha.symm.trans ha')
      rw [hr] at hr'
      cases hr'
  · rintro ⟨hs, rfl, rfl⟩
    exact .last hs ha hr

theorem Leads.of_redirect {r' : Response} (ha : (w.ask m u).1 = .ok r') (hr : target? u r' = some v) :
    w.Leads m n u r ↔ isSendable u = true ∧ v.isHttp = true ∧ ∃ k, n = k + 1 ∧ w.Leads m k v r := by
  constructor
  · intro h
    cases h with
    | last _ ha' hr' =>
      obtain rfl := Except.ok.inj (ha.symm.trans ha')
      rw [hr] at hr'
      cases hr'
    | hop hs ha' hr' hv hon =>
      obtain rfl := Except.ok.inj (ha.symm.trans ha')
      obtain rfl := Option.some.inj (hr.symm.trans hr')
      exact ⟨hs, hv, _, rfl, hon⟩
  · rintro ⟨hs, hv, k, rfl, hon⟩
    exact .hop hs ha hr hv hon

theorem Leads.answered_of (h : w.Leads m n u r) : ∃ r', (w.ask m u).1 = .ok r' := by
  cases h with
  | last _ ha _ => exact ⟨_, ha⟩
  | hop _ ha _ _ _ => exact ⟨_, ha⟩

/-- Redirects are followed to the end of the chain, as long as the limit allows it. -/
theorem follow_ok_iff : (w.follow m n u).1 = .ok r ↔ ∃ k, k ≤ n ∧ w.Leads m k u r := by
  fun_induction follow w m n u with
  | case1 n u hs =>
    refine ⟨fun h => (nomatch h), ?_⟩
    rintro ⟨k, -, h⟩
    exact absurd h.sendable_of hs
  | case2 n u hs f sent ha =>
    refine ⟨fun h => (nomatch h), ?_⟩
    rintro ⟨k, -, h⟩
    obtain ⟨r', hr'⟩ := h.answered_of
    rw [ha] at hr'
    cases hr'
  | case3 n u hs r' sent ha hr =>
    simp only [Leads.of_last (congrArg Prod.fst ha) hr, Except.ok.injEq]
    constructor
    · rintro rfl
      exact ⟨0, Nat.zero_le n, Classical.not_not.1 hs, rfl, rfl⟩
    · rintro ⟨k, -, -, -, h⟩
      exact h
  | case4 u hs r' sent ha v hr =>
    simp only [Leads.of_redirect (congrArg Prod.fst ha) hr]
    refine ⟨fun h => (nomatch h), ?_⟩
    rintro ⟨k, hk, -, -, j, rfl, -⟩
    omega
  | case5 u hs r' sent ha v hr n hv =>
    simp only [Leads.of_redirect (congrArg Prod.fst ha) hr]
    refine ⟨fun h => (nomatch h), ?_⟩
    rintro ⟨k, -, -, hv', -⟩
    exact absurd hv' hv
  | case6 u hs r' sent ha v hr n hv outcome more hmore ih =>
    rw [hmore] at ih
    simp only [Leads.of_redirect (congrArg Prod.fst ha) hr, ih]
    constructor
    · rintro ⟨k, hk, hon⟩
      exact ⟨k + 1, Nat.succ_le_succ hk, Classical.not_not.1 hs, Classical.not_not.1 hv, k, rfl, hon⟩
    · rintro ⟨_, hk, -, -, k, rfl, hon⟩
      exact ⟨k, Nat.le_of_succ_le_succ hk, hon⟩

theorem fetch_ok_iff : (w.fetch m u).1 = .ok r ↔ w.EndsIn m u r :=
  follow_ok_iff

theorem fetch_error_iff : (∃ f, (w.fetch m u).1 = .error f) ↔ ¬ ∃ r, w.EndsIn m u r := by
  simp only [← fetch_ok_iff]
  cases (w.fetch m u).1 with
  | ok r => simp
  | error f => simp

/-! ### Requests -/

theorem method_of_mem_ask {q : Request} (hq : q ∈ (w.ask m u).2) : q.method = m := by
  unfold ask at hq
  simp only at hq
  split at hq
  · cases hq
  · split at hq <;> rw [List.mem_singleton.1 hq, requestOf]

/-- The method stays the same along the redirects. -/
theorem method_of_mem_follow {q : Request} (hq : q ∈ (w.follow m n u).2) : q.method = m := by
  have hasked {u outcome sent} (ha : w.ask m u = (outcome, sent)) (hq : q ∈ sent) :
      q.method = m := by
    have hsent : (w.ask m u).2 = sent := congrArg Prod.snd ha
    exact method_of_mem_ask (hsent ▸ hq)
  fun_induction follow w m n u with
  | case1 => cases hq
  | case2 n u hs f sent ha => exact hasked ha hq
  | case3 n u hs r' sent ha => exact hasked ha hq
  | case4 u hs r' sent ha => exact hasked ha hq
  | case5 u hs r' sent ha => exact hasked ha hq
  | case6 u hs r' sent ha v hr n hv outcome more hmore ih =>
    rw [hmore] at ih
    rcases List.mem_append.1 hq with hq | hq
    · exact hasked ha hq
    · exact ih hq

theorem method_of_mem_fetch {q : Request} (hq : q ∈ (w.fetch m u).2) : q.method = m :=
  method_of_mem_follow hq

/-! ### Both methods alike -/

/-- What a request is told before any body: status, headers, and whether the answer is dropped. -/
def told (w : Web) (m : Method) (u : Url) : Nat × List (Bytes × Bytes) × Bool :=
  match w.answers.find? (·.request = (requestOf m u).text) with
  | some a => (a.status, a.headers, a.dropped)
  | none => (missing.status, [], false)

/-- Requests for the head alone are told what requests for the whole are told. -/
def Evenhanded (w : Web) : Prop := ∀ u, w.told .get u = w.told .head u

theorem Request.text_eq_iff {q q' : Request} : q.text = q'.text ↔ q = q' := by
  refine ⟨fun h => ?_, congrArg Request.text⟩
  obtain ⟨m, url⟩ := q
  obtain ⟨m', url'⟩ := q'
  have hchars : m.text.toList ++ ' ' :: url.toList = m'.text.toList ++ ' ' :: url'.toList := by
    simpa [Request.text, toString] using congrArg String.toList h
  cases m <;> cases m' <;> simp_all [Method.text, String.toList_inj]

/-- Pages that answer both methods. Each is named by its URL. -/
def bothWays (pages : List Answer) : List Answer :=
  pages.flatMap fun a => [{ a with request := Request.text ⟨.get, a.request⟩ },
    { a with request := Request.text ⟨.head, a.request⟩ }]

theorem evenhanded_bothWays (pages : List Answer) (inReach : Bool) :
    Evenhanded ⟨bothWays pages, inReach⟩ := by
  intro u
  unfold told requestOf
  induction pages with
  | nil => rfl
  | cons a pages ih =>
    by_cases ha : a.request = (sentUrl u).text
    · simp [bothWays, Request.text_eq_iff, ha]
    · simpa [bothWays, Request.text_eq_iff, ha] using ih

/-- Up to the body, an answer is a matter of what is told. -/
theorem bare_ask (w : Web) (m : Method) (u : Url) :
    (w.ask m u).1.map Response.bare =
      if ¬ w.inReach ∨ u.hasScheme "https" then .error (.send (namedUrl u).text)
      else if (w.told m u).2.2 then .error (.send (namedUrl u).text)
      else .ok (.ofHead (w.told m u).1 (w.told m u).2.1) := by
  unfold ask told
  split
  · rfl
  · simp only
    cases w.answers.find? (·.request = (requestOf m u).text) with
    | none => rfl
    | some a =>
      cases hd : a.dropped with
      | true => simp only [hd, if_true]; rfl
      | false =>
        simp only [hd, Bool.false_eq_true, if_false]
        cases m <;> rfl

theorem bare_ask_of_evenhanded (h : w.Evenhanded) (u : Url) :
    (w.ask .get u).1.map Response.bare = (w.ask .head u).1.map Response.bare := by
  rw [bare_ask, h u, bare_ask]

theorem target?_bare (u : Url) (r : Response) : target? u r.bare = target? u r := rfl

/-- Both methods are led the same way, to the same failure or to responses with the same head. -/
theorem bare_follow_of_evenhanded (h : w.Evenhanded) (n : Nat) (u : Url) :
    (w.follow .get n u).1.map Response.bare = (w.follow .head n u).1.map Response.bare := by
  induction n using Nat.strongRecOn generalizing u with
  | _ n ih =>
    have hask := bare_ask_of_evenhanded h u
    unfold follow
    rcases hget : w.ask .get u with ⟨outcome, sent⟩
    rcases hhead : w.ask .head u with ⟨outcome', sent'⟩
    rw [hget, hhead] at hask
    split
    · rfl
    · cases outcome with
      | error f =>
        cases outcome' with
        | error f' => exact hask
        | ok r' => cases hask
      | ok r =>
        cases outcome' with
        | error f' => cases hask
        | ok r' =>
          have hbare : r.bare = r'.bare := Except.ok.inj hask
          have htarget : target? u r = target? u r' := by
            rw [← target?_bare, hbare, target?_bare]
          simp only [htarget]
          cases target? u r' with
          | none => exact hask
          | some v =>
            cases n with
            | zero => rfl
            | succ n =>
              simp only
              split
              · rfl
              · exact ih n (Nat.lt_succ_self n) v

/-- The final responses of both methods have the same head. -/
theorem bare_fetch_of_evenhanded (h : w.Evenhanded) (u : Url) :
    (w.fetch .get u).1.map Response.bare = (w.fetch .head u).1.map Response.bare :=
  bare_follow_of_evenhanded h redirectLimit u

end Web

end Resources
