import Resources.Proofs.Client.Use
import Resources.Proofs.Handle.Composed
import Resources.Proofs.Web.Redirects

/-! Handles on the web: which final response each call goes by, and what it sends to get there. -/
namespace Resources

variable {α β : Type} {w : World} {P : Request → Prop}

/-! ### What is sent -/

/-- All requests that are sent are of one sort. -/
def Act.Sends (P : Request → Prop) (x : Act α) (w : World) : Prop :=
  ∃ sent, (x w).2.sent = w.sent ++ sent ∧ ∀ q ∈ sent, P q

namespace Act

theorem sends_of_still {x : Act α} (hx : x.Still) (w : World) : x.Sends P w :=
  ⟨[], by rw [hx w, List.append_nil], fun _ hq => nomatch hq⟩

theorem sends_bind {x : Act α} {f : α → Act β} (hx : x.Sends P w)
    (hf : (f (x w).1).Sends P (x w).2) : (x >>= f).Sends P w := by
  obtain ⟨sent, hsent, hP⟩ := hx
  obtain ⟨more, hmore, hP'⟩ := hf
  refine ⟨sent ++ more, ?_, ?_⟩
  · change (f (x w).1 (x w).2).2.sent = _
    rw [hmore, hsent, List.append_assoc]
  · intro q hq
    exact (List.mem_append.1 hq).elim (hP q) (hP' q)

end Act

theorem Attempt.sends_bind {x : Attempt α} {f : α → Attempt β} (hx : x.run.Sends P w)
    (hf : ∀ a, (f a).run.Still) : (x >>= f).run.Sends P w := by
  rw [ExceptT.run_bind]
  refine Act.sends_bind hx (Act.sends_of_still ?_ _)
  cases (x.run w).1 with
  | ok a => exact hf a
  | error e => exact Act.still_pure _

theorem Attempt.succeeds_run (x : Attempt α) (w : World) :
    x.succeeds w = ((x w).1.isOk, (x w).2) := by
  have hrun : x.succeeds = x.run >>= fun outcome => pure outcome.isOk := by
    unfold succeeds
    refine bind_congr fun outcome => ?_
    cases outcome <;> rfl
  rw [hrun]
  rfl

namespace UrlHandle

variable {h : UrlHandle} {m : Method} {e : Failure}

/-! ### Final responses -/

/-- What the outcome of a request is worth to the handle. -/
def verdict (h : UrlHandle) : Except WebFailure Response → Except Failure Response
  | .ok r => if r.isSuccess then .ok r else .error (h.refused r.status)
  | .error f => .error (.http h.description f.message)

/-- The world once a request has been made. -/
def asked (h : UrlHandle) (m : Method) (w : World) : World :=
  { (h.client.build w).2 with sent := (h.client.build w).2.sent ++ (w.web.fetch m h.url).2 }

theorem web_asked (h : UrlHandle) (m : Method) (w : World) : (h.asked m w).web = w.web :=
  h.client.web_build w

theorem client_fetch (h : UrlHandle) (m : Method) (w : World) :
    h.client.fetch m h.url w = ((w.web.fetch m h.url).1, h.asked m w) := by
  rw [asked, ← h.client.web_build w]
  rfl

theorem fetch_of_ok {r : Response} (hr : (w.web.fetch m h.url).1 = .ok r) :
    h.fetch m w = (.ok r, h.asked m w) := by
  have hrun : (liftM (h.client.fetch m h.url) : Attempt _) w = (.ok (.ok r), h.asked m w) := by
    rw [← hr]
    exact congrArg (fun x => (Except.ok x.1, x.2)) (h.client_fetch m w)
  exact Attempt.bind_of_ok _ hrun

theorem fetch_of_error {f : WebFailure} (hf : (w.web.fetch m h.url).1 = .error f) :
    h.fetch m w = (.error (.http h.description f.message), h.asked m w) := by
  have hrun : (liftM (h.client.fetch m h.url) : Attempt _) w = (.ok (.error f), h.asked m w) := by
    rw [← hf]
    exact congrArg (fun x => (Except.ok x.1, x.2)) (h.client_fetch m w)
  exact Attempt.bind_of_ok _ hrun

theorem fetch_world (h : UrlHandle) (m : Method) (w : World) : (h.fetch m w).2 = h.asked m w := by
  cases hr : (w.web.fetch m h.url).1 with
  | ok r => rw [fetch_of_ok hr]
  | error f => rw [fetch_of_error hr]

theorem checked_run (h : UrlHandle) (r : Response) (w : World) :
    h.checked r w = (h.verdict (.ok r), w) := by
  simp only [checked, verdict]
  cases r.isSuccess <;> rfl

theorem checked_fetch (h : UrlHandle) (m : Method) (w : World) :
    (h.fetch m >>= h.checked) w = (h.verdict (w.web.fetch m h.url).1, h.asked m w) := by
  cases hr : (w.web.fetch m h.url).1 with
  | ok r => rw [Attempt.bind_of_ok _ (fetch_of_ok hr), checked_run]
  | error f => exact Attempt.bind_of_error _ (fetch_of_error hr)

theorem get_run (h : UrlHandle) (w : World) :
    h.get w = (h.verdict (w.web.fetch .get h.url).1, h.asked .get w) :=
  h.checked_fetch .get w

/-- A header is not looked for in a response that is refused. -/
theorem header_of_refused (he : h.verdict (w.web.fetch .head h.url).1 = .error e) (name : String) :
    h.header name w = (.error e, h.asked .head w) := by
  have hrun := h.checked_fetch .head w
  rw [he] at hrun
  unfold header
  rw [← bind_assoc]
  exact Attempt.bind_of_error _ hrun

/-- Whether the resource is there, by the outcome of a request for its header. -/
def presence (h : UrlHandle) : Except Failure Response → Act Bool
  | .ok r => if r.status = 405 then h.get.succeeds else pure r.isSuccess
  | .error _ => pure false

theorem presentOnWeb_eq (h : UrlHandle) (w : World) :
    h.presentOnWeb w = h.presence (h.fetch .head w).1 (h.fetch .head w).2 := rfl

theorem presentOnWeb_of_ok {r : Response} (hr : (w.web.fetch .head h.url).1 = .ok r) :
    h.presentOnWeb w =
      (if r.status = 405 then h.get.succeeds else pure r.isSuccess : Act Bool) (h.asked .head w) := by
  rw [presentOnWeb_eq, fetch_of_ok hr]
  rfl

theorem presentOnWeb_of_error {f : WebFailure} (hf : (w.web.fetch .head h.url).1 = .error f) :
    h.presentOnWeb w = (false, h.asked .head w) := by
  rw [presentOnWeb_eq, fetch_of_error hf]
  rfl

/-! ### One verdict -/

theorem verdict_isOk_iff : (h.verdict (w.web.fetch m h.url).1).isOk = true ↔
    ∃ r, w.web.EndsIn m h.url r ∧ r.isSuccess = true := by
  simp only [← Web.fetch_ok_iff]
  cases (w.web.fetch m h.url).1 with
  | error f => simp [verdict, Except.isOk, Except.toBool]
  | ok r =>
    cases hs : r.isSuccess with
    | true => simp [verdict, hs, Except.isOk, Except.toBool]
    | false => simp [verdict, hs, Except.isOk, Except.toBool]

theorem verdict_eq_error {x : Except WebFailure Response} : h.verdict x = .error e ↔
    (∃ f, x = .error f ∧ .http h.description f.message = e) ∨
      ∃ r, x = .ok r ∧ r.isSuccess = false ∧ h.refused r.status = e := by
  cases x with
  | error f => simp [verdict]
  | ok r => cases hs : r.isSuccess <;> simp [verdict, hs]

theorem not_isSuccess_of_gone {r : Response} (hr : r.status = 404 ∨ r.status = 410) :
    r.isSuccess = false := by
  rcases hr with hr | hr <;> simp [Response.isSuccess, hr]

/-- Bodies do not count. -/
theorem isOk_verdict_bare (h : UrlHandle) (x : Except WebFailure Response) :
    (h.verdict (x.map Response.bare)).isOk = (h.verdict x).isOk := by
  cases x with
  | error f => rfl
  | ok r =>
    change (if r.isSuccess then .ok r.bare else .error (h.refused r.status) : Except _ _).isOk =
      (if r.isSuccess then .ok r else .error (h.refused r.status) : Except _ _).isOk
    cases r.isSuccess <;> rfl

theorem verdict_bare_eq_error (x : Except WebFailure Response) :
    h.verdict (x.map Response.bare) = .error e ↔ h.verdict x = .error e := by
  cases x with
  | error f => exact Iff.rfl
  | ok r =>
    change (if r.isSuccess then .ok r.bare else .error (h.refused r.status) : Except _ _) = _ ↔
      (if r.isSuccess then .ok r else .error (h.refused r.status) : Except _ _) = _
    cases r.isSuccess <;> simp

theorem openStream_run (hh : h.isHttp = true) (w : World) :
    h.openStream w =
      ((h.verdict (w.web.fetch .get h.url).1).map fun r => .source ⟨r.body, none, r.ending⟩,
        h.asked .get w) := by
  rw [openStream_eq_get hh]
  have hrun := h.get_run w
  cases hv : h.verdict (w.web.fetch .get h.url).1 with
  | ok r =>
    rw [hv] at hrun
    exact Attempt.bind_of_ok _ hrun
  | error e =>
    rw [hv] at hrun
    exact Attempt.bind_of_error _ hrun

theorem openStream_isOk (hh : h.isHttp = true) (w : World) :
    (∃ s, (h.openStream w).1 = .ok s) ↔ (h.verdict (w.web.fetch .get h.url).1).isOk = true := by
  rw [openStream_run hh]
  cases h.verdict (w.web.fetch .get h.url).1 <;> simp [Except.isOk, Except.toBool, Except.map]

theorem openStream_eq_error (hh : h.isHttp = true) :
    (h.openStream w).1 = .error e ↔ h.verdict (w.web.fetch .get h.url).1 = .error e := by
  rw [openStream_run hh]
  cases h.verdict (w.web.fetch .get h.url).1 <;> simp [Except.map]

theorem readable_eq_present (hh : h.isHttp = true) : h.readable = h.present := by
  rw [readable, localPath_of_isHttp hh]

theorem present_eq (hh : h.isHttp = true) : h.present = h.presentOnWeb := by
  rw [present, if_pos hh]

/-- Where both methods are treated alike, a resource is there just when it can be had. -/
theorem present_of_evenhanded (hh : h.isHttp = true) (hw : w.web.Evenhanded) :
    (h.present w).1 = (h.verdict (w.web.fetch .get h.url).1).isOk := by
  have hsame : (h.verdict (w.web.fetch .get h.url).1).isOk =
      (h.verdict (w.web.fetch .head h.url).1).isOk := by
    rw [← isOk_verdict_bare, Web.bare_fetch_of_evenhanded hw, isOk_verdict_bare]
  rw [present_eq hh]
  cases hhead : (w.web.fetch .head h.url).1 with
  | error f =>
    rw [presentOnWeb_of_error hhead, hsame, hhead]
    rfl
  | ok r =>
    rw [presentOnWeb_of_ok hhead]
    split
    · rw [Attempt.succeeds_run, get_run, web_asked]
    · rw [hsame, hhead, verdict]
      cases hs : r.isSuccess <;> rfl

/-- All calls agree on a resource, by its final response. -/
structure OneVerdict (h : UrlHandle) (w : World) : Prop where
  readable : (h.resource.readable w).1 = (h.resource.present w).1
  present : (h.resource.present w).1 = true ↔ ∃ s, (h.resource.openStream w).1 = .ok s
  opens : (∃ s, (h.resource.openStream w).1 = .ok s) ↔
    ∃ r, w.web.EndsIn .get h.url r ∧ r.isSuccess = true
  notFound : (∃ d, (h.resource.openStream w).1 = .error (.notFound d)) ↔
    ∃ r, w.web.EndsIn .get h.url r ∧ (r.status = 404 ∨ r.status = 410)
  http : (∃ d reason, (h.resource.openStream w).1 = .error (.http d reason)) ↔
    ¬ ∃ r, w.web.EndsIn .get h.url r
  io : (∃ op d fault, (h.resource.openStream w).1 = .error (.io op d fault)) ↔
    ∃ r, w.web.EndsIn .get h.url r ∧ r.isSuccess = false ∧ ¬ (r.status = 404 ∨ r.status = 410)
  alike : ∀ e, (h.resource.openStream w).1 = .error e →
    (h.resource.contentLength w).1 = .error e ∧ (h.resource.lastModified w).1 = .error e

theorem refused_alike (hh : h.isHttp = true) (hw : w.web.Evenhanded)
    (he : (h.openStream w).1 = .error e) :
    (h.contentLength w).1 = .error e ∧ (h.lastModified w).1 = .error e := by
  have hget := (openStream_eq_error hh).1 he
  have hhead : h.verdict (w.web.fetch .head h.url).1 = .error e := by
    rwa [← verdict_bare_eq_error, ← Web.bare_fetch_of_evenhanded hw, verdict_bare_eq_error]
  constructor
  · simp only [contentLength, hh, if_true]
    exact congrArg Prod.fst (Attempt.bind_of_error _ (header_of_refused hhead _))
  · simp only [lastModified, hh, if_true]
    exact congrArg Prod.fst (Attempt.bind_of_error _ (header_of_refused hhead _))

theorem oneVerdict (hh : h.isHttp = true) (hw : w.web.Evenhanded) : h.OneVerdict w where
  readable := congrArg (fun x : Act Bool => (x w).1) (readable_eq_present hh)
  present := by
    change (h.present w).1 = true ↔ ∃ s, (h.openStream w).1 = .ok s
    rw [present_of_evenhanded hh hw, openStream_isOk hh]
  opens := (openStream_isOk hh w).trans verdict_isOk_iff
  notFound := by
    change (∃ d, (h.openStream w).1 = .error (.notFound d)) ↔ _
    simp only [openStream_eq_error hh, verdict_eq_error, ← Web.fetch_ok_iff]
    constructor
    · rintro ⟨d, ⟨f, -, hf⟩ | ⟨r, hr, -, hgone⟩⟩
      · cases hf
      · unfold refused at hgone
        split at hgone
        · exact ⟨r, hr, ‹_›⟩
        · cases hgone
    · rintro ⟨r, hr, hgone⟩
      exact ⟨_, Or.inr ⟨r, hr, not_isSuccess_of_gone hgone, if_pos hgone⟩⟩
  http := by
    change (∃ d reason, (h.openStream w).1 = .error (.http d reason)) ↔ _
    simp only [← Web.fetch_error_iff, openStream_eq_error hh, verdict_eq_error]
    constructor
    · rintro ⟨d, reason, ⟨f, hf, -⟩ | ⟨r, -, -, he⟩⟩
      · exact ⟨f, hf⟩
      · unfold refused at he
        split at he <;> cases he
    · rintro ⟨f, hf⟩
      exact ⟨_, _, Or.inl ⟨f, hf, rfl⟩⟩
  io := by
    change (∃ op d fault, (h.openStream w).1 = .error (.io op d fault)) ↔ _
    simp only [openStream_eq_error hh, verdict_eq_error, ← Web.fetch_ok_iff]
    constructor
    · rintro ⟨op, d, fault, ⟨f, -, hf⟩ | ⟨r, hr, hs, he⟩⟩
      · cases hf
      · unfold refused at he
        split at he
        · cases he
        · exact ⟨r, hr, hs, ‹_›⟩
    · rintro ⟨r, hr, hs, hgone⟩
      exact ⟨_, _, _, Or.inr ⟨r, hr, hs, if_neg hgone⟩⟩
  alike e := refused_alike hh hw

/-! ### Requests -/

theorem sends_fetch (h : UrlHandle) (m : Method) (w : World) :
    (h.fetch m).run.Sends (·.method = m) w := by
  refine ⟨(w.web.fetch m h.url).2, ?_, fun q => Web.method_of_mem_fetch⟩
  change (h.fetch m w).2.sent = _
  rw [fetch_world, asked, Client.build_world]
  split <;> rfl

theorem sends_header (h : UrlHandle) (name : String) (w : World) :
    (h.header name).run.Sends (·.method = .head) w := by
  refine Attempt.sends_bind (h.sends_fetch .head w) fun r => ?_
  refine Attempt.still_bind (still_checked r) fun r => ?_
  cases r.headerText? name with
  | some t => exact Act.still_pure _
  | none => exact Attempt.still_throw _

/-- The whole is asked for only when the head alone is refused as such. -/
theorem sends_presentOnWeb (h : UrlHandle) (w : World) :
    h.presentOnWeb.Sends
      (fun q => q.method = .get → ∃ r, w.web.EndsIn .head h.url r ∧ r.status = 405) w := by
  by_cases hrefused : ∃ r, w.web.EndsIn .head h.url r ∧ r.status = 405
  · obtain ⟨sent, hsent⟩ := uses_presentOnWeb (h := h) w
    exact ⟨sent, congrArg World.sent hsent, fun _ _ _ => hrefused⟩
  · obtain ⟨sent, hsent, hhead⟩ := h.sends_fetch .head w
    have hworld : (h.presentOnWeb w).2 = h.asked .head w := by
      cases hr : (w.web.fetch .head h.url).1 with
      | error f => rw [presentOnWeb_of_error hr]
      | ok r =>
        have h405 : r.status ≠ 405 := fun h405 => hrefused ⟨r, Web.fetch_ok_iff.1 hr, h405⟩
        rw [presentOnWeb_of_ok hr, if_neg h405]
        rfl
    refine ⟨sent, ?_, fun q hq hget => ?_⟩
    · rw [hworld, ← fetch_world]
      exact hsent
    · rw [hhead q hq] at hget
      cases hget

/-- What the calls ask the web for. -/
structure AsksFor (h : UrlHandle) (w : World) : Prop where
  present : h.resource.present.Sends
    (fun q => q.method = .get → ∃ r, w.web.EndsIn .head h.url r ∧ r.status = 405) w
  fallback : ∀ r, w.web.EndsIn .head h.url r → r.status = 405 →
    ((h.resource.present w).1 = true ↔ ∃ r', w.web.EndsIn .get h.url r' ∧ r'.isSuccess = true)
  contentLength : h.resource.contentLength.run.Sends (·.method = .head) w
  lastModified : h.resource.lastModified.run.Sends (·.method = .head) w
  openStream : h.resource.openStream.run.Sends (·.method = .get) w

theorem asksFor (hh : h.isHttp = true) (w : World) : h.AsksFor w where
  present := by
    change h.present.Sends _ w
    rw [present_eq hh]
    exact h.sends_presentOnWeb w
  fallback r hr h405 := by
    change (h.present w).1 = true ↔ _
    rw [present_eq hh, presentOnWeb_of_ok (Web.fetch_ok_iff.2 hr), if_pos h405,
      Attempt.succeeds_run, get_run, web_asked, verdict_isOk_iff]
  contentLength := by
    change h.contentLength.run.Sends _ w
    simp only [contentLength, hh, if_true]
    refine Attempt.sends_bind (h.sends_header _ w) fun value => ?_
    split
    · exact Act.still_pure _
    · exact Attempt.still_throw _
  lastModified := by
    change h.lastModified.run.Sends _ w
    simp only [lastModified, hh, if_true]
    refine Attempt.sends_bind (h.sends_header _ w) fun value => ?_
    split
    · exact Act.still_pure _
    · exact Attempt.still_throw _
  openStream := by
    change h.openStream.run.Sends _ w
    rw [openStream_eq_get hh]
    exact Attempt.sends_bind (Attempt.sends_bind (h.sends_fetch .get w) still_checked)
      fun r => Act.still_pure _

/-- Where the web treats both methods alike, all calls on a URL go by its final response. On any web
the content is asked for only to open it, or where the head alone is refused as such. -/
theorem one_verdict (h : UrlHandle) (hh : h.isHttp = true) (w : World) :
    (w.web.Evenhanded → h.OneVerdict w) ∧ h.AsksFor w :=
  ⟨oneVerdict hh, asksFor hh w⟩

/-- A page that has moved, and is gone from there. -/
def movedWorld : World where
  disk := { entries := [], bodies := [], home := [] }
  web := ⟨Web.bothWays
    [⟨"http://h/docs/v1/a.txt", 301, [(Utf8.encode "location".toList, Utf8.encode "../b".toList)], [],
        false⟩,
      ⟨"http://h/docs/b", 410, [], [], false⟩], true⟩
  sent := []
  built := []
  taken := []
  next := 1

/-- Behind the redirect the page is gone for all calls. -/
theorem one_verdict_moved : docs.isHttp = true ∧ movedWorld.web.Evenhanded ∧
    (docs.resource.present movedWorld).1 = false ∧
    ∃ d, (docs.resource.openStream movedWorld).1 = .error (.notFound d) ∧
      (docs.resource.contentLength movedWorld).1 = .error (.notFound d) := by
  have hh : docs.isHttp = true := by decide
  have hw : movedWorld.web.Evenhanded := Web.evenhanded_bothWays _ _
  obtain ⟨hverdict, -⟩ := one_verdict docs hh movedWorld
  have hgone : ∃ r, (movedWorld.web.fetch .get docs.url).1 = .ok r ∧ r.status = 410 :=
    ⟨⟨410, [], [], none⟩, by decide +kernel, rfl⟩
  obtain ⟨r, hr, h410⟩ := hgone
  obtain ⟨d, hd⟩ := (hverdict hw).notFound.2 ⟨r, Web.fetch_ok_iff.1 hr, Or.inr h410⟩
  refine ⟨hh, hw, ?_, d, hd, ((hverdict hw).alike _ hd).1⟩
  rw [Bool.eq_false_iff, ne_eq, (hverdict hw).present, hd]
  rintro ⟨s, hs⟩
  cases hs

end UrlHandle
end Resources
