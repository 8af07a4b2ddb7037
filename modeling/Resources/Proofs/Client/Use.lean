import Resources.Handle.All
import Resources.Proofs.ClassPath.FirstRoot
import Resources.Proofs.Handle.Stream
import Resources.Proofs.Handle.Url

/-! What calls leave behind. Only those that ask the web for a resource use its client; they build
it and send requests, and the rest of the world stays as it is. -/
namespace Resources

variable {α β : Type} {c : Client} {w w' w'' : World}

/-! ### Use of a client -/

namespace Client

/-- The world before and after something was asked through the client. -/
def Used (c : Client) (w w' : World) : Prop :=
  ∃ sent, w' = { (c.build w).2 with sent := w.sent ++ sent }

theorem build_world (c : Client) (w : World) :
    (c.build w).2 = if c.isBuilt w then w else { w with built := c.id :: w.built } := rfl

theorem isBuilt_build (c : Client) (w : World) : c.isBuilt (c.build w).2 = true := by
  rw [build_world]
  cases h : c.isBuilt w with
  | true => exact h
  | false => simp [isBuilt]

/-- A client is built once. -/
theorem build_of_built (h : c.isBuilt w = true) : (c.build w).2 = w := by
  rw [build_world, if_pos h]

theorem Used.built_eq (h : c.Used w w') : w'.built = (c.build w).2.built := by
  obtain ⟨sent, rfl⟩ := h
  rfl

theorem Used.mem_built (h : c.Used w w') (id : Nat) : id ∈ w'.built ↔ id = c.id ∨ id ∈ w.built := by
  rw [h.built_eq, build_world]
  split
  · rename_i hb
    have hb : c.id ∈ w.built := by simpa [isBuilt] using hb
    constructor
    · exact Or.inr
    · rintro (rfl | h)
      · exact hb
      · exact h
  · exact List.mem_cons

theorem Used.next_eq (h : c.Used w w') : w'.next = w.next := by
  obtain ⟨sent, rfl⟩ := h
  simp only [build_world]
  split <;> rfl

theorem Used.trans (h : c.Used w w') (h' : c.Used w' w'') : c.Used w w'' := by
  obtain ⟨sent, rfl⟩ := h
  obtain ⟨sent', rfl⟩ := h'
  have hb : c.isBuilt { (c.build w).2 with sent := w.sent ++ sent } = true := c.isBuilt_build w
  exact ⟨sent ++ sent', by rw [build_of_built hb]; simp⟩

end Client

namespace Act

/-- Nothing is left behind. -/
def Still (x : Act α) : Prop := ∀ w, (x w).2 = w

def Uses (c : Client) (x : Act α) : Prop := ∀ w, c.Used w (x w).2

theorem still_pure (a : α) : Still (pure a) := fun _ => rfl

theorem still_bind {x : Act α} {f : α → Act β} (hx : x.Still) (hf : ∀ a, (f a).Still) :
    (x >>= f).Still := by
  intro w
  change (f (x w).1 (x w).2).2 = w
  rw [hf, hx]

theorem uses_bind {x : Act α} {f : α → Act β} (hx : x.Uses c)
    (hf : ∀ a, (f a).Uses c ∨ (f a).Still) : (x >>= f).Uses c := by
  intro w
  change c.Used w (f (x w).1 (x w).2).2
  rcases hf (x w).1 with hf | hf
  · exact (hx w).trans (hf _)
  · rw [hf]
    exact hx w

end Act

namespace Attempt

theorem still_throw (e : Failure) : (throw e : Attempt α).run.Still := fun _ => rfl

theorem still_map_ofExcept (f : α → β) (x : Except Failure α) : (f <$> ofExcept x).run.Still :=
  fun w => congrArg Prod.snd (map_ofExcept f x w)

theorem still_onDisk (f : Disk → Except Failure α) : (Attempt.onDisk f).run.Still := fun _ => rfl

theorem still_bind {x : Attempt α} {f : α → Attempt β} (hx : x.run.Still)
    (hf : ∀ a, (f a).run.Still) : (x >>= f).run.Still := by
  rw [ExceptT.run_bind]
  refine Act.still_bind hx fun outcome => ?_
  cases outcome with
  | ok a => exact hf a
  | error e => exact Act.still_pure _

theorem uses_bind {x : Attempt α} {f : α → Attempt β} (hx : x.run.Uses c)
    (hf : ∀ a, (f a).run.Uses c ∨ (f a).run.Still) : (x >>= f).run.Uses c := by
  rw [ExceptT.run_bind]
  refine Act.uses_bind hx fun outcome => ?_
  cases outcome with
  | ok a => exact hf a
  | error e => exact Or.inr (Act.still_pure _)

theorem uses_lift {x : Act α} (hx : x.Uses c) : (liftM x : Attempt α).run.Uses c :=
  Act.uses_bind hx fun _ => Or.inr (Act.still_pure _)

theorem uses_succeeds {x : Attempt α} (hx : x.run.Uses c) : x.succeeds.Uses c := by
  refine Act.uses_bind hx fun outcome => Or.inr ?_
  cases outcome <;> exact Act.still_pure _

end Attempt

theorem Client.uses_fetch (c : Client) (m : Method) (u : Url) : (c.fetch m u).Uses c :=
  fun w => ⟨((c.build w).2.web.fetch m u).2, by
    have hs : (c.build w).2.sent = w.sent := by
      rw [build_world]
      split <;> rfl
    rw [← hs]
    rfl⟩

/-! ### Calls -/

/-- Does the call ask the web when the resource is there? -/
def Question.fetches : Question α → Bool
  | present | readable | contentLength | lastModified => true
  | _ => false

def Call.fetches : Call α → Bool
  | ask q => q.fetches
  | relative _ => false
  | take _ => true

/-- Whatever is made of a stream, only opening it touches the world. -/
theorem Resource.take_world {r : Resource} (hc : r.StreamsChannels) (t : Taking α) (w : World) :
    (r.take t w).2 = (r.openStream w).2 := by
  rcases hs : r.openStream w with ⟨outcome, w'⟩
  cases outcome with
  | ok s => exact congrArg Prod.snd (take_of_open hc hs t)
  | error f => exact congrArg Prod.snd (take_of_open_error hc hs t)

namespace UrlHandle

variable {h : UrlHandle}

theorem streamsChannels : h.resource.StreamsChannels := rfl

theorem uses_fetch (m : Method) : (h.fetch m).run.Uses h.client := by
  refine Attempt.uses_bind (Attempt.uses_lift (h.client.uses_fetch m h.url)) fun outcome => Or.inr ?_
  cases outcome with
  | ok r => exact Act.still_pure _
  | error f => exact Attempt.still_throw _

theorem still_checked (r : Response) : (h.checked r).run.Still := by
  unfold checked
  split
  · exact Act.still_pure _
  · exact Attempt.still_throw _

theorem uses_get : h.get.run.Uses h.client :=
  Attempt.uses_bind (uses_fetch .get) fun r => Or.inr (still_checked r)

theorem uses_header (name : String) : (h.header name).run.Uses h.client := by
  refine Attempt.uses_bind (uses_fetch .head) fun r => Or.inr ?_
  refine Attempt.still_bind (still_checked r) fun r => ?_
  cases r.headerText? name with
  | some t => exact Act.still_pure _
  | none => exact Attempt.still_throw _

theorem uses_presentOnWeb : h.presentOnWeb.Uses h.client := by
  refine Act.uses_bind (uses_fetch .head) fun outcome => ?_
  cases outcome with
  | error f => exact Or.inr (Act.still_pure _)
  | ok r =>
    simp only
    split
    · exact Or.inl (Attempt.uses_succeeds uses_get)
    · exact Or.inr (Act.still_pure _)

theorem localPath_of_isHttp (hh : h.isHttp = true) : h.localPath? = none := by
  cases hp : h.localPath? with
  | none => rfl
  | some p => rw [isHttp_of_localPath hp] at hh; cases hh

theorem uses_openStream (hh : h.isHttp = true) : h.openStream.run.Uses h.client := by
  rw [openStream_eq_get hh]
  exact Attempt.uses_bind uses_get fun r => Or.inr (Act.still_pure _)

theorem uses_ask (hh : h.isHttp = true) (q : Question α) (hq : q.fetches = true) :
    (h.resource.ask q).Uses h.client := by
  have hpresent : h.present.Uses h.client := by
    rw [present, if_pos hh]
    exact uses_presentOnWeb
  cases q with
  | present => exact hpresent
  | readable =>
    change h.readable.Uses h.client
    rw [readable, localPath_of_isHttp hh]
    exact hpresent
  | contentLength =>
    change h.contentLength.run.Uses h.client
    simp only [contentLength, hh, if_true]
    refine Attempt.uses_bind (uses_header _) fun value => Or.inr ?_
    split
    · exact Act.still_pure _
    · exact Attempt.still_throw _
  | lastModified =>
    change h.lastModified.run.Uses h.client
    simp only [lastModified, hh, if_true]
    refine Attempt.uses_bind (uses_header _) fun value => Or.inr ?_
    split
    · exact Act.still_pure _
    · exact Attempt.still_throw _
  | _ => simp [Question.fetches] at hq

/-- Every call that looks for the resource uses the client, whatever the web answers. -/
theorem uses_call (hh : h.isHttp = true) (k : Call α) (hk : k.fetches = true) :
    (h.resource.call k).Uses h.client := by
  cases k with
  | ask q => exact uses_ask hh q hk
  | relative path => simp [Call.fetches] at hk
  | take t =>
    intro w
    change h.client.Used w (h.resource.take t w).2
    rw [Resource.take_world streamsChannels]
    exact uses_openStream hh w

/-- What is not on the web is looked for on the disk or nowhere. -/
theorem still_ask_of_local (hh : h.isHttp = false) (q : Question α) : (h.resource.ask q).Still := by
  have hpresent : h.present.Still := by
    simp only [present, hh, Bool.false_eq_true, if_false]
    cases h.localPath? <;> exact fun _ => rfl
  cases q with
  | present => exact hpresent
  | readable =>
    change h.readable.Still
    unfold readable
    cases h.localPath? with
    | some p => exact fun _ => rfl
    | none => exact hpresent
  | contentLength =>
    change h.contentLength.run.Still
    simp only [contentLength, hh, Bool.false_eq_true, if_false]
    cases h.localPath? with
    | some p => exact Attempt.still_bind (Attempt.still_onDisk _) fun m => Act.still_pure _
    | none => exact Attempt.still_throw _
  | lastModified =>
    change h.lastModified.run.Still
    simp only [lastModified, hh, Bool.false_eq_true, if_false]
    cases h.localPath? with
    | some p => exact Attempt.still_bind (Attempt.still_onDisk _) fun m => Act.still_pure _
    | none => exact Attempt.still_throw _
  | _ => exact fun _ => rfl

theorem still_openStream (hh : h.isHttp = false) : h.openStream.run.Still := by
  cases hp : h.localPath? with
  | some p =>
    rw [openStream_eq_onDisk hp]
    exact Attempt.still_onDisk _
  | none =>
    rw [openStream_eq_throw hh hp]
    exact Attempt.still_throw _

/-- No other call touches the world. -/
theorem still_call (k : Call α) (hk : (h.isHttp && k.fetches) = false) :
    (h.resource.call k).Still := by
  cases k with
  | relative path => exact Attempt.still_map_ofExcept _ _
  | ask q =>
    cases hh : h.isHttp with
    | false => exact still_ask_of_local hh q
    | true =>
      have hq : q.fetches = false := by simpa [hh, Call.fetches] using hk
      cases q with
      | present | readable | contentLength | lastModified => cases hq
      | _ => exact fun _ => rfl
  | take t =>
    have hh : h.isHttp = false := by simpa [Call.fetches] using hk
    intro w
    change (h.resource.take t w).2 = w
    rw [Resource.take_world streamsChannels]
    exact still_openStream hh w

end UrlHandle

/-- A file is looked for on the disk alone. -/
theorem FileHandle.still_call (h : FileHandle) (k : Call α) : (h.resource.call k).Still := by
  intro w
  cases k with
  | ask q => cases q <;> rfl
  | relative path => exact Attempt.still_map_ofExcept _ _ w
  | take t =>
    have hc : h.resource.StreamsChannels := rfl
    exact Resource.take_world hc t w

theorem ClassPathHandle.still_call (h : ClassPathHandle) (k : Call α) :
    (h.resource.call k).Still := by
  intro w
  cases k with
  | ask q => cases q <;> rfl
  | relative path => exact Attempt.still_map_ofExcept _ _ w
  | take t => exact Resource.take_world streamsChannels t w

theorem BytesHandle.still_call (h : BytesHandle) (k : Call α) : (h.resource.call k).Still := by
  cases k with
  | ask q => cases q <;> exact fun _ => rfl
  | relative path => exact fun _ => rfl
  | take t =>
    cases t with
    | stream | channel | bytes | json => exact fun _ => rfl
    | text =>
      refine Attempt.still_bind (x := h.resource.readBytes) (fun _ => rfl) fun b => ?_
      cases Utf8.decode b with
      | ok cs => exact Act.still_pure _
      | error m => exact Attempt.still_throw _

namespace Handle

/-- The client of a URL. No other handle has one. -/
def client? : Handle → Option Client
  | url h => some h.client
  | _ => none

/-- The client that a call asks through, if it asks the web. -/
def asks? (h : Handle) (k : Call α) : Option Client :=
  match h with
  | url h => if h.isHttp && k.fetches then some h.client else none
  | _ => none

theorem uses_of_asks {h : Handle} {k : Call α} (hk : h.asks? k = some c) :
    (h.resource.call k).Uses c := by
  cases h with
  | url h =>
    simp only [asks?, Option.ite_none_right_eq_some, Bool.and_eq_true, Option.some_inj] at hk
    obtain ⟨⟨hh, hf⟩, rfl⟩ := hk
    exact UrlHandle.uses_call hh k hf
  | _ => cases hk

theorem client_of_asks {h : Handle} {k : Call α} (hk : h.asks? k = some c) : h.client? = some c := by
  cases h with
  | url h =>
    simp only [asks?, Option.ite_none_right_eq_some] at hk
    exact hk.2
  | _ => cases hk

/-- Any other call builds nothing and makes nothing new. -/
theorem frame_of_not_asks {h : Handle} {k : Call α} (hk : h.asks? k = none) (w : World) :
    (h.resource.call k w).2.built = w.built ∧ (h.resource.call k w).2.next = w.next := by
  have frame {r : Resource} (hr : (r.call k).Still) :
      (r.call k w).2.built = w.built ∧ (r.call k w).2.next = w.next := by
    rw [hr w]
    exact ⟨rfl, rfl⟩
  cases h with
  | file h => exact frame (h.still_call k)
  | classPath h => exact frame (h.still_call k)
  | bytes h => exact frame (h.still_call k)
  | url h =>
    refine frame (UrlHandle.still_call k ?_)
    simpa [asks?] using hk
  | stream h =>
    change (h.resource.call k w).2.built = w.built ∧ (h.resource.call k w).2.next = w.next
    rw [StreamHandle.call_world]
    split <;> exact ⟨rfl, rfl⟩

end Handle

end Resources
