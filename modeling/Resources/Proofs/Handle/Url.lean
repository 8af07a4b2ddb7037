import Resources.Handle.Url
import Resources.Proofs.Disk.Nodes

/-! What the web tells a URL handle. Requests leave the web as it is, so a handle is told the same
however often it asks. -/
namespace Resources

variable {α β : Type}

/-- The answer is the same in all worlds with one web, and getting it leaves the web as it is. -/
def Act.OfWeb (x : Act α) : Prop :=
  ∀ w, (x w).2.web = w.web ∧ ∀ w', w.web = w'.web → (x w).1 = (x w').1

namespace Act

theorem ofWeb_pure (a : α) : OfWeb (pure a) := fun _ => ⟨rfl, fun _ _ => rfl⟩

theorem ofWeb_bind {x : Act α} {f : α → Act β} (hx : OfWeb x) (hf : ∀ a, OfWeb (f a)) :
    OfWeb (x >>= f) := by
  intro w
  obtain ⟨hweb, hsame⟩ := hx w
  obtain ⟨hweb', hsame'⟩ := hf (x w).1 (x w).2
  refine ⟨hweb'.trans hweb, fun w' hw => ?_⟩
  change (f (x w).1 (x w).2).1 = (f (x w').1 (x w').2).1
  rw [← hsame w' hw]
  exact hsame' _ (hweb.trans (hw.trans (hx w').1.symm))

end Act

namespace Attempt

theorem ofWeb_bind {x : Attempt α} {f : α → Attempt β} (hx : x.run.OfWeb)
    (hf : ∀ a, (f a).run.OfWeb) : (x >>= f).run.OfWeb := by
  rw [ExceptT.run_bind]
  refine Act.ofWeb_bind hx fun outcome => ?_
  cases outcome with
  | ok a => exact hf a
  | error e => exact Act.ofWeb_pure _

theorem ofWeb_lift {x : Act α} (hx : x.OfWeb) : (liftM x : Attempt α).run.OfWeb :=
  Act.ofWeb_bind hx fun _ => Act.ofWeb_pure _

theorem ofWeb_succeeds {x : Attempt α} (hx : x.run.OfWeb) : x.succeeds.OfWeb := by
  refine Act.ofWeb_bind hx fun outcome => ?_
  cases outcome <;> exact Act.ofWeb_pure _

end Attempt

theorem Client.web_build (c : Client) (w : World) : (c.build w).2.web = w.web := by
  change (if c.isBuilt w then w else _).web = _
  split <;> rfl

theorem Client.ofWeb_fetch (c : Client) (m : Method) (u : Url) : (c.fetch m u).OfWeb := by
  refine Act.ofWeb_bind (fun w => ?_) fun _ w => ?_
  · exact ⟨c.web_build w, fun _ _ => rfl⟩
  · refine ⟨rfl, fun w' hw => ?_⟩
    change (w.web.fetch m u).1 = (w'.web.fetch m u).1
    rw [hw]

namespace UrlHandle

variable {h : UrlHandle}

theorem ofWeb_fetch (m : Method) : (h.fetch m).run.OfWeb := by
  refine Attempt.ofWeb_bind (Attempt.ofWeb_lift (h.client.ofWeb_fetch m h.url)) fun outcome => ?_
  cases outcome <;> exact Act.ofWeb_pure _

theorem ofWeb_get : h.get.run.OfWeb := by
  refine Attempt.ofWeb_bind (ofWeb_fetch .get) fun r => ?_
  unfold checked
  split <;> exact Act.ofWeb_pure _

theorem ofWeb_presentOnWeb : h.presentOnWeb.OfWeb := by
  refine Act.ofWeb_bind (ofWeb_fetch .head) fun outcome => ?_
  cases outcome with
  | error f => exact Act.ofWeb_pure _
  | ok r =>
    simp only
    split
    · exact Attempt.ofWeb_succeeds ofWeb_get
    · exact Act.ofWeb_pure _

/-- Only a local URL has a path, and none on the web is local. -/
theorem isHttp_of_localPath {p : FilePath} (hp : h.localPath? = some p) : h.isHttp = false := by
  unfold localPath? Url.filePath? at hp
  split at hp
  · rename_i hfile _ _
    have hs : String.ofList h.url.scheme = "file" := by
      simpa [Url.isFile, Url.hasScheme] using hfile
    simp [isHttp, Url.isHttp, Url.hasScheme, hs]
  · cases hp

/-! ### The three ways to open a URL -/

theorem openStream_eq_get (hh : h.isHttp = true) :
    h.openStream = h.get >>= fun r => pure (.source ⟨r.body, none, r.ending⟩) := by
  simp only [openStream, hh, if_true]

theorem openStream_eq_onDisk {p : FilePath} (hp : h.localPath? = some p) :
    h.openStream = .onDisk (h.openLocal p) := by
  simp only [openStream, isHttp_of_localPath hp, hp, Bool.false_eq_true, if_false]

theorem openStream_eq_throw (hh : h.isHttp = false) (hp : h.localPath? = none) :
    h.openStream = throw (.io "open" h.description h.unsupported) := by
  simp only [openStream, hh, hp, Bool.false_eq_true, if_false]

/-- What can be read is there, as long as the disk and the web stay as they are. -/
theorem present_of_readable {w w' : World} (hd : w.disk = w'.disk) (hw : w.web = w'.web)
    (hr : (h.resource.readable w).1 = true) : (h.resource.present w').1 = true := by
  change (h.readable w).1 = true at hr
  change (h.present w').1 = true
  unfold readable at hr
  unfold present at hr ⊢
  cases hp : h.localPath? with
  | some p =>
    simp only [hp, isHttp_of_localPath hp] at hr ⊢
    change w.disk.holdsFile p = true at hr
    change w'.disk.holds p = true
    rw [← hd]
    exact Disk.holds_of_holdsFile hr
  | none =>
    simp only [hp] at hr ⊢
    split at hr
    · rwa [if_pos ‹_›, ← (ofWeb_presentOnWeb w).2 w' hw]
    · cases hr

end UrlHandle

end Resources
