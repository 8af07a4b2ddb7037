import Resources.Handle.Stream
import Resources.Proofs.Resource.Calls

/-! Handles of streams that were open before. The stream is handed out to the first call that takes
content, as it was at the start, and to no call after it. -/
namespace Resources.StreamHandle

variable {α : Type} {h : StreamHandle} {w : World}

/-- The world once the stream is handed out. -/
def handOut (h : StreamHandle) (w : World) : World := { w with taken := h.id :: w.taken }

@[simp] theorem isTaken_handOut : h.isTaken (h.handOut w) = true := by
  simp [isTaken, handOut]

theorem streamsChannels : h.resource.StreamsChannels := rfl

theorem openStream_of_not_taken (hw : h.isTaken w = false) :
    h.resource.openStream w = (.ok (.source h.source), h.handOut w) := by
  change h.take w = _
  rw [take, Attempt.bind_of_ok _ (show (get : Attempt World) w = (.ok w, w) from rfl)]
  simp only [hw]
  rfl

theorem openStream_of_taken (hw : h.isTaken w = true) :
    h.resource.openStream w = (.error (.alreadyConsumed h.description), w) := by
  change h.take w = _
  rw [take, Attempt.bind_of_ok _ (show (get : Attempt World) w = (.ok w, w) from rfl)]
  simp only [hw]
  rfl

/-! ### One call -/

theorem take_of_not_taken (hw : h.isTaken w = false) (t : Taking α) : h.resource.take t w =
    (t.ofStream h.description w.disk (.source h.source), h.handOut w) :=
  Resource.take_of_open streamsChannels (openStream_of_not_taken hw) t

theorem take_of_taken (hw : h.isTaken w = true) (t : Taking α) :
    h.resource.take t w = (.error (.alreadyConsumed h.description), w) :=
  Resource.take_of_open_error streamsChannels (openStream_of_taken hw) t

/-- A call that takes nothing answers the same in every world, and leaves it as it is. -/
theorem call_of_not_takes (c : Call α) (hc : c.takes = false) :
    ∃ a, ∀ w, h.resource.call c w = (a, w) := by
  cases c with
  | ask q => cases q <;> exact ⟨_, fun w => rfl⟩
  | relative path => exact ⟨_, fun w => rfl⟩
  | take t => simp [Call.takes] at hc

/-- A call hands out the stream if it takes content and the stream is still there. -/
theorem call_world (c : Call α) :
    (h.resource.call c w).2 = if c.takes && !h.isTaken w then h.handOut w else w := by
  cases c with
  | ask q => cases q <;> rfl
  | relative path => rfl
  | take t =>
    cases hw : h.isTaken w with
    | true => exact congrArg Prod.snd (take_of_taken hw t)
    | false => exact congrArg Prod.snd (take_of_not_taken hw t)

/-- All that a run can leave behind is that the stream is gone. -/
theorem run_eq (cs : Calls) :
    h.resource.run w cs = if cs.takes && !h.isTaken w then h.handOut w else w := by
  induction cs generalizing w with
  | nil => rfl
  | cons c cs ih =>
    have htakes : Calls.takes (c :: cs) = (c.2.takes || Calls.takes cs) := List.any_cons
    rw [Resource.run_cons, call_world, ih, htakes]
    cases hc : c.2.takes with
    | false => rfl
    | true =>
      cases hw : h.isTaken w with
      | false => simp
      | true => simp [hw]

/-- The stream is gone when some call has taken content, and only then. Until then a taking gets
all of it, from then on it fails, and every other call answers as at the start. -/
theorem handed_out_once (hw : h.isTaken w = false) (cs : Calls) :
    h.isTaken (h.resource.run w cs) = cs.takes ∧
    (∀ {α : Type} (t : Taking α), (h.resource.take t (h.resource.run w cs)).1 =
      if cs.takes then .error (.alreadyConsumed h.description)
      else t.ofStream h.description w.disk (.source h.source)) ∧
    ∀ {α : Type} (c : Call α), c.takes = false →
      h.resource.call c (h.resource.run w cs) = ((h.resource.call c w).1, h.resource.run w cs) := by
  have ht : h.isTaken (h.resource.run w cs) = cs.takes := by
    rw [run_eq, hw]
    cases cs.takes <;> simp [hw]
  refine ⟨ht, ?_, ?_⟩
  · intro α t
    cases hc : cs.takes with
    | true =>
      rw [hc] at ht
      simp [take_of_taken ht]
    | false =>
      have he : h.resource.run w cs = w := by simp [run_eq, hc]
      simp [he, take_of_not_taken hw]
  · intro α c hc
    obtain ⟨a, ha⟩ := call_of_not_takes (h := h) c hc
    rw [ha, ha]

/-- A stream that breaks off behind its first byte. -/
def upload : StreamHandle := ⟨0, ⟨[0x61], some 1, some ⟨.timedOut, "timed out"⟩⟩, "upload"⟩

def uploadWorld : World where
  disk := { entries := [], bodies := [], home := [] }
  web := ⟨[], false⟩
  sent := []
  built := []
  taken := []
  next := 1

/-- The stream is gone even though its one reading failed. -/
theorem handed_out_once_failing :
    upload.isTaken uploadWorld = false ∧
    (upload.resource.take .bytes
      (upload.resource.run uploadWorld [⟨_, .ask .contentLength⟩])).1 =
        .error (.io "read" upload.description ⟨.timedOut, "timed out"⟩) ∧
    (upload.resource.take .text
      (upload.resource.run uploadWorld [⟨_, .ask .contentLength⟩, ⟨_, .take .bytes⟩])).1 =
        .error (.alreadyConsumed upload.description) := by
  have hw : upload.isTaken uploadWorld = false := rfl
  exact ⟨hw, (handed_out_once hw _).2.1 .bytes, (handed_out_once hw _).2.1 .text⟩

end Resources.StreamHandle
