import Resources.Proofs.Resource.Calls

/-! How attempts fail, and how taking content does. What is absent is told as absent, and never as a
fault of the outside world. -/
namespace Resources

variable {α β : Type} {P : Failure → Prop} {e : Failure} {d : String} {w : World}

/-! ### Failures of attempts -/

namespace Failure

/-- Failures to get at what a resource has, which is described so. That it is absent is never told
as a fault of the outside world. -/
inductive Reports (d : String) : Failure → Prop
  | absent : Reports d (.notFound d)
  | unresolved (reason : String) : Reports d (.resolution d reason)
  | faulty (operation : String) {f : Fault} : f.kind ≠ .notFound → Reports d (.io operation d f)
  | refused (reason : String) : Reports d (.http d reason)

theorem reports_ofFault (operation d : String) (f : Fault) : (ofFault operation d f).Reports d := by
  unfold ofFault
  split
  · exact .absent
  · exact .faulty operation ‹_›

theorem reports_badData (operation d reason : String) :
    (Resource.badData operation d reason).Reports d :=
  .faulty operation (by simp)

theorem reports_of_mapError {x : Except Fault α} {operation : String}
    (h : x.mapError (ofFault operation d) = .error e) : e.Reports d := by
  cases x with
  | ok a => cases h
  | error f =>
    obtain rfl := Except.error.inj h
    exact reports_ofFault operation d f

theorem reports_of_bind_mapError {x : Except Fault α} {f : α → Except Failure β}
    {operation : String} (hf : ∀ a, ∃ b, f a = .ok b)
    (h : (x.mapError (ofFault operation d) >>= f) = .error e) : e.Reports d := by
  cases x with
  | error f =>
    obtain rfl := Except.error.inj h
    exact reports_ofFault operation d f
  | ok a =>
    obtain ⟨b, hb⟩ := hf a
    change f a = .error e at h
    rw [hb] at h
    cases h

end Failure

/-- Whatever the world, a failure is one of these. -/
def Attempt.FailsAs (P : Failure → Prop) (x : Attempt α) : Prop :=
  ∀ w e, (x w).1 = .error e → P e

namespace Attempt

theorem failsAs_pure (a : α) : FailsAs P (pure a : Attempt α) := fun _ _ h => by cases h

theorem failsAs_throw (h : P e) : FailsAs P (throw e : Attempt α) := fun _ _ he => by
  obtain rfl := Except.error.inj he
  exact h

theorem failsAs_lift (x : Act α) : FailsAs P (liftM x : Attempt α) := fun _ _ h => by cases h

theorem failsAs_bind {x : Attempt α} {f : α → Attempt β} (hx : x.FailsAs P)
    (hf : ∀ a, (f a).FailsAs P) : (x >>= f).FailsAs P := by
  intro w e he
  rcases hw : x w with ⟨outcome, w'⟩
  cases outcome with
  | ok a =>
    rw [bind_of_ok f hw] at he
    exact hf a w' e he
  | error e' =>
    rw [bind_of_error f hw] at he
    obtain rfl := Except.error.inj he
    exact hx w e' (by rw [hw])

theorem failsAs_onDisk {f : Disk → Except Failure α} (h : ∀ d e, f d = .error e → P e) :
    (onDisk f).FailsAs P := fun w e he => h w.disk e he

end Attempt

/-! ### Content -/

/-- Taking an open stream fails only as reading or understanding it does. -/
theorem Taking.reports_ofStream {disk : Disk} {s : Stream} (t : Taking α)
    (h : t.ofStream d disk s = .error e) : e.Reports d := by
  cases t with
  | stream => cases h
  | channel => cases h
  | bytes => exact Failure.reports_of_mapError h
  | text =>
    rw [ofStream] at h
    cases hb : (s.take disk none).1.mapError (Failure.ofFault "read" d) with
    | error f =>
      rw [hb] at h
      obtain rfl := Except.error.inj h
      exact Failure.reports_of_mapError hb
    | ok b =>
      simp only [hb, bind, Except.bind, decoded] at h
      cases hu : Utf8.decode b with
      | ok cs => rw [hu] at h; cases h
      | error m =>
        rw [hu] at h
        obtain rfl := Except.error.inj h
        exact Failure.reports_badData _ _ _
  | json scan =>
    rw [ofStream] at h
    cases hj : Json.readFeed scan ⟨(s.remaining disk).1, (s.remaining disk).2⟩ with
    | ok a => rw [hj] at h; cases h
    | error stop =>
      rw [hj] at h
      obtain rfl := Except.error.inj h
      exact Failure.reports_badData _ _ _

/-- Taking content fails as opening the stream does, or as the stream itself. -/
theorem Resource.reports_take {r : Resource} (hc : r.StreamsChannels)
    (ho : r.openStream.FailsAs (Failure.Reports r.description)) (t : Taking α) :
    (r.take t).FailsAs (Failure.Reports r.description) := by
  intro w e he
  rcases hs : r.openStream w with ⟨outcome, w'⟩
  cases outcome with
  | ok s =>
    rw [take_of_open hc hs] at he
    exact t.reports_ofStream he
  | error f =>
    rw [take_of_open_error hc hs] at he
    obtain rfl := Except.error.inj he
    exact ho w f (by rw [hs])

/-! ### How calls fail -/

/-- The failure in an answer, if it is one. -/
def failureIn : Except Failure α → Option Failure
  | .ok _ => none
  | .error e => some e

@[simp] theorem failureIn_eq_some {x : Except Failure α} :
    failureIn x = some e ↔ x = .error e := by
  cases x <;> simp [failureIn]

def Question.failure? : {α : Type} → Question α → α → Option Failure
  | _, .url, x | _, .uri, x => failureIn x
  | _, .file, x => failureIn x
  | _, .contentLength, x => failureIn x
  | _, .lastModified, x => failureIn x
  | _, .present, _ | _, .readable, _ | _, .isOpen, _ | _, .isFile, _ => none
  | _, .fileName, _ => none
  | _, .description, _ => none
  | _, .kind, _ => none

/-- The failure that a call answers with, if it does. -/
def Call.failure? : {α : Type} → Call α → α → Option Failure
  | _, .ask q, x => q.failure? x
  | _, .relative _, x => failureIn x
  | _, .take _, x => failureIn x

theorem Failure.ofFault_of_absent {operation : String} {f : Fault} (hf : f.kind = .notFound) :
    ofFault operation d f = .notFound d := if_pos hf

/-- Is the stream read to its end, and each fault on the way told as it is? -/
def Taking.drains : Taking α → Bool
  | bytes | text => true
  | _ => false

theorem Resource.failure_of_drained {r : Resource} {s : Stream} {w' : World} {b : Bytes} {f : Fault}
    (ho : r.openStream w = (.ok s, w')) (hs : s.Flows) (hr : s.remaining w'.disk = (b, some f))
    (hf : f.kind = .notFound) {t : Taking α} (ht : t.drains = true) :
    (r.take t w).1 = .error (.notFound r.description) := by
  have hb : r.readBytes w = (.error (.notFound r.description), w') := by
    rw [readBytes_of_open ho, Stream.take_none hs, Stream.whole, hr]
    simp only [Except.mapError, Failure.ofFault_of_absent hf]
  cases t with
  | bytes => exact congrArg Prod.fst hb
  | text => exact congrArg Prod.fst (Attempt.bind_of_error _ hb)
  | stream | channel | json => cases ht

end Resources
