import Resources.Proofs.Stream.Whole
import Resources.Resource

/-! Attempts one after the other, and resources that are read whole. -/
namespace Resources

namespace Attempt

variable {α β : Type} {x : Attempt α} {a : α} {e : Failure} {w w' : World}

theorem bind_of_ok (f : α → Attempt β) (h : x w = (.ok a, w')) : (x >>= f) w = f a w' := by
  simp only [bind, ExceptT.bind, ExceptT.mk, StateT.bind, h]
  rfl

theorem bind_of_error (f : α → Attempt β) (h : x w = (.error e, w')) :
    (x >>= f) w = (.error e, w') := by
  simp only [bind, ExceptT.bind, ExceptT.mk, StateT.bind, h]
  rfl

theorem map_of_ok (f : α → β) (h : x w = (.ok a, w')) : (f <$> x) w = (.ok (f a), w') := by
  simp only [Functor.map, ExceptT.map, ExceptT.mk, StateT.bind, bind, h]
  rfl

theorem map_of_error (f : α → β) (h : x w = (.error e, w')) : (f <$> x) w = (.error e, w') := by
  simp only [Functor.map, ExceptT.map, ExceptT.mk, StateT.bind, bind, h]
  rfl

theorem map_ofExcept (f : α → β) (x : Except Failure α) (w : World) :
    (f <$> ofExcept x) w = (x.map f, w) := by
  cases x <;> rfl

theorem map_ofExcept_eq_ok {f : α → β} {x : Except Failure α} {b : β}
    (h : ((f <$> ofExcept x) w).1 = .ok b) : ∃ a, x = .ok a ∧ b = f a := by
  rw [map_ofExcept] at h
  cases x with
  | ok a => exact ⟨a, rfl, (Except.ok.inj h).symm⟩
  | error e => cases h

theorem map_ofExcept_eq_error {f : α → β} {x : Except Failure α}
    (h : ((f <$> ofExcept x) w).1 = .error e) : x = .error e := by
  rw [map_ofExcept] at h
  cases x with
  | ok a => cases h
  | error e' => exact congrArg Except.error (Except.error.inj h)

end Attempt

namespace Resource

variable {r : Resource} {s : Stream} {f : Failure} {w w' : World}

theorem readBytes_of_open (h : r.openStream w = (.ok s, w')) : r.readBytes w =
    ((s.take w'.disk none).1.mapError (Failure.ofFault "read" r.description), w') :=
  Attempt.bind_of_ok _ h

theorem readBytes_of_open_error (h : r.openStream w = (.error f, w')) :
    r.readBytes w = (.error f, w') :=
  Attempt.bind_of_error _ h

end Resource

end Resources
