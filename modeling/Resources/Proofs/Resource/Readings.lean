import Resources.Proofs.Resource.Reading
import Resources.Proofs.Stream.Drawn

/-! Readings of one resource under way together. Streams and channels are opened on it, and drawn
from in any order; what is drawn from one of them does not depend on the others. -/
namespace Resources

variable {d : Disk} {c : Bytes} {how : Draw} {out : Bytes} {w w' : World} {r : Resource}

/-! ### One stream or channel -/

/-- All that was drawn, in order. -/
def outputOf (xs : List (Draw × Bytes)) : Bytes := xs.flatMap (·.2)

/-- Each drawing gives what its way gives of the bytes that those before it left. -/
def Drawn : Bytes → List (Draw × Bytes) → Prop
  | _, [] => True
  | c, (how, out) :: xs => how.Gives c out ∧ Drawn (c.drop out.length) xs

theorem outputOf_concat (xs : List (Draw × Bytes)) (how : Draw) (out : Bytes) :
    outputOf (xs ++ [(how, out)]) = outputOf xs ++ out := by
  simp [outputOf]

theorem Drawn.concat {xs : List (Draw × Bytes)} (h : Drawn c xs)
    (hg : how.Gives (c.drop (outputOf xs).length) out) : Drawn c (xs ++ [(how, out)]) := by
  induction xs generalizing c with
  | nil => exact ⟨hg, trivial⟩
  | cons x xs ih =>
    refine ⟨h.1, ih h.2 ?_⟩
    rw [List.drop_drop]
    simpa [outputOf] using hg

theorem Drawn.front {xs : List (Draw × Bytes)} (h : Drawn c xs) : outputOf xs <+: c := by
  induction xs generalizing c with
  | nil => exact List.nil_prefix
  | cons x xs ih =>
    obtain ⟨rest, rfl⟩ := h.1.front
    have ht := ih h.2
    rw [List.drop_left] at ht
    exact (List.prefix_append_right_inj x.2).2 ht

/-- Once the end is told, all was drawn, and nothing comes any more. -/
theorem Drawn.whole {xs : List (Draw × Bytes)} (h : Drawn c xs)
    (he : ∃ x ∈ xs, x.1.TellsEnd x.2) : outputOf xs = c := by
  induction xs generalizing c with
  | nil =>
    obtain ⟨x, hx, -⟩ := he
    cases hx
  | cons x xs ih =>
    obtain ⟨y, hy, he⟩ := he
    rcases List.mem_cons.1 hy with rfl | hy
    · obtain rfl := h.1.whole he
      have ht := h.2.front
      rw [List.drop_length] at ht
      change y.2 ++ outputOf xs = y.2
      rw [List.prefix_nil.1 ht, List.append_nil]
    · obtain ⟨rest, rfl⟩ := h.1.front
      have ht := ih h.2 ⟨y, hy, he⟩
      rw [List.drop_left] at ht
      change x.2 ++ outputOf xs = x.2 ++ rest
      rw [ht]

/-- An open stream or channel, with what was drawn from it. -/
structure Tap where
  outlet : Outlet
  drawn : List (Draw × Bytes)
  deriving DecidableEq, Repr

namespace Tap

variable {t : Tap}

def output (t : Tap) : Bytes := outputOf t.drawn

/-- What was drawn is the front of one content, and all of it once the end was told. -/
structure ReadsAs (c : Bytes) (t : Tap) : Prop where
  front : t.output <+: c
  whole : (∃ x ∈ t.drawn, x.1.TellsEnd x.2) → t.output = c
  each : Drawn c t.drawn

/-- What was drawn is the front of one content, and what is left is behind it. -/
structure Sound (d : Disk) (c : Bytes) (t : Tap) : Prop where
  drawn : Drawn c t.drawn
  left : t.outlet.Holds d (c.drop t.output.length)

theorem sound_opened {o : Outlet} (h : o.Holds d c) : Sound d c ⟨o, []⟩ := ⟨trivial, h⟩

theorem Sound.readsAs (h : t.Sound d c) : t.ReadsAs c :=
  ⟨h.drawn.front, h.drawn.whole, h.drawn⟩

theorem Sound.drawn_on (h : t.Sound d c) {o : Outlet}
    (hg : how.Gives (c.drop t.output.length) out)
    (ho : o.Holds d ((c.drop t.output.length).drop out.length)) :
    Sound d c ⟨o, t.drawn ++ [(how, out)]⟩ where
  drawn := h.drawn.concat hg
  left := by
    rw [output, outputOf_concat, List.length_append, ← List.drop_drop]
    exact ho

end Tap

/-! ### All of them -/

/-- Do a disk and a web stand behind both worlds alike? What was sent or built may differ. -/
structure World.SameBacking (w w' : World) : Prop where
  disk : w'.disk = w.disk
  web : w'.web = w.web

theorem World.SameBacking.refl (w : World) : w.SameBacking w := ⟨rfl, rfl⟩

theorem World.SameBacking.trans {w'' : World} (h : w.SameBacking w') (h' : w'.SameBacking w'') :
    w.SameBacking w'' := ⟨h'.disk.trans h.disk, h'.web.trans h.web⟩

/-- As long as the disk and the web stay, whatever is opened gives these bytes, from the first. -/
structure Resource.HandsOut (r : Resource) (w : World) (c : Bytes) : Prop where
  stream : ∀ w', w.SameBacking w' → ∃ s w'', r.openStream w' = (.ok s, w'') ∧
    w.SameBacking w'' ∧ s.Holds w.disk c
  channel : ∀ w', w.SameBacking w' → ∃ ch w'', r.openChannel w' = (.ok ch, w'') ∧
    w.SameBacking w'' ∧ ch.Holds w.disk c

/-- The world, and all that was opened. -/
structure Readings where
  world : World
  taps : List Tap

namespace Readings

/-- What is done in turn: a stream or a channel is opened, some bytes are drawn from one that is
open, or something else happens in the world that leaves the disk and the web alone. -/
inductive Step where
  | stream
  | channel
  | draw (i : Nat) (how : Draw)
  | elsewhere (w : World)

/-- Draws from one that is open. Nothing comes of what cannot be drawn from; a fault ends all. -/
def draw (k : Readings) (i : Nat) (how : Draw) : Option Readings :=
  match k.taps[i]? with
  | none => some k
  | some t =>
    match t.outlet.draw k.world.disk how with
    | none => some k
    | some (.ok (out, o)) => some { k with taps := k.taps.set i ⟨o, t.drawn ++ [(how, out)]⟩ }
    | some (.error _) => none

/-- One step, if it does not fail. -/
def step (r : Resource) (k : Readings) : Step → Option Readings
  | .stream =>
    match r.openStream k.world with
    | (.ok s, w) => some ⟨w, k.taps ++ [⟨.stream s, []⟩]⟩
    | (.error _, _) => none
  | .channel =>
    match r.openChannel k.world with
    | (.ok c, w) => some ⟨w, k.taps ++ [⟨.channel c, []⟩]⟩
    | (.error _, _) => none
  | .draw i how => k.draw i how
  | .elsewhere w => some { k with world := { w with disk := k.world.disk, web := k.world.web } }

def run (r : Resource) (w : World) (steps : List Step) : Option Readings :=
  steps.foldlM (step r) ⟨w, []⟩

/-- The disk and the web are as at the start, and each stream and channel reads as one content. -/
structure Sound (w : World) (c : Bytes) (k : Readings) : Prop where
  backing : w.SameBacking k.world
  taps : ∀ t ∈ k.taps, t.Sound w.disk c

variable {k : Readings}

theorem Sound.opened (h : k.Sound w c) {o : Outlet} (hw : w.SameBacking w')
    (ho : o.Holds w.disk c) : Sound w c ⟨w', k.taps ++ [⟨o, []⟩]⟩ where
  backing := hw
  taps := by
    intro t ht
    rcases List.mem_append.1 ht with ht | ht
    · exact h.taps t ht
    · obtain rfl := List.mem_singleton.1 ht
      exact Tap.sound_opened ho

theorem Sound.draw (h : k.Sound w c) (i : Nat) (how : Draw) :
    ∃ k', k.draw i how = some k' ∧ k'.Sound w c := by
  unfold Readings.draw
  cases hi : k.taps[i]? with
  | none => exact ⟨k, rfl, h⟩
  | some t =>
    have ht := h.taps t (List.mem_of_getElem? hi)
    rw [h.backing.disk]
    rcases ht.left.draw how with hd | ⟨out, o, hd, hg, ho⟩
    · exact ⟨k, by simp only [hd], h⟩
    · refine ⟨{ k with taps := k.taps.set i ⟨o, t.drawn ++ [(how, out)]⟩ }, by simp only [hd],
        h.backing, fun t' ht' => ?_⟩
      rcases List.mem_or_eq_of_mem_set ht' with ht' | rfl
      · exact h.taps t' ht'
      · exact ht.drawn_on hg ho

/-- No step fails, and each keeps every stream and channel in its place in the content. -/
theorem Sound.step (hr : r.HandsOut w c) (h : k.Sound w c) (x : Step) :
    ∃ k', Readings.step r k x = some k' ∧ k'.Sound w c := by
  cases x with
  | stream =>
    obtain ⟨s, w', ho, hw, hs⟩ := hr.stream k.world h.backing
    exact ⟨_, by simp only [Readings.step, ho], h.opened (o := .stream s) hw hs⟩
  | channel =>
    obtain ⟨ch, w', ho, hw, hc⟩ := hr.channel k.world h.backing
    exact ⟨_, by simp only [Readings.step, ho], h.opened (o := .channel ch) hw hc⟩
  | draw i how => exact h.draw i how
  | elsewhere w' => exact ⟨_, rfl, ⟨h.backing.disk, h.backing.web⟩, h.taps⟩

theorem sound_foldlM (hr : r.HandsOut w c) (h : k.Sound w c) (steps : List Step) :
    ∃ k', steps.foldlM (Readings.step r) k = some k' ∧ k'.Sound w c := by
  induction steps generalizing k with
  | nil => exact ⟨k, rfl, h⟩
  | cons x steps ih =>
    obtain ⟨k', hk, hs⟩ := h.step hr x
    obtain ⟨k'', hk', hs'⟩ := ih hs
    exact ⟨k'', by rw [List.foldlM_cons, hk]; exact hk', hs'⟩

end Readings

/-- However many streams and channels are opened on it and drawn from, no opening and no drawing
fails, and all of them read as one content. -/
def Resource.OneContent (r : Resource) (w : World) (c : Bytes) : Prop :=
  ∀ steps, ∃ k, Readings.run r w steps = some k ∧ ∀ t ∈ k.taps, t.ReadsAs c

theorem Resource.HandsOut.oneContent (hr : r.HandsOut w c) : r.OneContent w c := by
  intro steps
  have hw : Readings.Sound w c ⟨w, []⟩ := ⟨.refl w, nofun⟩
  obtain ⟨k, hk, hs⟩ := Readings.sound_foldlM hr hw steps
  exact ⟨k, hk, fun t ht => (hs.taps t ht).readsAs⟩

end Resources
