import Resources.Proofs.Json.Grammar

/-! Two scans of the same bytes. Behind them the first finds an end or a fault, and the second may find
more bytes where the first finds a fault. Both do the same until then. -/
namespace Resources.Json

open Scan (peek skip next upcoming isBlank)

variable {α β : Type} {b r t : Bytes} {y : UInt8} {f g : Feed}

/-! ### Blanks -/

theorem Blanks.refl (t : Bytes) : Blanks t t := ⟨[], rfl, by simp⟩

theorem Blanks.trans {u : Bytes} (h : Blanks t u) (h' : Blanks u r) : Blanks t r := by
  obtain ⟨bs, rfl, hbs⟩ := h
  obtain ⟨bs', rfl, hbs'⟩ := h'
  refine ⟨bs ++ bs', (List.append_assoc _ _ _).symm, fun y hy => ?_⟩
  exact (List.mem_append.1 hy).elim (hbs y) (hbs' y)

theorem Blanks.length_le (h : Blanks t r) : r.length ≤ t.length := by
  obtain ⟨bs, rfl, -⟩ := h
  simp

namespace Scan

theorem bind_of_ok {m : Scan α} {a : α} (k : α → Scan β) (h : m f = .ok (a, g)) :
    (m >>= k) f = k a g := by
  simp only [bind, StateT.bind, h]
  rfl

theorem bind_of_error {m : Scan α} {s : Stop} (k : α → Scan β) (h : m f = .error s) :
    (m >>= k) f = .error s := by
  simp only [bind, StateT.bind, h]
  rfl

theorem fail_bind (cause : Cause) (reach : Reach) (k : α → Scan β) :
    fail cause reach >>= k = fail cause reach := rfl

theorem peek_cons (y : UInt8) (t : Bytes) (e : Option Fault) :
    peek ⟨y :: t, e⟩ = .ok (some y, ⟨y :: t, e⟩) := rfl

theorem skip_cons (y : UInt8) (t : Bytes) (e : Option Fault) :
    skip ⟨y :: t, e⟩ = .ok ((), ⟨t, e⟩) := rfl

theorem next_eq : next = peek >>= fun o => skip >>= fun _ => pure o := rfl

/-- Takes all bytes in front that pass, and looks at the one behind them. -/
def taking (p : UInt8 → Bool) : Scan (Bytes × Option UInt8) := fun f =>
  (peek { f with rest := f.rest.dropWhile p }).map fun x => ((f.rest.takeWhile p, x.1), x.2)

theorem taking_append {p : UInt8 → Bool} {bs : Bytes} (hbs : ∀ y ∈ bs, p y = true)
    (hr : ∀ y ∈ r.head?, p y = false) (e : Option Fault) :
    taking p ⟨bs ++ r, e⟩ = (peek ⟨r, e⟩).map fun x => ((bs, x.1), x.2) := by
  have hstop : r.takeWhile p = [] ∧ r.dropWhile p = r := by
    cases r with
    | nil => exact ⟨rfl, rfl⟩
    | cons y t => simp [hr y rfl]
  unfold taking
  simp only [List.takeWhile_append_of_pos hbs, List.dropWhile_append_of_pos hbs, hstop.1, hstop.2,
    List.append_nil]

theorem upcoming_eq : upcoming = taking isBlank >>= fun x => pure x.2 := by
  funext f
  change peek { f with rest := f.rest.dropWhile isBlank } =
    (peek { f with rest := f.rest.dropWhile isBlank }).map _ >>= _
  cases peek { f with rest := f.rest.dropWhile isBlank } <;> rfl

theorem digits_eq : digits = taking isDigit >>= fun x => pure (x.1.map fun y => y.toNat - 0x30) := by
  funext f
  change peek { f with rest := f.rest.dropWhile isDigit } >>= _ =
    (peek { f with rest := f.rest.dropWhile isDigit }).map _ >>= _
  cases peek { f with rest := f.rest.dropWhile isDigit } <;> rfl

/-! ### Where the bytes end -/

theorem peek_of (r : Bytes) : peek ⟨r, none⟩ = .ok (r.head?, ⟨r, none⟩) := by
  cases r <;> rfl

theorem next_cons (y : UInt8) (t : Bytes) (e : Option Fault) :
    next ⟨y :: t, e⟩ = .ok (some y, ⟨t, e⟩) := rfl

theorem taking_of {p : UInt8 → Bool} {bs : Bytes} (hbs : ∀ y ∈ bs, p y = true)
    (hr : ∀ y ∈ r.head?, p y = false) :
    taking p ⟨bs ++ r, none⟩ = .ok ((bs, r.head?), ⟨r, none⟩) := by
  rw [taking_append hbs hr, peek_of]
  rfl

theorem upcoming_of (h : Blanks t r) (hr : ∀ y ∈ r.head?, isBlank y = false) :
    upcoming ⟨t, none⟩ = .ok (r.head?, ⟨r, none⟩) := by
  obtain ⟨bs, rfl, hbs⟩ := h
  rw [upcoming_eq, bind_of_ok _ (taking_of hbs hr)]
  rfl

theorem upcoming_cons (h : Blanks t (y :: r)) (hy : isBlank y = false) :
    upcoming ⟨t, none⟩ = .ok (some y, ⟨y :: r, none⟩) :=
  upcoming_of h (by simpa using hy)

theorem upcoming_end (h : Blanks t []) : upcoming ⟨t, none⟩ = .ok (none, ⟨[], none⟩) :=
  upcoming_of h (by simp)

end Scan

/-- What stands behind the bytes that two scans have in common. -/
structure Outlook where
  ending : Option Fault
  more : Bytes
  ending' : Option Fault
  same : ending = none → more = [] ∧ ending' = none

/-- Of two scans that may take a step for each byte, the second has steps left over. -/
theorem Outlook.fuel (o : Outlook) (b : Bytes) :
    (b ++ o.more).length.succ = b.length.succ + o.more.length := by
  rw [List.length_append, Nat.succ_add]

/-- Side by side two scans go through the bytes `b`. The first fails for its fault, or both fail, or
both read the same. -/
inductive Abreast (o : Outlook) (m m' : Scan α) (b : Bytes) (G : α → Bytes → Prop) : Prop where
  | faulted {x : Fault} {s : Stop} (fault : o.ending = some x) (failed : m ⟨b, o.ending⟩ = .error s)
      (cause : s.cause = .fault x)
  | refused {s s' : Stop} (failed : m ⟨b, o.ending⟩ = .error s)
      (failed' : m' ⟨b ++ o.more, o.ending'⟩ = .error s')
  | read {a : α} {r : Bytes} (done : m ⟨b, o.ending⟩ = .ok (a, ⟨r, o.ending⟩))
      (done' : m' ⟨b ++ o.more, o.ending'⟩ = .ok (a, ⟨r ++ o.more, o.ending'⟩)) (means : G a r)

namespace Abreast

variable {o : Outlook} {m m' : Scan α} {k k' : α → Scan β} {G : α → Bytes → Prop}
  {H : β → Bytes → Prop}

theorem pure {a : α} (h : G a b) : Abreast o (Pure.pure a) (Pure.pure a) b G :=
  .read rfl rfl h

theorem fail (cause : Cause) (reach : Reach) :
    Abreast o (Scan.fail cause reach) (Scan.fail cause reach) b G :=
  .refused rfl rfl

theorem mono {G' : α → Bytes → Prop} (h : Abreast o m m' b G) (hG : ∀ a r, G a r → G' a r) :
    Abreast o m m' b G' := by
  cases h with
  | faulted hx hs hc => exact .faulted hx hs hc
  | refused hs hs' => exact .refused hs hs'
  | read hd hd' ha => exact .read hd hd' (hG _ _ ha)

theorem bind (h : Abreast o m m' b G) (hk : ∀ a r, G a r → Abreast o (k a) (k' a) r H) :
    Abreast o (m >>= k) (m' >>= k') b H := by
  cases h with
  | faulted hx hs hc => exact .faulted hx (Scan.bind_of_error k hs) hc
  | refused hs hs' => exact .refused (Scan.bind_of_error k hs) (Scan.bind_of_error k' hs')
  | read hd hd' ha =>
    cases hk _ _ ha with
    | faulted hx hs hc => exact .faulted hx ((Scan.bind_of_ok k hd).trans hs) hc
    | refused hs hs' =>
      exact .refused ((Scan.bind_of_ok k hd).trans hs) ((Scan.bind_of_ok k' hd').trans hs')
    | read hr hr' hb =>
      exact .read ((Scan.bind_of_ok k hd).trans hr) ((Scan.bind_of_ok k' hd').trans hr') hb

/-- A look at the next byte. A fault shows itself here. -/
theorem peek : Abreast o Scan.peek Scan.peek b
    fun x r => r = b ∧ x = b.head? ∧ (b = [] → o.ending = none) := by
  cases b with
  | cons y t => exact .read rfl rfl ⟨rfl, rfl, fun h => nomatch h⟩
  | nil =>
    cases he : o.ending with
    | some x => exact .faulted he (by rw [he]; rfl) rfl
    | none =>
      obtain ⟨hmore, he'⟩ := o.same he
      exact .read (by rw [he]; rfl) (by rw [hmore, he']; rfl) ⟨rfl, rfl, fun _ => rfl⟩

theorem peek_bind {k k' : Option UInt8 → Scan β}
    (hsome : ∀ y t, b = y :: t → Abreast o (k (some y)) (k' (some y)) (y :: t) H)
    (hnone : b = [] → o.ending = none → Abreast o (k none) (k' none) [] H) :
    Abreast o (Scan.peek >>= k) (Scan.peek >>= k') b H := by
  refine peek.bind fun x r => ?_
  rintro ⟨rfl, rfl, hend⟩
  cases r with
  | nil => exact hnone rfl (hend rfl)
  | cons y t => exact hsome y t rfl

theorem skip : Abreast o Scan.skip Scan.skip (y :: t) fun _ r => r = t :=
  .read rfl rfl rfl

theorem skip_bind {k k' : Unit → Scan β} (h : Abreast o (k ()) (k' ()) t H) :
    Abreast o (Scan.skip >>= k) (Scan.skip >>= k') (y :: t) H :=
  skip.bind fun _ _ hr => hr ▸ h

theorem next_bind {k k' : Option UInt8 → Scan β}
    (hsome : ∀ y t, b = y :: t → Abreast o (k (some y)) (k' (some y)) t H)
    (hnone : b = [] → o.ending = none → Abreast o (k none) (k' none) [] H) :
    Abreast o (Scan.next >>= k) (Scan.next >>= k') b H := by
  rw [Scan.next_eq, bind_assoc, bind_assoc]
  refine peek_bind (fun y t hb => ?_) fun hb he => ?_
  · rw [bind_assoc, bind_assoc]
    exact skip_bind (hsome y t hb)
  · have hskip : Abreast o Scan.skip Scan.skip [] fun _ r => r = [] :=
      .read rfl (by rw [(o.same he).1]; rfl) rfl
    rw [bind_assoc, bind_assoc]
    exact hskip.bind fun _ _ hr => hr ▸ hnone hb he

theorem taking (p : UInt8 → Bool) : Abreast o (Scan.taking p) (Scan.taking p) b fun x r =>
    b = x.1 ++ r ∧ (∀ y ∈ x.1, p y = true) ∧ x.2 = r.head? ∧ (r = [] → o.ending = none) := by
  obtain ⟨bs, r, rfl, hbs, hr⟩ : ∃ bs r, b = bs ++ r ∧ (∀ y ∈ bs, p y = true) ∧
      ∀ y ∈ r.head?, p y = false := by
    refine ⟨b.takeWhile p, b.dropWhile p, List.takeWhile_append_dropWhile.symm,
      List.all_eq_true.1 List.all_takeWhile, fun y hy => ?_⟩
    have hstop := List.head?_dropWhile_not p b
    rwa [Option.mem_def.1 hy] at hstop
  have hfirst := Scan.taking_append hbs hr o.ending
  cases r with
  | cons y t =>
    have hsecond := Scan.taking_append hbs (r := y :: t ++ o.more) hr o.ending'
    rw [← List.append_assoc] at hsecond
    exact .read hfirst hsecond ⟨rfl, hbs, rfl, fun h => nomatch h⟩
  | nil =>
    cases he : o.ending with
    | some x =>
      have hfault : Scan.taking p ⟨bs ++ [], o.ending⟩ = .error ⟨.fault x, false, .taken, []⟩ := by
        rw [hfirst, he]
        rfl
      exact .faulted he hfault rfl
    | none =>
      obtain ⟨hmore, he'⟩ := o.same he
      rw [he] at hfirst
      refine .read (a := (bs, none)) (r := []) ?_ ?_ ⟨rfl, hbs, rfl, fun _ => rfl⟩
      · rw [he]
        exact hfirst
      · rw [hmore, he', List.append_nil]
        exact hfirst

theorem upcoming : Abreast o Scan.upcoming Scan.upcoming b fun x r =>
    Blanks b r ∧ x = r.head? ∧ (r = [] → o.ending = none) := by
  rw [Scan.upcoming_eq]
  refine (taking isBlank).bind fun x r => ?_
  rintro ⟨rfl, hblank, hx, hend⟩
  exact pure ⟨⟨x.1, rfl, hblank⟩, hx, hend⟩

theorem upcoming_bind {k k' : Option UInt8 → Scan β}
    (hsome : ∀ y t, Blanks b (y :: t) → Abreast o (k (some y)) (k' (some y)) (y :: t) H)
    (hnone : Blanks b [] → o.ending = none → Abreast o (k none) (k' none) [] H) :
    Abreast o (Scan.upcoming >>= k) (Scan.upcoming >>= k') b H := by
  refine upcoming.bind fun x r => ?_
  rintro ⟨hb, rfl, hend⟩
  cases r with
  | nil => exact hnone hb (hend rfl)
  | cons y t => exact hsome y t hb

theorem get_bind {k k' : Feed → Scan β}
    (h : Abreast o (k ⟨b, o.ending⟩) (k' ⟨b ++ o.more, o.ending'⟩) b H) :
    Abreast o (get >>= k) (get >>= k') b H := by
  cases h with
  | faulted hx hs hc => exact .faulted hx hs hc
  | refused hs hs' => exact .refused hs hs'
  | read hd hd' ha => exact .read hd hd' ha

end Abreast

end Resources.Json
