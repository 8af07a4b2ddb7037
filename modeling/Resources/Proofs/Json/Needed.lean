import Resources.Proofs.Json.Value

/-! Values as a caller needs them: what is written of the kind is taken, and nothing of another kind is
given. -/
namespace Resources.Json

open Scan (Numeral isBlank listBody textValue withinBounds wholeValue nullOr listValue document)

variable {α β : Type} {b r t u : Bytes} {s : String} {due : String} {n bound : Nat} {m : Scan α}
  {P : α → Prop} {Q : β → Prop}

/-! ### What is written is taken -/

/-- A text with its quotes. -/
def Quotation (t : Bytes) (s : String) (r : Bytes) : Prop := ∃ u, t = 0x22 :: u ∧ Text u s r

theorem textValue_of : TakenBy (textValue due) Quotation := by
  rintro b _ s r hb ⟨u, rfl, hs⟩ -
  unfold textValue
  rw [Scan.bind_of_ok _ (Scan.upcoming_cons hb (by decide))]
  simp only
  rw [Scan.bind_of_ok _ (Scan.skip_cons ..)]
  exact text_of hs none

theorem wholeValue_of (h : Figures true t (.whole n) r) (hn : n < bound) (hb : Blanks b t)
    (hr : Apart r) : wholeValue due bound ⟨b, none⟩ = .ok (n, ⟨r, none⟩) := by
  obtain ⟨y, u, rfl, hy⟩ := h.head
  have hminus : y ≠ 0x2D := by rintro rfl; cases hy
  have hwithin : (0 : Int) ≤ n ∧ (n : Int) < bound := by omega
  unfold wholeValue
  rw [Scan.bind_of_ok _ (Scan.upcoming_cons hb (not_isBlank_of_isDigit hy))]
  simp only [hy, if_true]
  rw [Scan.bind_of_ok _ (numeral_of h hr), withinBounds, if_pos hwithin]
  rfl

theorem nullOr_null (hb : Blanks b (0x6E :: 0x75 :: 0x6C :: 0x6C :: r)) :
    nullOr m ⟨b, none⟩ = .ok (none, ⟨r, none⟩) := by
  unfold nullOr
  rw [Scan.bind_of_ok _ (Scan.upcoming_cons hb (by decide))]
  simp only
  rw [Scan.bind_of_ok _ (Scan.skip_cons ..)]
  exact Scan.bind_of_ok _ (word_of [0x75, 0x6C, 0x6C] r none)

theorem nullOr_some {y : UInt8} {a : α} (hb : Blanks b (y :: t)) (hy : isBlank y = false)
    (hnull : y ≠ 0x6E) (ha : m ⟨y :: t, none⟩ = .ok (a, ⟨r, none⟩)) :
    nullOr m ⟨b, none⟩ = .ok (some a, ⟨r, none⟩) := by
  have hy' : some y ≠ some 0x6E := fun h => hnull (Option.some.inj h)
  unfold nullOr
  rw [Scan.bind_of_ok _ (Scan.upcoming_cons hb hy)]
  simp only
  rw [Scan.bind_of_ok _ ha]
  rfl

theorem listValue_of {item : Bytes → α → Bytes → Prop} {as : List α} (hm : TakenBy m item)
    (hbegin : Begins item) (hlt : ∀ {t a r}, item t a r → r.length < t.length)
    (hb : Blanks b (0x5B :: u)) (h : Items item 0x5D u as r) :
    listValue due m ⟨b, none⟩ = .ok (as, ⟨r, none⟩) := by
  have hbody : listBody m ⟨0x5B :: u, none⟩ = .ok (as, ⟨0x5D :: r, none⟩) :=
    items_of hm hbegin hlt h (Nat.lt_succ_self _)
  unfold listValue
  rw [Scan.bind_of_ok _ (Scan.upcoming_cons hb (by decide))]
  exact enclosed_of_ok hbody (endList_of r none)

/-- A whole text is read if only blanks are left behind its value. -/
theorem readText_of {x : String} {a : α} (h : m ⟨utf8 x, none⟩ = .ok (a, ⟨r, none⟩))
    (hr : Blanks r []) : readText m x = .ok a := by
  unfold readText readFeed document
  rw [Scan.bind_of_ok _ h, Scan.bind_of_ok _ (Scan.upcoming_end hr)]
  rfl

/-! ### What can be given -/

/-- Whatever a scan gives, from any feed, has a property. -/
def Yields (m : Scan α) (P : α → Prop) : Prop := ∀ f a g, m f = .ok (a, g) → P a

namespace Yields

theorem anything : Yields m fun _ => True := fun _ _ _ _ => trivial

theorem pure {a : α} (ha : P a) : Yields (Pure.pure a) P := by
  intro f a' g h
  cases h
  exact ha

theorem fail (cause : Cause) (reach : Reach) : Yields (Scan.fail cause reach) P := by
  intro f a g h
  cases h

theorem bind {k : α → Scan β} (h : Yields m P) (hk : ∀ a, P a → Yields (k a) Q) :
    Yields (m >>= k) Q := by
  intro f c g hc
  cases hm : m f with
  | error s =>
    rw [Scan.bind_of_error k hm] at hc
    cases hc
  | ok x =>
    rw [Scan.bind_of_ok k hm] at hc
    exact hk x.1 (h f x.1 x.2 hm) x.2 c g hc

/-- Whatever comes first, what comes then decides. -/
theorem after {k : α → Scan β} (hk : ∀ a, Yields (k a) Q) : Yields (m >>= k) Q :=
  anything.bind fun a _ => hk a

theorem settle (h : Yields m P) : Yields (Scan.settle m) P := by
  intro f a g hs
  unfold Scan.settle at hs
  cases hm : m f with
  | error s =>
    rw [hm] at hs
    cases hs
  | ok x =>
    rw [hm] at hs
    cases hs
    exact h f a g hm

theorem enclosed {close : Scan Unit} (h : Yields m P) : Yields (Scan.enclosed m close) P := by
  refine settle fun f a g ha => ?_
  cases hm : m f with
  | error s =>
    simp only [hm] at ha
    split at ha
    · cases ha
    · split at ha <;> cases ha
  | ok x =>
    simp only [hm] at ha
    cases hs : close x.2 with
    | error s =>
      rw [hs] at ha
      cases ha
    | ok y =>
      rw [hs] at ha
      cases ha
      exact h f x.1 x.2 hm

/-- A value of a kind that is not due is refused. -/
theorem wrongType : Yields (Scan.wrongType due) P := by
  unfold Scan.wrongType
  refine after fun y => ?_
  split
  · exact after fun _ => after fun _ => fail _ _
  · exact after fun _ => after fun _ => fail _ _
  · exact after fun _ => after fun _ => fail _ _
  · exact after fun _ => after fun _ => fail _ _
  · exact fail _ _
  · exact fail _ _
  · exact after fun _ => after fun _ => fail _ _
  · split
    · exact after fun _ => fail _ _
    · exact fail _ _
  · exact fail _ _

theorem wholeValue : Yields (Scan.wholeValue due bound) (· < bound) := by
  have hwithin (x : Numeral) : Yields (withinBounds due bound x) (· < bound) := by
    unfold withinBounds
    split
    · split
      · exact pure (by omega)
      · exact fail _ _
    · exact fail _ _
  unfold Scan.wholeValue
  refine after fun y => ?_
  split
  · exact fail _ _
  · exact after fun _ => after hwithin
  · split
    · exact after hwithin
    · exact wrongType.settle

theorem nullOr (h : Yields m P) : Yields (Scan.nullOr m) fun o => ∀ a ∈ o, P a := by
  unfold Scan.nullOr
  refine after fun y => ?_
  split
  · exact after fun _ => after fun _ => pure (by simp)
  · exact h.bind fun a ha => pure (by simpa using ha)

theorem items (h : Yields m P) (fuel : Nat) (first : Bool) :
    Yields (Scan.items m fuel first) fun as => ∀ a ∈ as, P a := by
  induction fuel generalizing first with
  | zero => exact fail _ _
  | succ fuel ih =>
    unfold Scan.items
    refine after fun more => ?_
    split
    · refine h.bind fun a ha => (ih false).bind fun as has => pure ?_
      exact List.forall_mem_cons.2 ⟨ha, has⟩
    · exact pure (by simp)

theorem listValue (h : Yields m P) : Yields (Scan.listValue due m) fun as => ∀ a ∈ as, P a := by
  unfold Scan.listValue
  refine after fun y => ?_
  split
  · exact fail _ _
  · exact (after fun _ => after fun _ => h.items _ _).enclosed
  · exact wrongType.settle

/-- What each field leaves as it is holds at the end of a record. -/
theorem recordBody {field : β → String → Scan β} {c : β} (h : ∀ c key, Q c → Yields (field c key) Q)
    (hc : Q c) : Yields (Scan.recordBody field c) Q := by
  have hfields : ∀ fuel first c, Q c → Yields (Scan.fields field fuel first c) Q := by
    intro fuel
    induction fuel with
    | zero => exact fun _ _ _ => fail _ _
    | succ fuel ih =>
      intro first c hc
      unfold Scan.fields
      refine after fun more => ?_
      split
      · exact after fun _ => after fun key => (h c key hc).bind fun d hd => ih false d hd
      · exact pure hc
  exact after fun _ => after fun _ => hfields _ _ _ hc

/-- What a whole text is read as is something that the scan gives. -/
theorem readText (h : Yields m P) {x : String} {a : α} (ha : Json.readText m x = .ok a) : P a := by
  have hdocument : Yields (document m) P :=
    h.bind fun a hpa => after fun y => by
      split
      · exact pure hpa
      · exact fail _ _
  unfold Json.readText readFeed at ha
  cases hd : document m ⟨utf8 x, none⟩ with
  | error s =>
    rw [hd] at ha
    cases ha
  | ok y =>
    rw [hd] at ha
    obtain rfl := Except.ok.inj ha
    exact hdocument _ y.1 y.2 hd

end Yields

end Resources.Json
