import Resources.Proofs.Json.Number
import Resources.Proofs.Json.Text

/-! Values and whole texts: what is read as one is written as one, and the other way round. -/
namespace Resources.Json

open Scan (Numeral isDigit isBlank moreItems moreFields items fields colon endList endRecord enclosed listBody
  recordBody plainOr value word document)

variable {α β : Type} {b r t u : Bytes} {o : Outlook} {fuel : Nat} {first : Bool}
  {item : Bytes → α → Bytes → Prop} {close : UInt8} {a : α} {as : List α}

/-! ### Words -/

theorem abreast_word (w : List UInt8) : Abreast o (word w) (word w) b fun _ r => b = w ++ r := by
  induction w generalizing b with
  | nil => exact .pure rfl
  | cons y w ih =>
    unfold word
    refine Abreast.next_bind (fun z t hb => ?_) fun _ _ => .fail _ _
    simp only
    split
    · rename_i hz
      refine ih.mono fun _ r ht => ?_
      rw [hb, hz, ht, List.cons_append]
    · exact .fail _ _

theorem word_of (w r : Bytes) (e : Option Fault) : word w ⟨w ++ r, e⟩ = .ok ((), ⟨r, e⟩) := by
  induction w with
  | nil => rfl
  | cons y w ih =>
    unfold word
    rw [List.cons_append, Scan.bind_of_ok _ (Scan.next_cons ..)]
    simp only [if_true]
    exact ih

/-- A word that is a value, from its first letter. -/
def literal (w : List UInt8) (v : Value) : Scan Value := do
  Scan.skip
  word w
  pure v

theorem abreast_literal {y : UInt8} {w : List UInt8} {v : Value}
    (hv : ∀ r, Plain (y :: (w ++ r)) v r) :
    Abreast o (literal w v) (literal w v) (y :: t) (Plain (y :: t)) := by
  refine Abreast.skip_bind ((abreast_word w).bind fun _ r hw => .pure ?_)
  rw [hw]
  exact hv r

theorem literal_of (y : UInt8) (w : List UInt8) (v : Value) (r : Bytes) :
    literal w v ⟨y :: (w ++ r), none⟩ = .ok (v, ⟨r, none⟩) := by
  unfold literal
  rw [Scan.bind_of_ok _ (Scan.skip_cons ..), Scan.bind_of_ok _ (word_of w r none)]
  rfl

/-! ### Items -/

/-- What comes at the first item, and behind an item. -/
def Listed (item : Bytes → α → Bytes → Prop) (close : UInt8) :
    Bool → Bytes → List α → Bytes → Prop
  | true => Items item close
  | false => Further item close

/-- Before the first item blanks are passed, before another a comma too. -/
def Reaches (first : Bool) (b r : Bytes) : Prop :=
  if first then Blanks b r else ∃ u, Blanks b (0x2C :: u) ∧ Blanks u r

theorem Listed.none (h : Blanks b (close :: r)) : Listed item close first b [] r := by
  cases first with
  | true => exact .none h
  | false => exact .close h

theorem Listed.some {w : Bytes} (hl : Reaches first b t) (hb : Blanks t u) (ha : item u a w)
    (hon : Listed item close false w as r) : Listed item close first b (a :: as) r := by
  cases first with
  | true => exact .some (Blanks.trans hl hb) ha hon
  | false =>
    obtain ⟨v, hcomma, hv⟩ := hl
    exact .more hcomma (hv.trans hb) ha hon

theorem Listed.nil_inv (h : Listed item close first b [] r) : Blanks b (close :: r) := by
  cases first with
  | true =>
    cases h with
    | none blanks => exact blanks
  | false =>
    cases h with
    | close blanks => exact blanks

theorem Listed.cons_inv (h : Listed item close first b (a :: as) r) :
    ∃ t w, Reaches first b t ∧ item t a w ∧ Listed item close false w as r := by
  cases first with
  | true =>
    cases h with
    | some blanks here on => exact ⟨_, _, blanks, here, on⟩
  | false =>
    cases h with
    | more comma blanks here on => exact ⟨_, _, ⟨_, comma, blanks⟩, here, on⟩

theorem Reaches.length_le (h : Reaches first b r) : r.length ≤ b.length := by
  cases first with
  | true => exact Blanks.length_le h
  | false =>
    obtain ⟨u, hb, hu⟩ := h
    have h₁ := hb.length_le
    have h₂ := hu.length_le
    simp only [List.length_cons] at h₁
    omega

theorem Listed.length_lt (hlt : ∀ {t a r}, item t a r → r.length < t.length)
    (h : Listed item close first b as r) : r.length < b.length := by
  induction as generalizing first b with
  | nil => exact h.nil_inv.length_le
  | cons a as ih =>
    obtain ⟨t, w, hl, ha, hon⟩ := h.cons_inv
    have h₁ := hl.length_le
    have h₂ := hlt ha
    have h₃ := ih hon
    omega

theorem abreast_moreItems : Abreast o (moreItems first) (moreItems first) b fun more r =>
    more = false ∧ (∃ u, r = 0x5D :: u ∧ Blanks b r) ∨ more = true ∧ Reaches first b r := by
  unfold moreItems
  refine Abreast.upcoming_bind (fun y t hb => ?_) fun _ _ => .fail _ _
  simp only
  split
  · rename_i hy
    subst hy
    exact .pure (Or.inl ⟨rfl, t, rfl, hb⟩)
  · split
    · rename_i hfirst
      refine .pure (Or.inr ⟨rfl, ?_⟩)
      rw [Reaches, if_pos hfirst]
      exact hb
    · rename_i hfirst
      split
      · rename_i hy
        subst hy
        refine Abreast.skip_bind (Abreast.upcoming_bind (fun z v hv => ?_) fun _ _ => .fail _ _)
        split
        · exact .fail _ _
        · refine .pure (Or.inr ⟨rfl, ?_⟩)
          rw [Reaches, if_neg hfirst]
          exact ⟨t, hb, hv⟩
        · exact .fail _ _
      · exact .fail _ _

theorem abreast_items {m : Scan α} (k : Nat)
    (hm : ∀ {b : Bytes}, Abreast o m m b fun a r => ∃ t, Blanks b t ∧ item t a r)
    (hlt : ∀ {t a r}, item t a r → r.length < t.length) (hb : b.length < fuel) :
    Abreast o (items m fuel first) (items m (fuel + k) first) b
      fun as r => ∃ u, r = 0x5D :: u ∧ Listed item 0x5D first b as u := by
  induction fuel generalizing b first with
  | zero => omega
  | succ fuel ih =>
    rw [Nat.succ_add]
    unfold items
    refine abreast_moreItems.bind fun more r hmore => ?_
    rcases hmore with ⟨rfl, u, rfl, hu⟩ | ⟨rfl, hl⟩
    · exact .pure ⟨u, rfl, .none hu⟩
    · refine hm.bind fun a w hw => ?_
      obtain ⟨t, ht, ha⟩ := hw
      have hw : w.length < fuel := by
        have h₁ := hl.length_le
        have h₂ := ht.length_le
        have h₃ := hlt ha
        omega
      refine (ih hw).bind fun as r hr => ?_
      obtain ⟨u, rfl, has⟩ := hr
      exact .pure ⟨u, rfl, .some hl ht ha has⟩

/-! ### Fields -/

theorem abreast_moreFields : Abreast o (moreFields first) (moreFields first) b fun more r =>
    more = false ∧ (∃ u, r = 0x7D :: u ∧ Blanks b r) ∨
      more = true ∧ (∃ u, r = 0x22 :: u) ∧ Reaches first b r := by
  unfold moreFields
  refine Abreast.upcoming_bind (fun y t hb => ?_) fun _ _ => .fail _ _
  simp only
  split
  · rename_i hy
    subst hy
    exact .pure (Or.inl ⟨rfl, t, rfl, hb⟩)
  · split
    · rename_i hfirst
      split
      · rename_i hy
        subst hy
        refine .pure (Or.inr ⟨rfl, ⟨t, rfl⟩, ?_⟩)
        rw [Reaches, if_pos hfirst]
        exact hb
      · exact .fail _ _
    · rename_i hfirst
      split
      · rename_i hy
        subst hy
        refine Abreast.skip_bind (Abreast.upcoming_bind (fun z v hv => ?_) fun _ _ => .fail _ _)
        split
        · rename_i hz
          obtain rfl := Option.some.inj hz
          refine .pure (Or.inr ⟨rfl, ⟨v, rfl⟩, ?_⟩)
          rw [Reaches, if_neg hfirst]
          exact ⟨t, hb, hv⟩
        · exact .fail _ _
        · exact .fail _ _
        · exact .fail _ _
      · exact .fail _ _

theorem abreast_colon : Abreast o colon colon b fun _ r => Blanks b (0x3A :: r) := by
  unfold colon
  refine Abreast.upcoming_bind (fun y t hb => ?_) fun _ _ => .fail _ _
  split
  · rename_i hy
    obtain rfl := Option.some.inj hy
    exact Abreast.skip.mono fun _ r hr => hr ▸ hb
  · exact .fail _ _
  · exact .fail _ _

/-- Puts one field after the other. -/
def putAll (fs : List (String × Value)) (fields : List (String × Value)) : List (String × Value) :=
  fields.foldl (fun fs f => Value.put fs f.1 f.2) fs

/-- A field of a record that is kept as a value, after its name. -/
def valueField (m : Scan Value) (fs : List (String × Value)) (key : String) :
    Scan (List (String × Value)) := do
  colon
  return Value.put fs key (← m)

theorem Field.length_lt {f : String × α} (h : Field item t f r)
    (hle : ∀ {t a r}, item t a r → r.length ≤ t.length) : r.length < t.length := by
  obtain ⟨u, w, x, y, rfl, hkey, hcolon, hblanks, ha⟩ := h
  have h₁ := Quoted.length_lt hkey
  have h₂ := hcolon.length_le
  have h₃ := hblanks.length_le
  have h₄ := hle ha
  simp only [List.length_cons] at h₂ ⊢
  omega

theorem abreast_fields {item : Bytes → Value → Bytes → Prop} {m : Scan Value} (k : Nat)
    {fs : List (String × Value)}
    (hm : ∀ {b : Bytes}, Abreast o m m b fun a r => ∃ t, Blanks b t ∧ item t a r)
    (hlt : ∀ {t a r}, item t a r → r.length < t.length) (hb : b.length < fuel) :
    Abreast o (fields (valueField m) fuel first fs) (fields (valueField m) (fuel + k) first fs) b
      fun fs' r => ∃ u added, r = 0x7D :: u ∧ Listed (Field item) 0x7D first b added u ∧
        fs' = putAll fs added := by
  induction fuel generalizing b first fs with
  | zero => omega
  | succ fuel ih =>
    rw [Nat.succ_add]
    unfold fields
    refine abreast_moreFields.bind fun more r hmore => ?_
    rcases hmore with ⟨rfl, u, rfl, hu⟩ | ⟨rfl, ⟨u, rfl⟩, hl⟩
    · exact .pure ⟨u, [], rfl, .none hu, rfl⟩
    · refine Abreast.skip_bind (abreast_text.bind fun key w hkey => ?_)
      unfold valueField
      refine Abreast.bind (G := fun fs' y => ∃ v, Field item (0x22 :: u) (key, v) y ∧
        fs' = Value.put fs key v) ?_ fun fs' y hy => ?_
      · refine abreast_colon.bind fun _ x hx => hm.bind fun v y hv => ?_
        obtain ⟨t, ht, hv⟩ := hv
        exact .pure ⟨v, ⟨u, w, x, t, rfl, hkey, hx, ht, hv⟩, rfl⟩
      · obtain ⟨v, hv, rfl⟩ := hy
        have hy : y.length < fuel := by
          have h₁ := hl.length_le
          have h₂ := hv.length_lt fun h => Nat.le_of_lt (hlt h)
          omega
        refine (ih hy).mono ?_
        rintro fs' r ⟨z, added, rfl, hadded, rfl⟩
        exact ⟨z, (key, v) :: added, rfl, .some hl (Blanks.refl _) hv hadded, rfl⟩

/-! ### Brackets -/

theorem enclosed_of_ok {body : Scan α} {shut : Scan Unit} {f g h : Feed} {x : Unit}
    (hb : body f = .ok (a, g)) (hs : shut g = .ok (x, h)) : enclosed body shut f = .ok (a, h) := by
  simp only [enclosed, Scan.settle, hb, hs]
  rfl

/-- The closing bracket that is looked for after a refusal does not undo it, nor change its cause. -/
theorem enclosed_of_error {body : Scan α} {f : Feed} {s : Stop} (shut : Scan Unit)
    (hb : body f = .error s) : ∃ s', enclosed body shut f = .error s' ∧ s'.cause = s.cause := by
  simp only [enclosed, Scan.settle, hb]
  cases s.settled with
  | true => exact ⟨_, rfl, rfl⟩
  | false =>
    cases hs : shut ⟨s.rest, f.ending⟩ with
    | ok r => exact ⟨_, rfl, rfl⟩
    | error s' => exact ⟨_, rfl, rfl⟩

theorem abreast_enclosed {body body' : Scan α} {shut : Scan Unit} {G : α → Bytes → Prop}
    (hbody : Abreast o body body' b fun a r => ∃ u, r = close :: u ∧ G a u)
    (hshut : ∀ u e, shut ⟨close :: u, e⟩ = .ok ((), ⟨u, e⟩)) :
    Abreast o (enclosed body shut) (enclosed body' shut) b G := by
  cases hbody with
  | faulted hx hs hc =>
    obtain ⟨s', hs', hc'⟩ := enclosed_of_error shut hs
    exact .faulted hx hs' (hc'.trans hc)
  | refused hs hs' =>
    obtain ⟨s₁, h₁, -⟩ := enclosed_of_error shut hs
    obtain ⟨s₂, h₂, -⟩ := enclosed_of_error shut hs'
    exact .refused h₁ h₂
  | read hd hd' ha =>
    obtain ⟨u, rfl, ha⟩ := ha
    exact .read (enclosed_of_ok hd (hshut u _)) (enclosed_of_ok hd' (hshut (u ++ o.more) _)) ha

theorem endList_of (u : Bytes) (e : Option Fault) : endList ⟨0x5D :: u, e⟩ = .ok ((), ⟨u, e⟩) := rfl

theorem endRecord_of (u : Bytes) (e : Option Fault) : endRecord ⟨0x7D :: u, e⟩ = .ok ((), ⟨u, e⟩) :=
  rfl

/-! ### Values -/

theorem abreast_plainOr {list record : Scan Value} {L R : Bytes → Value → Bytes → Prop}
    (hlist : ∀ u, Abreast o list list (0x5B :: u) (L u))
    (hrecord : ∀ u, Abreast o record record (0x7B :: u) (R u)) :
    Abreast o (plainOr list record) (plainOr list record) b fun v r => ∃ t, Blanks b t ∧
      (Plain t v r ∨ (∃ u, t = 0x5B :: u ∧ L u v r) ∨ ∃ u, t = 0x7B :: u ∧ R u v r) := by
  unfold plainOr
  refine Abreast.upcoming_bind (fun y t hb => ?_) fun _ _ => .fail _ _
  refine Abreast.mono (G := fun v r => Plain (y :: t) v r ∨ (∃ u, y :: t = 0x5B :: u ∧ L u v r) ∨
    ∃ u, y :: t = 0x7B :: u ∧ R u v r) ?_ fun v r hv => ⟨y :: t, hb, hv⟩
  split
  · rename_i hy
    cases hy
  · rename_i hy
    obtain rfl := Option.some.inj hy
    exact (abreast_literal fun _ => .nullWord).mono fun _ _ => Or.inl
  · rename_i hy
    obtain rfl := Option.some.inj hy
    exact (abreast_literal fun _ => .trueWord).mono fun _ _ => Or.inl
  · rename_i hy
    obtain rfl := Option.some.inj hy
    exact (abreast_literal fun _ => .falseWord).mono fun _ _ => Or.inl
  · rename_i hy
    obtain rfl := Option.some.inj hy
    exact Abreast.skip_bind (abreast_text.bind fun s r hs => .pure (Or.inl (.text hs)))
  · rename_i hy
    obtain rfl := Option.some.inj hy
    exact (hlist t).mono fun v r hv => Or.inr (Or.inl ⟨t, rfl, hv⟩)
  · rename_i hy
    obtain rfl := Option.some.inj hy
    exact (hrecord t).mono fun v r hv => Or.inr (Or.inr ⟨t, rfl, hv⟩)
  · rename_i hy
    obtain rfl := Option.some.inj hy
    exact Abreast.skip_bind (abreast_numeral.bind fun x r hx => .pure (Or.inl (.negative hx)))
  · rename_i hy
    obtain rfl := Option.some.inj hy
    split
    · exact abreast_numeral.bind fun x r hx => .pure (Or.inl (.positive hx))
    · exact .fail _ _

theorem Plain.length_lt {v : Value} (h : Plain t v r) : r.length < t.length := by
  cases h with
  | text text => exact Nat.lt_succ_of_lt text.length_lt
  | positive figures => exact figures.length_lt
  | negative figures => exact Nat.lt_succ_of_lt figures.length_lt
  | _ => simp only [List.length_cons]; omega

theorem Written.length_lt {room : Nat} {v : Value} (h : Written room t v r) :
    r.length < t.length := by
  induction room generalizing t v r with
  | zero => exact Plain.length_lt h
  | succ room ih =>
    rcases h with h | ⟨u, rfl, items, hitems, -⟩ | ⟨u, rfl, fields, hfields, -⟩
    · exact h.length_lt
    · have hlisted : Listed (Written room) 0x5D true u items r := hitems
      exact Nat.lt_succ_of_lt (hlisted.length_lt ih)
    · have hlisted : Listed (Field (Written room)) 0x7D true u fields r := hfields
      exact Nat.lt_succ_of_lt (hlisted.length_lt fun hf => hf.length_lt fun h => Nat.le_of_lt (ih h))

theorem value_succ (room : Nat) : value (room + 1) =
    plainOr (return .list (← enclosed (listBody (value room)) endList))
      (return .record (← enclosed (recordBody (valueField (value room)) []) endRecord)) := rfl

theorem abreast_value (room : Nat) : Abreast o (value room) (value room) b
    fun v r => ∃ t, Blanks b t ∧ Written room t v r := by
  induction room generalizing b with
  | zero =>
    refine (abreast_plainOr (L := fun _ _ _ => False) (R := fun _ _ _ => False)
      (fun _ => .fail _ _) fun _ => .fail _ _).mono ?_
    rintro v r ⟨t, hb, hv | ⟨_, -, ⟨⟩⟩ | ⟨_, -, ⟨⟩⟩⟩
    exact ⟨t, hb, hv⟩
  | succ room ih =>
    refine abreast_plainOr (fun u => ?_) fun u => ?_
    · refine Abreast.bind (G := fun as r => Items (Written room) 0x5D u as r) ?_
        fun as r has => .pure ⟨as, has, rfl⟩
      refine abreast_enclosed ?_ endList_of
      refine Abreast.skip_bind (Abreast.get_bind ?_)
      simp only [o.fuel]
      refine (abreast_items _ ih Written.length_lt (Nat.lt_succ_self _)).mono ?_
      rintro as r ⟨w, rfl, has⟩
      exact ⟨w, rfl, has⟩
    · refine Abreast.bind (G := fun fs r => ∃ fields, Items (Field (Written room)) 0x7D u fields r ∧
        fs = kept fields) ?_ fun fs r hfs => ?_
      · refine abreast_enclosed ?_ endRecord_of
        refine Abreast.skip_bind (Abreast.get_bind ?_)
        simp only [o.fuel]
        refine (abreast_fields _ ih Written.length_lt (Nat.lt_succ_self _)).mono ?_
        rintro fs r ⟨w, added, rfl, hadded, rfl⟩
        exact ⟨w, rfl, added, hadded, rfl⟩
      · obtain ⟨fields, hfields, rfl⟩ := hfs
        exact .pure ⟨fields, hfields, rfl⟩

/-! ### Values that are written -/

theorem Blanks.apart (h : Blanks t r) (hr : Apart r) : Apart t := by
  obtain ⟨bs, rfl, hbs⟩ := h
  cases bs with
  | nil => exact hr
  | cons y bs =>
    intro z hz
    obtain rfl : y = z := Option.some.inj hz
    have hy := hbs y List.mem_cons_self
    simp only [isBlank, Bool.or_eq_true, decide_eq_true_eq] at hy
    rcases hy with ((rfl | rfl) | rfl) | rfl <;> decide

theorem Further.apart (h : Further item close t as r) (hclose : ∀ r, Apart (close :: r)) :
    Apart t := by
  cases h with
  | close blanks => exact blanks.apart (hclose r)
  | more comma _ _ _ =>
    refine comma.apart fun y hy => ?_
    obtain rfl : 0x2C = y := Option.some.inj hy
    decide

theorem moreItems_close (h : Blanks b (0x5D :: r)) :
    moreItems first ⟨b, none⟩ = .ok (false, ⟨0x5D :: r, none⟩) := by
  unfold moreItems
  rw [Scan.bind_of_ok _ (Scan.upcoming_cons h (by decide))]
  rfl

theorem moreItems_more {y : UInt8} (h : Reaches first b (y :: t)) (hy : isBlank y = false)
    (hne : y ≠ 0x5D) : moreItems first ⟨b, none⟩ = .ok (true, ⟨y :: t, none⟩) := by
  unfold moreItems
  cases first with
  | true =>
    rw [Scan.bind_of_ok _ (Scan.upcoming_cons h hy)]
    simp only [if_neg hne, if_true]
    rfl
  | false =>
    obtain ⟨u, hcomma, hu⟩ := h
    have hopen : (0x2C : UInt8) ≠ 0x5D := by decide
    rw [Scan.bind_of_ok _ (Scan.upcoming_cons hcomma (by decide))]
    simp only [if_neg hopen, Bool.false_eq_true, if_false, if_true]
    rw [Scan.bind_of_ok _ (Scan.skip_cons ..), Scan.bind_of_ok _ (Scan.upcoming_cons hu hy)]
    simp only
    rfl

/-- An item is taken by a scan wherever no number would go on behind it. -/
def TakenBy (m : Scan α) (item : Bytes → α → Bytes → Prop) : Prop :=
  ∀ {b t a r}, Blanks b t → item t a r → Apart r → m ⟨b, none⟩ = .ok (a, ⟨r, none⟩)

/-- Items begin neither with a blank nor with the bracket that closes a list. -/
def Begins (item : Bytes → α → Bytes → Prop) : Prop :=
  ∀ {t a r}, item t a r → ∃ y u, t = y :: u ∧ isBlank y = false ∧ y ≠ 0x5D

theorem items_more {m : Scan α} {w : Bytes} {g : Feed} (hm : TakenBy m item) (hbegin : Begins item)
    (hl : Reaches first b t) (ha : item t a w) (hw : Apart w)
    (hon : items m fuel false ⟨w, none⟩ = .ok (as, g)) :
    items m (fuel + 1) first ⟨b, none⟩ = .ok (a :: as, g) := by
  obtain ⟨y, u, rfl, hy, hne⟩ := hbegin ha
  unfold items
  rw [Scan.bind_of_ok _ (moreItems_more hl hy hne)]
  simp only [if_true]
  rw [Scan.bind_of_ok _ (hm (Blanks.refl _) ha hw), Scan.bind_of_ok _ hon]
  rfl

theorem apart_cons {y : UInt8} (hy : isDigit y = false ∧ y ≠ 0x2E ∧ y ≠ 0x65 ∧ y ≠ 0x45)
    (r : Bytes) : Apart (y :: r) := by
  intro z hz
  obtain rfl : y = z := Option.some.inj hz
  exact hy

theorem items_of {m : Scan α} (hm : TakenBy m item) (hbegin : Begins item)
    (hlt : ∀ {t a r}, item t a r → r.length < t.length) (h : Listed item 0x5D first b as r)
    (hb : b.length < fuel) : items m fuel first ⟨b, none⟩ = .ok (as, ⟨0x5D :: r, none⟩) := by
  induction as generalizing fuel first b with
  | nil =>
    cases fuel with
    | zero => omega
    | succ fuel =>
      unfold items
      rw [Scan.bind_of_ok _ (moreItems_close h.nil_inv)]
      rfl
  | cons a as ih =>
    obtain ⟨t, w, hl, ha, hon⟩ := h.cons_inv
    cases fuel with
    | zero => omega
    | succ fuel =>
      have h₁ := hl.length_le
      have h₂ := hlt ha
      exact items_more hm hbegin hl ha (Further.apart hon (apart_cons (by decide)))
        (ih hon (by omega))

theorem moreFields_close (h : Blanks b (0x7D :: r)) :
    moreFields first ⟨b, none⟩ = .ok (false, ⟨0x7D :: r, none⟩) := by
  unfold moreFields
  rw [Scan.bind_of_ok _ (Scan.upcoming_cons h (by decide))]
  rfl

theorem moreFields_more (h : Reaches first b (0x22 :: t)) :
    moreFields first ⟨b, none⟩ = .ok (true, ⟨0x22 :: t, none⟩) := by
  unfold moreFields
  cases first with
  | true =>
    rw [Scan.bind_of_ok _ (Scan.upcoming_cons h (by decide))]
    rfl
  | false =>
    obtain ⟨u, hcomma, hu⟩ := h
    have hopen : (0x2C : UInt8) ≠ 0x7D := by decide
    rw [Scan.bind_of_ok _ (Scan.upcoming_cons hcomma (by decide))]
    simp only [if_neg hopen, Bool.false_eq_true, if_false, if_true]
    rw [Scan.bind_of_ok _ (Scan.skip_cons ..),
      Scan.bind_of_ok _ (Scan.upcoming_cons hu (by decide))]
    rfl

theorem colon_of (h : Blanks b (0x3A :: r)) : colon ⟨b, none⟩ = .ok ((), ⟨r, none⟩) := by
  unfold colon
  rw [Scan.bind_of_ok _ (Scan.upcoming_cons h (by decide))]
  rfl

/-- A value behind its colon. -/
theorem colon_bind {m : Scan α} {f : Feed} (k : α → Scan β) (h : Blanks b (0x3A :: t))
    (hm : m ⟨t, none⟩ = .ok (a, f)) : (colon >>= fun _ => m >>= k) ⟨b, none⟩ = k a f := by
  rw [Scan.bind_of_ok _ (colon_of h), Scan.bind_of_ok _ hm]

/-- Fields that are taken one after the other, each from what the ones before it have left. -/
inductive Through (field : β → String → Scan β) (item : Bytes → α → Bytes → Prop) :
    β → List (String × α) → β → Prop where
  | nil {c : β} : Through field item c [] c
  | cons {c d e : β} {key : String} {a : α} {fs : List (String × α)}
      (here : ∀ {w x y r}, Blanks w (0x3A :: x) → Blanks x y → item y a r → Apart r →
        field c key ⟨w, none⟩ = .ok (d, ⟨r, none⟩))
      (on : Through field item d fs e) : Through field item c ((key, a) :: fs) e

theorem fields_of {field : β → String → Scan β} {c d : β} {fs : List (String × α)}
    (hfs : Through field item c fs d) (hle : ∀ {t a r}, item t a r → r.length ≤ t.length)
    (h : Listed (Field item) 0x7D first b fs r) (hb : b.length < fuel) :
    fields field fuel first c ⟨b, none⟩ = .ok (d, ⟨0x7D :: r, none⟩) := by
  induction hfs generalizing fuel first b with
  | nil =>
    cases fuel with
    | zero => omega
    | succ fuel =>
      unfold fields
      rw [Scan.bind_of_ok _ (moreFields_close h.nil_inv)]
      rfl
  | cons here _ ih =>
    obtain ⟨t, w, hl, hf, hon⟩ := h.cons_inv
    cases fuel with
    | zero => omega
    | succ fuel =>
      have h₁ := hl.length_le
      have h₂ := hf.length_lt hle
      obtain ⟨u, v, y, z, rfl, hkey, hcolon, hblanks, ha⟩ := hf
      have hfield := here hcolon hblanks ha (Further.apart hon (apart_cons (by decide)))
      unfold fields
      rw [Scan.bind_of_ok _ (moreFields_more hl)]
      simp only [if_true]
      rw [Scan.bind_of_ok _ (Scan.skip_cons ..), Scan.bind_of_ok _ (text_of hkey none),
        Scan.bind_of_ok _ hfield]
      exact ih hon (by omega)

theorem through_valueField {item : Bytes → Value → Bytes → Prop} {m : Scan Value}
    (hm : TakenBy m item) (fs added : List (String × Value)) :
    Through (valueField m) item fs added (putAll fs added) := by
  induction added generalizing fs with
  | nil => exact .nil
  | cons f added ih =>
    exact .cons (fun hcolon hblanks ha hr => colon_bind _ hcolon (hm hblanks ha hr))
      (ih (Value.put fs f.1 f.2))

theorem not_isBlank_of_isDigit {y : UInt8} (hy : isDigit y = true) : isBlank y = false := by
  cases hb : isBlank y with
  | false => rfl
  | true =>
    simp only [isBlank, Bool.or_eq_true, decide_eq_true_eq] at hb
    rcases hb with ((rfl | rfl) | rfl) | rfl <;> cases hy

theorem plainOr_of {list record : Scan Value} {v : Value} (hb : Blanks b t) (h : Plain t v r)
    (hr : Apart r) : plainOr list record ⟨b, none⟩ = .ok (v, ⟨r, none⟩) := by
  unfold plainOr
  cases h with
  | nullWord =>
    rw [Scan.bind_of_ok _ (Scan.upcoming_cons hb (by decide))]
    exact literal_of 0x6E [0x75, 0x6C, 0x6C] .null r
  | trueWord =>
    rw [Scan.bind_of_ok _ (Scan.upcoming_cons hb (by decide))]
    exact literal_of 0x74 [0x72, 0x75, 0x65] (.bool true) r
  | falseWord =>
    rw [Scan.bind_of_ok _ (Scan.upcoming_cons hb (by decide))]
    exact literal_of 0x66 [0x61, 0x6C, 0x73, 0x65] (.bool false) r
  | text text =>
    rw [Scan.bind_of_ok _ (Scan.upcoming_cons hb (by decide))]
    simp only
    rw [Scan.bind_of_ok _ (Scan.skip_cons ..), Scan.bind_of_ok _ (text_of text none)]
    rfl
  | positive figures =>
    obtain ⟨y, u, rfl, hy⟩ := figures.head
    have hne : ∀ z, isDigit z = false → y ≠ z := by
      rintro z hz rfl
      rw [hy] at hz
      cases hz
    have hnull : y ≠ 0x6E := hne _ (by decide)
    have htrue : y ≠ 0x74 := hne _ (by decide)
    have hfalse : y ≠ 0x66 := hne _ (by decide)
    have hquote : y ≠ 0x22 := hne _ (by decide)
    have hlist : y ≠ 0x5B := hne _ (by decide)
    have hrecord : y ≠ 0x7B := hne _ (by decide)
    have hminus : y ≠ 0x2D := hne _ (by decide)
    rw [Scan.bind_of_ok _ (Scan.upcoming_cons hb (not_isBlank_of_isDigit hy))]
    simp only [hy, if_true]
    rw [Scan.bind_of_ok _ (numeral_of figures hr)]
    rfl
  | negative figures =>
    rw [Scan.bind_of_ok _ (Scan.upcoming_cons hb (by decide))]
    simp only
    rw [Scan.bind_of_ok _ (Scan.skip_cons ..), Scan.bind_of_ok _ (numeral_of figures hr)]
    rfl

theorem Plain.head {v : Value} (h : Plain t v r) :
    ∃ y u, t = y :: u ∧ isBlank y = false ∧ y ≠ 0x5D := by
  cases h with
  | positive figures =>
    obtain ⟨y, u, rfl, hy⟩ := figures.head
    exact ⟨y, u, rfl, not_isBlank_of_isDigit hy, by rintro rfl; cases hy⟩
  | _ => exact ⟨_, _, rfl, by decide, by decide⟩

theorem Written.head {room : Nat} {v : Value} (h : Written room t v r) :
    ∃ y u, t = y :: u ∧ isBlank y = false ∧ y ≠ 0x5D := by
  cases room with
  | zero => exact Plain.head h
  | succ room =>
    rcases h with h | ⟨u, rfl, -⟩ | ⟨u, rfl, -⟩
    · exact h.head
    · exact ⟨0x5B, u, rfl, by decide, by decide⟩
    · exact ⟨0x7B, u, rfl, by decide, by decide⟩

theorem value_of {room : Nat} : TakenBy (value room) (Written room) := by
  intro b t v r hb h hr
  induction room generalizing b t v r with
  | zero => exact plainOr_of hb h hr
  | succ room ih =>
    rcases h with h | ⟨u, rfl, as, has, rfl⟩ | ⟨u, rfl, fields, hfields, rfl⟩
    · exact plainOr_of hb h hr
    · have hbody : listBody (value room) ⟨0x5B :: u, none⟩ = .ok (as, ⟨0x5D :: r, none⟩) :=
        items_of ih Written.head Written.length_lt has (Nat.lt_succ_self _)
      rw [value_succ]
      unfold plainOr
      rw [Scan.bind_of_ok _ (Scan.upcoming_cons hb (by decide))]
      simp only
      rw [Scan.bind_of_ok _ (enclosed_of_ok hbody (endList_of r none))]
      rfl
    · have hbody : recordBody (valueField (value room)) [] ⟨0x7B :: u, none⟩ =
          .ok (kept fields, ⟨0x7D :: r, none⟩) :=
        fields_of (through_valueField ih [] fields) (fun h => Nat.le_of_lt (Written.length_lt h))
          hfields (Nat.lt_succ_self _)
      rw [value_succ]
      unfold plainOr
      rw [Scan.bind_of_ok _ (Scan.upcoming_cons hb (by decide))]
      simp only
      rw [Scan.bind_of_ok _ (enclosed_of_ok hbody (endRecord_of r none))]
      rfl

/-! ### Whole texts -/

theorem abreast_document : Abreast o (document anyValue) (document anyValue) b
    fun v _ => o.ending = none ∧ IsText b v := by
  unfold document
  refine (abreast_value depthLimit).bind fun v r hv => ?_
  obtain ⟨t, hb, hv⟩ := hv
  refine Abreast.upcoming_bind (fun y u hr => .fail _ _) fun hr he => ?_
  exact .pure ⟨he, t, r, hb, hv, hr⟩

theorem document_of {v : Value} (h : IsText b v) :
    document anyValue ⟨b, none⟩ = .ok (v, ⟨[], none⟩) := by
  obtain ⟨t, r, hb, hv, hr⟩ := h
  unfold document
  rw [anyValue, Scan.bind_of_ok _ (value_of hb hv (hr.apart fun _ h => nomatch h)),
    Scan.bind_of_ok _ (Scan.upcoming_end hr)]
  rfl

/-- What is read as a whole is a JSON text with that value, and there is no fault behind it. -/
theorem readFeed_eq_ok {v : Value} {e : Option Fault} :
    readFeed anyValue ⟨b, e⟩ = .ok v ↔ e = none ∧ IsText b v := by
  constructor
  · intro h
    cases hd : document anyValue ⟨b, e⟩ with
    | error s =>
      rw [readFeed, hd] at h
      cases h
    | ok x =>
      rw [readFeed, hd] at h
      obtain rfl : x.1 = v := Except.ok.inj h
      -- Nothing more comes where nothing more is expected.
      have hab := abreast_document (o := ⟨e, [], none, fun _ => ⟨rfl, rfl⟩⟩) (b := b)
      cases hab with
      | faulted _ hs _ => rw [hd] at hs; cases hs
      | refused hs _ => rw [hd] at hs; cases hs
      | read hd' _ hv =>
        rw [hd] at hd'
        obtain rfl := Except.ok.inj hd'
        exact hv
  · rintro ⟨rfl, h⟩
    rw [readFeed, document_of h]
    rfl

/-- A fault behind the beginning of a JSON text is what stops the reading. -/
theorem readFeed_of_begun {v : Value} {c : Bytes} (x : Fault) (h : IsText (b ++ c) v) :
    ∃ s, readFeed anyValue ⟨b, some x⟩ = .error s ∧ s.cause = .fault x := by
  have hab := abreast_document (o := ⟨some x, c, none, fun h => nomatch h⟩) (b := b)
  cases hab with
  | faulted hx hs hc =>
    obtain rfl := Option.some.inj hx
    refine ⟨_, ?_, hc⟩
    rw [readFeed, hs]
    rfl
  | refused _ hs =>
    rw [document_of h] at hs
    cases hs
  | read _ _ hv => cases hv.1

end Resources.Json
