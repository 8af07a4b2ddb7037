import Resources.Proofs.Json.Abreast
import Resources.Proofs.Text.Decode

/-! Texts between quotes: what is read as one is written as one, and the other way round. -/
namespace Resources.Json

open Scan (hexValue fourHex textByte pairByte escaped textBytes)

variable {β : Type} {b c r t bs got : Bytes} {o : Outlook} {n fuel : Nat} {s : String}

/-! ### Escapes -/

theorem Abreast.textByte_bind {k k' : UInt8 → Scan β} {H : β → Bytes → Prop}
    (h : ∀ y t, b = y :: t → Abreast o (k y) (k' y) t H) :
    Abreast o (textByte >>= k) (textByte >>= k') b H := by
  unfold textByte
  rw [bind_assoc, bind_assoc]
  refine next_bind (fun y t hb => ?_) fun _ _ => .fail _ _
  rw [pure_bind, pure_bind]
  exact h y t hb

theorem abreast_fourHex : Abreast o fourHex fourHex b (FourHex b) := by
  unfold fourHex
  refine .textByte_bind fun y₁ t₁ h₁ => .textByte_bind fun y₂ t₂ h₂ =>
    .textByte_bind fun y₃ t₃ h₃ => .textByte_bind fun y₄ t₄ h₄ => ?_
  subst h₁ h₂ h₃ h₄
  split
  · rename_i a₁ a₂ a₃ a₄ hv₁ hv₂ hv₃ hv₄
    exact .pure ⟨_, _, _, _, a₁, a₂, a₃, a₄, rfl, hv₁, hv₂, hv₃, hv₄, rfl⟩
  · exact .fail _ _

theorem abreast_pairByte {due : UInt8} : Abreast o (pairByte due) (pairByte due) b
    fun _ r => b = due :: r := by
  unfold pairByte
  refine Abreast.peek_bind (fun y t hb => Abreast.skip_bind ?_) fun _ _ => .fail _ _
  split
  · rename_i hy
    exact .pure (hb.trans (by rw [hy]))
  · exact .fail _ _

theorem abreast_escaped : Abreast o escaped escaped b (Escape b) := by
  unfold escaped
  refine .textByte_bind fun y t hb => ?_
  subst hb
  split
  · exact .pure (.short (by decide))
  · exact .pure (.short (by decide))
  · exact .pure (.short (by decide))
  · exact .pure (.short (by decide))
  · exact .pure (.short (by decide))
  · exact .pure (.short (by decide))
  · exact .pure (.short (by decide))
  · exact .pure (.short (by decide))
  · refine abreast_fourHex.bind fun n r hn => ?_
    split
    · exact .fail _ _
    · rename_i hlow
      split
      · refine .pure (.unit hn ?_)
        omega
      · rename_i hplain
        refine abreast_pairByte.bind fun _ r₁ hr₁ => abreast_pairByte.bind fun _ r₂ hr₂ =>
          abreast_fourHex.bind fun m r₃ hm => ?_
        subst hr₁ hr₂
        split
        · exact .fail _ _
        · refine .pure (.pair hn hm ?_ ?_)
          · omega
          · omega
  · exact .fail _ _

theorem FourHex.length_lt (h : FourHex t n r) : r.length < t.length := by
  obtain ⟨_, _, _, _, _, _, _, _, rfl, -⟩ := h
  simp only [List.length_cons]
  omega

theorem Escape.length_lt (h : Escape t c r) : r.length < t.length := by
  cases h with
  | short _ => simp
  | unit hex _ => exact Nat.lt_succ_of_lt hex.length_lt
  | pair high low _ _ =>
    have h₁ := high.length_lt
    have h₂ := low.length_lt
    simp only [List.length_cons] at h₁ ⊢
    omega

theorem Quoted.length_lt (h : Quoted t bs r) : r.length < t.length := by
  induction h with
  | close => exact Nat.lt_succ_self _
  | plain _ _ _ _ ih => exact Nat.lt_succ_of_lt ih
  | escape stands _ ih => exact Nat.lt_succ_of_lt (Nat.lt_trans ih stands.length_lt)

/-! ### Quoted bytes -/

theorem abreast_textBytes (k : Nat) (hb : b.length < fuel) :
    Abreast o (textBytes fuel got) (textBytes (fuel + k) got) b
      fun s r => ∃ bs, Quoted b bs r ∧ got.reverse ++ bs = utf8 s := by
  induction fuel generalizing b got with
  | zero => omega
  | succ fuel ih =>
    rw [Nat.succ_add]
    unfold textBytes
    refine Abreast.peek_bind (fun y t hbt => ?_) fun _ _ => .fail _ _
    subst hbt
    split
    · rename_i hnone
      cases hnone
    · rename_i hy
      obtain rfl := Option.some.inj hy
      cases hd : Utf8.decode got.reverse with
      | ok cs =>
        rw [Utf8.decode_eq_ok] at hd
        exact Abreast.skip_bind (.pure ⟨[], .close, by simp [utf8, hd]⟩)
      | error m => exact .refused rfl rfl
    · rename_i hy
      obtain rfl := Option.some.inj hy
      refine Abreast.skip_bind (abreast_escaped.bind fun c u hc => ?_)
      have hu : u.length < fuel := by
        have := hc.length_lt
        simp only [List.length_cons] at hb
        omega
      refine (ih hu).mono ?_
      rintro s r ⟨bs, hbs, hs⟩
      exact ⟨c ++ bs, .escape hc hbs, by simpa using hs⟩
    · rename_i y' hquote hslash hy
      obtain rfl := Option.some.inj hy
      refine Abreast.skip_bind ?_
      split
      · exact .fail _ _
      · rename_i hprinted
        refine (ih (by simpa using hb)).mono ?_
        rintro s r ⟨bs, hbs, hs⟩
        refine ⟨y :: bs, .plain ?_ ?_ ?_ hbs, by simpa using hs⟩
        · exact UInt8.not_lt.1 hprinted
        · rintro rfl
          exact hquote rfl
        · rintro rfl
          exact hslash rfl

theorem abreast_text : Abreast o Scan.text Scan.text b (Text b) := by
  refine Abreast.get_bind ?_
  simp only [o.fuel]
  refine (abreast_textBytes _ (Nat.lt_succ_self _)).mono ?_
  rintro s r ⟨bs, hbs, rfl⟩
  exact hbs

/-! ### Texts that are written -/

theorem textByte_cons (y : UInt8) (t : Bytes) (e : Option Fault) :
    textByte ⟨y :: t, e⟩ = .ok (y, ⟨t, e⟩) := rfl

theorem fourHex_of (h : FourHex t n r) (e : Option Fault) : fourHex ⟨t, e⟩ = .ok (n, ⟨r, e⟩) := by
  obtain ⟨y₁, y₂, y₃, y₄, a₁, a₂, a₃, a₄, rfl, h₁, h₂, h₃, h₄, rfl⟩ := h
  unfold fourHex
  rw [Scan.bind_of_ok _ (textByte_cons ..), Scan.bind_of_ok _ (textByte_cons ..),
    Scan.bind_of_ok _ (textByte_cons ..), Scan.bind_of_ok _ (textByte_cons ..)]
  simp only [h₁, h₂, h₃, h₄]
  rfl

theorem pairByte_cons (y : UInt8) (t : Bytes) (e : Option Fault) :
    pairByte y ⟨y :: t, e⟩ = .ok ((), ⟨t, e⟩) := by
  change (if y = y then pure () else _ : Scan Unit) ⟨t, e⟩ = _
  rw [if_pos rfl]
  rfl

theorem escaped_of (h : Escape t c r) (e : Option Fault) : escaped ⟨t, e⟩ = .ok (c, ⟨r, e⟩) := by
  unfold escaped
  cases h with
  | short known =>
    simp only [shortEscapes, List.mem_cons, Prod.mk.injEq, List.not_mem_nil, or_false] at known
    rcases known with ⟨rfl, rfl⟩ | ⟨rfl, rfl⟩ | ⟨rfl, rfl⟩ | ⟨rfl, rfl⟩ | ⟨rfl, rfl⟩ | ⟨rfl, rfl⟩ |
      ⟨rfl, rfl⟩ | ⟨rfl, rfl⟩ <;> rfl
  | unit hex plain =>
    rename_i t n
    have hlow : ¬ (0xDC00 ≤ n ∧ n ≤ 0xDFFF) := by omega
    have hunit : n < 0xD800 ∨ 0xDBFF < n := by omega
    rw [Scan.bind_of_ok _ (textByte_cons ..)]
    simp only
    rw [Scan.bind_of_ok _ (fourHex_of hex e), if_neg hlow, if_pos hunit]
    rfl
  | pair high low first second =>
    rename_i t u n m
    have hlow : ¬ (0xDC00 ≤ n ∧ n ≤ 0xDFFF) := by omega
    have hpair : ¬ (n < 0xD800 ∨ 0xDBFF < n) := by omega
    have hsecond : ¬ (m < 0xDC00 ∨ 0xDFFF < m) := by omega
    rw [Scan.bind_of_ok _ (textByte_cons ..)]
    simp only
    rw [Scan.bind_of_ok _ (fourHex_of high e), if_neg hlow, if_neg hpair,
      Scan.bind_of_ok _ (pairByte_cons ..), Scan.bind_of_ok _ (pairByte_cons ..),
      Scan.bind_of_ok _ (fourHex_of low e), if_neg hsecond]
    rfl

theorem textBytes_of (h : Quoted t bs r) (hf : t.length < fuel) (hs : got.reverse ++ bs = utf8 s)
    (e : Option Fault) : textBytes fuel got ⟨t, e⟩ = .ok (s, ⟨r, e⟩) := by
  induction h generalizing fuel got with
  | close =>
    cases fuel with
    | zero => omega
    | succ fuel =>
      have hd : Utf8.decode got.reverse = .ok s.toList := by
        rw [Utf8.decode_eq_ok]
        simpa [utf8] using hs
      unfold textBytes
      rw [Scan.bind_of_ok _ (Scan.peek_cons ..)]
      simp only [hd]
      rw [Scan.bind_of_ok _ (Scan.skip_cons ..), String.ofList_toList]
      rfl
  | plain printed quote backslash _ ih =>
    cases fuel with
    | zero => omega
    | succ fuel =>
      unfold textBytes
      rw [Scan.bind_of_ok _ (Scan.peek_cons ..)]
      simp only
      rw [Scan.bind_of_ok _ (Scan.skip_cons ..), if_neg (UInt8.not_lt.2 printed)]
      exact ih (by simpa using hf) (by simpa using hs)
  | escape stands _ ih =>
    cases fuel with
    | zero => omega
    | succ fuel =>
      have hlength := stands.length_lt
      unfold textBytes
      rw [Scan.bind_of_ok _ (Scan.peek_cons ..)]
      simp only
      rw [Scan.bind_of_ok _ (Scan.skip_cons ..), Scan.bind_of_ok _ (escaped_of stands e)]
      refine ih ?_ (by simpa using hs)
      simp only [List.length_cons] at hf
      omega

theorem text_of (h : Text t s r) (e : Option Fault) : Scan.text ⟨t, e⟩ = .ok (s, ⟨r, e⟩) := by
  have hs : ([] : Bytes).reverse ++ utf8 s = utf8 s := rfl
  exact textBytes_of h (Nat.lt_succ_self _) hs e

end Resources.Json
