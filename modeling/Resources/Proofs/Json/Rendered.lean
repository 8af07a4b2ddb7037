import Mathlib.Tactic.IntervalCases
import Resources.Json.Value
import Resources.Proofs.Json.Value

/-! What is rendered is written as JSON, byte for byte: texts with their escapes, whole numbers of 64
bits, lists and records. -/
namespace Resources.Json

open Scan (hexValue gatherDigits)

variable {α : Type} {c : Char} {cs : List Char} {s : String} {t u bs r : Bytes} {ds es : List Nat}
  {m n d : Nat}

theorem utf8_append (s t : String) : utf8 (s ++ t) = utf8 s ++ utf8 t := by simp [utf8]

/-! ### Texts -/

theorem hexValue_hexDigit (hd : d < 16) :
    (hexDigit d).toNat < 0x80 ∧ hexValue (hexDigit d).toNat.toUInt8 = some d := by
  interval_cases d <;> decide

/-- Characters that have an escape of one letter. -/
def shortlyEscaped : List Char := ['"', '\\', '\x08', '\t', '\n', '\x0c', '\r']

theorem escape_control (hs : c ∉ shortlyEscaped) (hc : c.toNat < 0x20) :
    escape c = ['\\', 'u', '0', '0', hexDigit (c.toNat / 16), hexDigit (c.toNat % 16)] := by
  simp only [shortlyEscaped, List.mem_cons, List.not_mem_nil, or_false, not_or] at hs
  simp [escape, hs, hc]

theorem escape_plain (hs : c ∉ shortlyEscaped) (hc : ¬ c.toNat < 0x20) : escape c = [c] := by
  simp only [shortlyEscaped, List.mem_cons, List.not_mem_nil, or_false, not_or] at hs
  simp [escape, hs, hc]

/-- Bytes that need no escape stand for themselves. -/
theorem quoted_append {b : Bytes} (hb : ∀ y ∈ b, 0x20 ≤ y ∧ y ≠ 0x22 ∧ y ≠ 0x5C)
    (h : Quoted t bs r) : Quoted (b ++ t) (b ++ bs) r := by
  induction b with
  | nil => exact h
  | cons y b ih =>
    obtain ⟨hprinted, hquote, hslash⟩ := hb y List.mem_cons_self
    exact .plain hprinted hquote hslash (ih fun z hz => hb z (List.mem_cons_of_mem _ hz))

/-- A character that is neither a control character nor a quote or a backslash has no byte that is. -/
theorem plain_of_mem_encodeChar (hs : c ∉ shortlyEscaped) (hc : ¬ c.toNat < 0x20) {y : UInt8}
    (hy : y ∈ Utf8.encodeChar c) : 0x20 ≤ y ∧ y ≠ 0x22 ∧ y ≠ 0x5C := by
  by_cases hascii : y.toNat < 0x80
  · have hcy := (Utf8.mem_encodeChar hy hascii).1
    refine ⟨UInt8.le_iff_toNat_le.2 (hcy ▸ Nat.not_lt.1 hc), ?_, ?_⟩
    · rintro rfl
      obtain rfl : c = '"' := Char.toNat_inj.1 hcy
      exact hs (by decide)
    · rintro rfl
      obtain rfl : c = '\\' := Char.toNat_inj.1 hcy
      exact hs (by decide)
  · refine ⟨UInt8.le_iff_toNat_le.2 ?_, ?_, ?_⟩
    · exact Nat.le_trans (by decide) (Nat.not_lt.1 hascii)
    · rintro rfl
      exact hascii (by decide)
    · rintro rfl
      exact hascii (by decide)

/-- An escape stands for its character. -/
theorem quoted_escape (c : Char) (h : Quoted t bs r) :
    Quoted (Utf8.encode (escape c) ++ t) (Utf8.encodeChar c ++ bs) r := by
  by_cases hs : c ∈ shortlyEscaped
  · simp only [shortlyEscaped, List.mem_cons, List.not_mem_nil, or_false] at hs
    rcases hs with rfl | rfl | rfl | rfl | rfl | rfl | rfl <;> exact .escape (.short (by decide)) h
  by_cases hc : c.toNat < 0x20
  -- Two zeros stand before the two digits, which are read back as one unit below the surrogates.
  · obtain ⟨hhigh, hhigh'⟩ := hexValue_hexDigit (d := c.toNat / 16) (by omega)
    obtain ⟨hlow, hlow'⟩ := hexValue_hexDigit (d := c.toNat % 16) (by omega)
    have hhex : FourHex (0x30 :: 0x30 :: (hexDigit (c.toNat / 16)).toNat.toUInt8 ::
        (hexDigit (c.toNat % 16)).toNat.toUInt8 :: t) c.toNat t :=
      ⟨_, _, _, _, 0, 0, c.toNat / 16, c.toNat % 16, rfl, rfl, rfl, hhigh', hlow', by omega⟩
    have hunit := Escape.unit hhex (Or.inl (by omega))
    rw [Char.ofNat_toNat] at hunit
    rw [escape_control hs hc, Utf8.encode_ascii (by decide), Utf8.encode_ascii (by decide),
      Utf8.encode_ascii (by decide), Utf8.encode_ascii (by decide), Utf8.encode_ascii hhigh,
      Utf8.encode_ascii hlow]
    exact .escape hunit h
  · rw [escape_plain hs hc, Utf8.encode_cons, Utf8.encode_nil, List.append_nil]
    exact quoted_append (fun y hy => plain_of_mem_encodeChar hs hc hy) h

theorem quoted_flatMap_escape (cs : List Char) (r : Bytes) :
    Quoted (Utf8.encode (cs.flatMap escape) ++ 0x22 :: r) (Utf8.encode cs) r := by
  induction cs with
  | nil => exact .close
  | cons c cs ih =>
    rw [List.flatMap_cons, Utf8.encode_append, Utf8.encode_cons, List.append_assoc]
    exact quoted_escape c ih

/-- A text that is quoted is written as the text. -/
theorem text_quote (s : String) (r : Bytes) : ∃ t, utf8 (quote s) ++ r = 0x22 :: t ∧ Text t s r := by
  refine ⟨_, ?_, quoted_flatMap_escape s.toList r⟩
  have hquote : utf8 (quote s) = 0x22 :: (Utf8.encode (s.toList.flatMap escape) ++ [0x22]) := by
    rw [utf8, quote, String.toList_ofList, List.cons_append, Utf8.encode_ascii (by decide),
      Utf8.encode_append]
    rfl
  rw [hquote]
  simp

/-! ### Numbers -/

theorem Digits.append (h : Digits t ds u) (h' : Digits u es r) : Digits t (ds ++ es) r := by
  obtain ⟨bs, rfl, hbs, rfl⟩ := h
  obtain ⟨bs', rfl, hbs', rfl⟩ := h'
  refine ⟨bs ++ bs', (List.append_assoc _ _ _).symm, fun y hy => ?_, List.map_append.symm⟩
  exact (List.mem_append.1 hy).elim (hbs y) (hbs' y)

theorem ofDigits_append (n : Nat) (ds es : List Nat) :
    ofDigits n (ds ++ es) = ofDigits (ofDigits n ds) es := List.foldl_append

theorem digits_digitChar (hd : d < 10) (r : Bytes) :
    Digits (Utf8.encode [d.digitChar] ++ r) [d] r := by
  have hn : d.digitChar.toNat = 0x30 + d := Nat.toNat_digitChar_of_lt_ten hd
  have hy : (0x30 + d).toUInt8.toNat = 0x30 + d := Utf8.toNat_toUInt8 (by omega)
  refine ⟨[(0x30 + d).toUInt8], ?_, fun y hy' => ?_, ?_⟩
  · rw [Utf8.encode_ascii (by omega), hn]
    rfl
  · obtain rfl := List.mem_singleton.1 hy'
    rw [isDigit_iff, hy]
    omega
  · rw [List.map_singleton, hy]
    simp

/-- The digits of a number make it, and the first is no zero unless it is the only one. -/
theorem digits_toDigits (n : Nat) : ∃ ds, (∀ r, Digits (Utf8.encode (Nat.toDigits 10 n) ++ r) ds r) ∧
    ds ≠ [] ∧ (ds.head? = some 0 → n = 0) ∧ ofDigits 0 ds = n := by
  -- The number without its last digit comes first, so that its first digit is the first of all.
  induction n using Nat.strongRecOn with
  | ind n ih =>
    by_cases hn : n < 10
    · rw [Nat.toDigits_of_lt_base hn]
      exact ⟨[n], digits_digitChar hn, by simp, by simp, by simp [ofDigits]⟩
    · obtain ⟨ds, hds, hne, hhead, hvalue⟩ := ih (n / 10) (by omega)
      rw [Nat.toDigits_of_base_le (by decide) (Nat.not_lt.1 hn)]
      refine ⟨ds ++ [n % 10], fun r => ?_, by simp, fun h => ?_, ?_⟩
      · rw [Utf8.encode_append, List.append_assoc]
        exact (hds _).append (digits_digitChar (by omega) r)
      · rw [List.head?_append, Option.or_of_isSome (by simpa using hne)] at h
        have := hhead h
        omega
      · rw [ofDigits_append, hvalue]
        exact Nat.div_add_mod' n 10

/-- Digits are gathered as long as 64 bits hold them. -/
theorem gatherDigits_of_lt (h : ofDigits n ds < Nat.pow 2 64) :
    gatherDigits n ds = (ofDigits n ds, 0) := by
  induction ds generalizing n with
  | nil => rfl
  | cons d ds ih =>
    rw [ofDigits_cons] at h ⊢
    rw [gatherDigits, if_pos (Nat.lt_of_le_of_lt (le_ofDigits _ _) h), ih h]

theorem whole_toDigits (n : Nat) : ∃ ds, (∀ r, Whole (Utf8.encode (Nat.toDigits 10 n) ++ r) ds r) ∧
    ofDigits 0 ds = n := by
  by_cases hn : n = 0
  · subst hn
    exact ⟨[0], fun r => Or.inl ⟨rfl, rfl⟩, rfl⟩
  · obtain ⟨ds, hds, hne, hhead, hvalue⟩ := digits_toDigits n
    exact ⟨ds, fun r => Or.inr ⟨hne, fun h => hn (hhead h), hds r⟩, hvalue⟩

/-- A whole number that 64 bits hold is written as itself. -/
theorem figures_render (hn : n < Nat.pow 2 64) (r : Bytes) :
    Figures true (utf8 (Number.render (.whole n)) ++ r) (.whole n) r := by
  obtain ⟨ds, hds, hvalue⟩ := whole_toDigits n
  have hgather : gatherDigits 0 ds = (n, 0) := by
    rw [gatherDigits_of_lt (hvalue ▸ hn), hvalue]
  have hmeaning : meaning? true ds [] true [] = some (.whole n) := by
    rw [meaning?_whole (by rw [hgather]), hgather]
    rfl
  have hrender : utf8 (Number.render (.whole n)) = Utf8.encode (Nat.toDigits 10 n) := by
    change Utf8.encode (Nat.repr n).toList = _
    rw [Nat.toList_repr]
  rw [hrender]
  exact ⟨ds, [], true, [], r, r, hds r, Or.inl ⟨rfl, rfl⟩, Or.inl ⟨rfl, rfl, rfl⟩, hmeaning⟩

/-! ### Items -/

theorem utf8_intercalate_cons (s s' : String) (ss : List String) :
    utf8 (",".intercalate (s :: s' :: ss)) = utf8 s ++ 0x2C :: utf8 (",".intercalate (s' :: ss)) := by
  have hcomma : Utf8.encode ",".toList = [0x2C] := rfl
  simp only [utf8, String.toList_intercalate, List.map_cons, List.intercalate_cons_cons,
    Utf8.encode_append, hcomma, List.append_assoc, List.singleton_append]

section

variable {ι : Type} {item : Bytes → α → Bytes → Prop} {close : UInt8} {f : ι → String} {g : ι → α}
  {i : ι} {is : List ι}

/-- The first item stands in front; what is behind it goes on with a comma or closes. -/
theorem further_intercalate (hf : ∀ i ∈ is, ∀ r, item (utf8 (f i) ++ r) (g i) r) (r : Bytes) :
    ∃ t, utf8 (",".intercalate ((i :: is).map f)) ++ close :: r = utf8 (f i) ++ t ∧
      Further item close t (is.map g) r := by
  induction is generalizing i with
  | nil => exact ⟨close :: r, by simp [String.intercalate_singleton], .close (Blanks.refl _)⟩
  | cons j is ih =>
    obtain ⟨t, ht, hon⟩ := ih (i := j) fun k hk => hf k (List.mem_cons_of_mem j hk)
    refine ⟨0x2C :: (utf8 (f j) ++ t), ?_,
      .more (Blanks.refl _) (Blanks.refl _) (hf j List.mem_cons_self t) hon⟩
    rw [List.map_cons, List.map_cons, utf8_intercalate_cons, List.append_assoc, List.cons_append,
      ← List.map_cons, ht]

/-- Items are written one after the other if each is written as itself before anything. -/
theorem items_intercalate (hf : ∀ i ∈ is, ∀ r, item (utf8 (f i) ++ r) (g i) r) (r : Bytes) :
    Items item close (utf8 (",".intercalate (is.map f)) ++ close :: r) (is.map g) r := by
  cases is with
  | nil => exact .none (Blanks.refl _)
  | cons i is =>
    obtain ⟨t, ht, hon⟩ := further_intercalate (i := i)
      (fun k hk => hf k (List.mem_cons_of_mem i hk)) r
    rw [ht]
    exact .some (Blanks.refl _) (hf i List.mem_cons_self t) hon

theorem renderItems_eq_map (vs : List Value) : Value.renderItems vs = vs.map Value.render := by
  induction vs with
  | nil => rfl
  | cons v vs ih => rw [Value.renderItems, ih, List.map_cons]

theorem items_render {v : ι → Value} (hv : ∀ i ∈ is, ∀ r, item (utf8 (v i).render ++ r) (g i) r)
    (r : Bytes) : ∃ u, utf8 (Value.list (is.map v)).render ++ r = 0x5B :: u ∧
      Items item 0x5D u (is.map g) r := by
  refine ⟨_, ?_, items_intercalate hv r⟩
  have hopen : utf8 "[" = [0x5B] := rfl
  have hclose : utf8 "]" = [0x5D] := rfl
  rw [Value.render, renderItems_eq_map, List.map_map, utf8_append, utf8_append, hopen, hclose]
  simp [Function.comp_def]

end

/-- A value is rendered here. -/
def Rendered (t : Bytes) (v : Value) (r : Bytes) : Prop := t = utf8 v.render ++ r

theorem Rendered.length_le {v : Value} (h : Rendered t v r) : r.length ≤ t.length := by
  rw [h, List.length_append]
  omega

/-- A field of a record as it is rendered. -/
def member (f : String × Value) : String := quote f.1 ++ ":" ++ f.2.render

theorem field_member (f : String × Value) (r : Bytes) :
    Field Rendered (utf8 (member f) ++ r) f r := by
  obtain ⟨u, hu, hkey⟩ := text_quote f.1 (0x3A :: (utf8 f.2.render ++ r))
  have hcolon : utf8 ":" = [0x3A] := rfl
  have hmember : utf8 (member f) ++ r = utf8 (quote f.1) ++ 0x3A :: (utf8 f.2.render ++ r) := by
    simp [member, utf8_append, hcolon]
  exact ⟨u, _, _, _, hmember.trans hu, hkey, Blanks.refl _, Blanks.refl _, rfl⟩

theorem renderFields_eq_map (fs : List (String × Value)) :
    Value.renderFields fs = fs.map member := by
  induction fs with
  | nil => rfl
  | cons f fs ih => rw [Value.renderFields, ih, List.map_cons, member]

theorem fields_render (fs : List (String × Value)) (r : Bytes) :
    ∃ u, utf8 (Value.record fs).render ++ r = 0x7B :: u ∧
      Items (Field Rendered) 0x7D u fs r := by
  have hitems : Items (Field Rendered) 0x7D (utf8 (",".intercalate (fs.map member)) ++ 0x7D :: r)
      (fs.map id) r := items_intercalate (fun f _ => field_member f) r
  rw [List.map_id] at hitems
  refine ⟨_, ?_, hitems⟩
  have hopen : utf8 "\x7b" = [0x7B] := rfl
  have hclose : utf8 "\x7d" = [0x7D] := rfl
  rw [Value.render, renderFields_eq_map, utf8_append, utf8_append, hopen, hclose]
  simp

end Resources.Json
