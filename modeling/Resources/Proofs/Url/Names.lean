import Mathlib.Data.List.TakeDrop
import Resources.Proofs.Url.Local

/-! The URL of names, read back from its text. Each name is one segment again, but for climbs, which
are walked. -/
namespace Resources.Url

open Percent (nameSet pathSet encode encodeByte encodeBytes)

variable {b : UInt8} {bs : Bytes} {c : Char} {t r : List Char} {s : Segment} {ss stack : List Segment}

/-! ### Characters of names -/

/-- A character that the encoding of names leaves or makes. -/
def NameChar (c : Char) : Prop := ∃ b : UInt8, c = Char.ofNat b.toNat ∧ (nameSet b = false ∨ b = 0x25)

theorem nameChar_digit {n : Nat} (h : n < 16) : NameChar (Percent.digit n) := by
  have hall : ∀ m ∈ List.range 16,
      Percent.digit m = Char.ofNat (Percent.digit m).toNat.toUInt8.toNat ∧
        nameSet (Percent.digit m).toNat.toUInt8 = false := by decide
  obtain ⟨hc, hset⟩ := hall n (List.mem_range.2 h)
  exact ⟨_, hc, Or.inl hset⟩

theorem nameChar_of_mem (h : c ∈ encodeBytes nameSet bs) : NameChar c := by
  obtain ⟨b, -, hb⟩ := List.mem_flatMap.1 h
  have hlt : b.toNat < 256 := b.toNat_lt
  unfold encodeByte at hb
  cases hs : nameSet b with
  | false =>
    simp only [hs, Bool.false_eq_true, if_false, List.mem_singleton] at hb
    exact ⟨b, hb, Or.inl hs⟩
  | true =>
    simp only [hs, if_true, List.mem_cons, List.not_mem_nil, or_false] at hb
    rcases hb with rfl | rfl | rfl
    · exact ⟨0x25, rfl, Or.inr rfl⟩
    · exact nameChar_digit (by omega)
    · exact nameChar_digit (by omega)

/-- What the parser makes of the characters of names. -/
structure Unmarked (c : Char) : Prop where
  ascii : c.toNat < 0x80
  visible : 0x20 < c.toNat
  kept : pathSet c.toNat.toUInt8 = false
  no_end : endsAuthority true c = false

theorem NameChar.unmarked (h : NameChar c) : Unmarked c := by
  have hall : ∀ m ∈ List.range 256, (nameSet m.toUInt8 = false ∨ m.toUInt8 = 0x25) →
      (Char.ofNat m).toNat < 0x80 ∧ 0x20 < (Char.ofNat m).toNat ∧
        pathSet (Char.ofNat m).toNat.toUInt8 = false ∧
          endsAuthority true (Char.ofNat m) = false := by decide +kernel
  obtain ⟨b, rfl, hb⟩ := h
  have hlt : b.toNat < 256 := b.toNat_lt
  have hbyte : b.toNat.toUInt8 = b := by simp
  obtain ⟨hascii, hvisible, hkept, hend⟩ := hall b.toNat (List.mem_range.2 hlt) (hbyte.symm ▸ hb)
  exact ⟨hascii, hvisible, hkept, hend⟩

/-- Text of such characters stays as it is. -/
theorem encode_eq_self (h : ∀ c ∈ t, Unmarked c) : encode pathSet t = t := by
  induction t with
  | nil => rfl
  | cons c t ih =>
    have hc := h c List.mem_cons_self
    have hcons : encode pathSet (c :: t) =
        encodeByte pathSet c.toNat.toUInt8 ++ encode pathSet t := by
      rw [encode, Utf8.encode_ascii hc.ascii]
      rfl
    have hback : (c.toNat.toUInt8).toNat = c.toNat := Utf8.toNat_toUInt8 (by have := hc.ascii; omega)
    rw [hcons, ih fun c hm => h c (List.mem_cons_of_mem _ hm), encodeByte, hc.kept,
      if_neg Bool.false_ne_true, hback, Char.ofNat_toNat]
    rfl

theorem strip_eq_self (h : ∀ c ∈ t, 0x20 < c.toNat) : strip t = t := by
  have hblank : ∀ {t : List Char}, (∀ c ∈ t, 0x20 < c.toNat) →
      t.dropWhile (fun c => decide (c.toNat ≤ 0x20)) = t := by
    intro t ht
    cases t with
    | nil => rfl
    | cons c t =>
      have hc := ht c List.mem_cons_self
      rw [List.dropWhile_cons_of_neg]
      simpa using hc
  unfold strip
  simp only
  rw [hblank h, hblank (by simpa using h), List.reverse_reverse, List.filter_eq_self]
  intro c hc
  have hv := h c hc
  simp only [Bool.and_eq_true, decide_eq_true_eq]
  refine ⟨⟨?_, ?_⟩, ?_⟩ <;> rintro rfl <;> exact absurd hv (by decide)

/-! ### Segments -/

theorem splitPath_ne_nil (special : Bool) (t : List Char) : (splitPath special t).1 ≠ [] := by
  cases t with
  | nil => simp [splitPath]
  | cons c r =>
    unfold splitPath
    split
    · simp
    · simp only
      split
      · simp
      · split <;> simp

/-- Text without marks goes to the front of the first segment. -/
theorem splitPath_append (h : ∀ c ∈ t, Unmarked c) (r : List Char) : ∃ s ss,
    (splitPath true r).1 = s :: ss ∧ splitPath true (t ++ r) = ((t ++ s) :: ss, (splitPath true r).2) := by
  induction t with
  | nil =>
    obtain ⟨s, ss, hs⟩ := List.exists_cons_of_ne_nil (splitPath_ne_nil true r)
    exact ⟨s, ss, hs, by rw [List.nil_append, List.nil_append, ← hs]⟩
  | cons c t ih =>
    obtain ⟨s, ss, hs, ht⟩ := ih fun c hm => h c (List.mem_cons_of_mem _ hm)
    have hend := (h c List.mem_cons_self).no_end
    simp only [endsAuthority, Bool.or_eq_false_iff, decide_eq_false_iff_not, Bool.true_and] at hend
    obtain ⟨⟨⟨hslash, hquery⟩, hfragment⟩, hback⟩ := hend
    refine ⟨s, ss, hs, ?_⟩
    rw [List.cons_append, splitPath, if_neg (by simp [hquery, hfragment]), ht]
    simp [hslash, hback]

theorem splitPath_slash (r : List Char) : splitPath true ('/' :: r) =
    ([] :: (splitPath true r).1, (splitPath true r).2) := by
  rw [splitPath, if_neg (by simp)]
  simp

/-- Segments without marks are split where they are joined. -/
theorem splitPath_intercalate (hne : ss ≠ []) (h : ∀ s ∈ ss, ∀ c ∈ s, Unmarked c) :
    splitPath true (List.intercalate ['/'] ss) = (ss, []) := by
  induction ss with
  | nil => exact absurd rfl hne
  | cons s ss ih =>
    have hs := h s List.mem_cons_self
    cases ss with
    | nil =>
      obtain ⟨s', ss', hnil, hsplit⟩ := splitPath_append hs []
      obtain ⟨rfl, rfl⟩ : s' = [] ∧ ss' = [] := by simpa [splitPath, eq_comm] using hnil
      simpa [splitPath] using hsplit
    | cons s' ss =>
      have hrest := ih (by simp) fun t ht => h t (List.mem_cons_of_mem _ ht)
      rw [List.intercalate_cons_cons, List.append_assoc, List.singleton_append]
      obtain ⟨t, ts, hnil, hsplit⟩ := splitPath_append hs ('/' :: List.intercalate ['/'] (s' :: ss))
      rw [splitPath_slash, hrest] at hnil hsplit
      obtain ⟨rfl, rfl⟩ := List.cons.inj hnil
      rw [hsplit, List.append_nil]

/-! ### Reading -/

/-- The segments of the URL of names. -/
def nameSegments (names : List Bytes) : List Segment :=
  if names = [] then [[]] else names.map (encodeBytes nameSet)

theorem nameSegments_ne_nil (names : List Bytes) : nameSegments names ≠ [] := by
  unfold nameSegments
  split <;> simp [*]

theorem path_ofNames (names : List Bytes) :
    (Url.ofNames names).path = .segments (nameSegments names) := by
  cases names <;> rfl

theorem unmarked_nameSegments {names : List Bytes} : ∀ s ∈ nameSegments names, ∀ c ∈ s, Unmarked c := by
  intro s hs c hc
  unfold nameSegments at hs
  split at hs
  · simp_all
  · obtain ⟨bs, -, rfl⟩ := List.mem_map.1 hs
    exact (nameChar_of_mem hc).unmarked

theorem flatMap_slash (hne : ss ≠ []) :
    ss.flatMap ('/' :: ·) = '/' :: List.intercalate ['/'] ss := by
  induction ss with
  | nil => exact absurd rfl hne
  | cons s ss ih =>
    cases ss with
    | nil => simp
    | cons s' ss =>
      rw [List.flatMap_cons, ih (by simp), List.intercalate_cons_cons]
      simp

theorem chars_ofNames (names : List Bytes) : (Url.ofNames names).chars =
    "file:///".toList ++ List.intercalate ['/'] (nameSegments names) := by
  have hchars : (Url.ofNames names).chars =
      "file://".toList ++ (Url.ofNames names).path.text ++ [] ++ [] := rfl
  rw [hchars, path_ofNames, Path.text, flatMap_slash (nameSegments_ne_nil names)]
  simp

theorem mem_intercalate (h : c ∈ List.intercalate ['/'] ss) : c = '/' ∨ ∃ s ∈ ss, c ∈ s := by
  induction ss with
  | nil => simp at h
  | cons s ss ih =>
    cases ss with
    | nil => exact Or.inr ⟨s, by simp, by simpa using h⟩
    | cons s' ss =>
      rw [List.intercalate_cons_cons] at h
      rcases List.mem_append.1 h with h | h
      · rcases List.mem_append.1 h with h | h
        · exact Or.inr ⟨s, by simp, h⟩
        · exact Or.inl (by simpa using h)
      · rcases ih h with h | ⟨t, ht, hc⟩
        · exact Or.inl h
        · exact Or.inr ⟨t, List.mem_cons_of_mem _ ht, hc⟩

theorem read_of_scheme {base : Option Url} {scheme rest : List Char}
    (h : scheme? (strip t) = some (scheme, rest)) : read base t = schemeUrl base scheme rest := by
  unfold read
  simp only [h]

theorem mem_of_mem_strip (h : c ∈ strip t) : c ∈ t := by
  unfold strip at h
  have h := (List.dropWhile_sublist _).subset (List.mem_reverse.1 (List.mem_filter.1 h).1)
  exact (List.dropWhile_sublist _).subset (List.mem_reverse.1 h)

theorem scheme?_of_no_colon (h : ':' ∉ t) : scheme? t = none := by
  unfold scheme?
  split
  · split
    · rename_i s r he
      rw [List.span_eq_takeWhile_dropWhile, Prod.mk.injEq] at he
      have hc : ':' ∈ t.dropWhile isSchemeChar := by simp [he.2]
      exact absurd ((List.dropWhile_sublist _).subset hc) h
    · rfl
  · rfl

theorem parse_of_no_colon {location : String} (h : ':' ∉ location.toList) : Url.parse location = .error .noBase := by
  have hs := scheme?_of_no_colon (mt mem_of_mem_strip h)
  simp only [parse, read, hs]
  rfl

theorem driveForm_false : driveForm false stack s = s := by simp [driveForm]

/-- The URL of names is read segment by segment, as a walk from the root that keeps drives as they
are. -/
theorem parse_ofNames (names : List Bytes) : Url.parse (Url.ofNames names).text =
    .ok ⟨fileScheme, some .unnamed,
      .segments (trimmed (walk false [] (nameSegments names)).reverse), none, none⟩ := by
  have hvisible : ∀ c ∈ (Url.ofNames names).chars, 0x20 < c.toNat := by
    intro c hc
    rw [chars_ofNames] at hc
    rcases List.mem_append.1 hc with hc | hc
    · have hvisible : ∀ c ∈ "file:///".toList, 0x20 < c.toNat :=
        List.all_iff_forall_prop.1 (by decide)
      exact hvisible c hc
    · rcases mem_intercalate hc with rfl | ⟨s, hs, hc⟩
      · decide
      · exact (unmarked_nameSegments s hs c hc).visible
  have hkept : (nameSegments names).map (encode pathSet) = nameSegments names := by
    rw [List.map_congr_left (g := id), List.map_id]
    intro s hs
    exact encode_eq_self (unmarked_nameSegments s hs)
  have hsplit := splitPath_intercalate (nameSegments_ne_nil names) unmarked_nameSegments
  rw [chars_ofNames] at hvisible
  rw [Url.parse, Url.text, String.toList_ofList, chars_ofNames]
  generalize nameSegments names = ss at *
  have hscheme : scheme? (strip ("file:///".toList ++ List.intercalate ['/'] ss)) =
      some (fileScheme, "///".toList ++ List.intercalate ['/'] ss) := by
    rw [strip_eq_self hvisible]
    rfl
  have hpath : keptPath (List.intercalate ['/'] ss) =
      (.segments (trimmed (walk false [] ss).reverse), []) := by
    simp only [keptPath, segmentsFrom, hsplit, hkept]
  rw [read_of_scheme hscheme]
  change fileAfterSlashes ('/' :: List.intercalate ['/'] ss) = _
  have hspan : ('/' :: List.intercalate ['/'] ss).span (fun c => !endsAuthority true c) =
      ([], '/' :: List.intercalate ['/'] ss) := rfl
  have hdrive : isDrive [] = false := rfl
  have hslash : ('/' :: List.intercalate ['/'] ss).head?.any isSlash = true := rfl
  unfold fileAfterSlashes
  simp only [hspan, hdrive, hslash, Bool.false_eq_true, if_false, if_true, List.tail_cons, pure_bind,
    true_or, hpath]
  rfl

end Resources.Url
