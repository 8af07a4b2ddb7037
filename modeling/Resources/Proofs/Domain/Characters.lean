import Mathlib.Data.Option.Basic
import Resources.Domain.Ascii
import Resources.Proofs.Text.Marks

/-! The characters of domains in ASCII. None that domains may not hold comes out of the Punycode of
their labels, be it made or found there. -/
namespace Resources

/-- What a list of attempts gives was given by one of them. -/
theorem mem_of_mapM {α β : Type} {f : α → Option β} {as : List α} {bs : List β}
    (h : as.mapM f = some bs) : ∀ b ∈ bs, ∃ a ∈ as, f a = some b := by
  induction as generalizing bs with
  | nil =>
    obtain rfl : [] = bs := by simpa using h
    simp
  | cons a as ih =>
    rw [List.mapM_cons] at h
    obtain ⟨b, hb, h⟩ := Option.bind_eq_some_iff.1 h
    obtain ⟨rest, hrest, h⟩ := Option.bind_eq_some_iff.1 h
    obtain rfl : b :: rest = bs := by simpa using h
    intro c hc
    rcases List.mem_cons.1 hc with rfl | hc
    · exact ⟨a, List.mem_cons_self, hb⟩
    · obtain ⟨a', ha', hf⟩ := ih hrest c hc
      exact ⟨a', List.mem_cons_of_mem _ ha', hf⟩

namespace Punycode

variable {c : Char} {t out r : List Char}

/-! ### Making -/

/-- A digit as it is written. -/
def IsDigit (c : Char) : Prop := ∃ d < 36, c = digitChar d

theorem isDigit_of_mem {bias k q : Nat} (h : c ∈ digits bias k q) : IsDigit c := by
  have hthreshold : ∀ k bias, threshold k bias ≤ 26 := by
    intro k bias
    unfold threshold
    split <;> omega
  induction k, q using digits.induct bias with
  | case1 k q t hq =>
    rw [digits, if_pos hq, List.mem_singleton] at h
    have ht := hthreshold k bias
    exact ⟨q, by omega, h⟩
  | case2 k q t hq ih =>
    rw [digits, if_neg hq, List.mem_cons] at h
    rcases h with h | h
    · have ht := hthreshold k bias
      have hlt : (q - threshold k bias) % (36 - threshold k bias) < 36 - threshold k bias :=
        Nat.mod_lt _ (by omega)
      exact ⟨_, by omega, h⟩
    · exact ih h

/-- The characters that are written for a text. -/
def Written (t text : List Char) : Prop := ∀ c ∈ text, c ∈ t ∨ c = '-' ∨ IsDigit c

theorem written_visit (plain point : Nat) {p : Progress} (hp : Written t p.text) (x : Char) :
    Written t (visit plain point p x).text := by
  unfold visit
  split
  · exact hp
  split
  · intro c hc
    rcases List.mem_append.1 hc with hc | hc
    · exact hp c hc
    · exact Or.inr (Or.inr (isDigit_of_mem hc))
  · exact hp

theorem written_foldl_visit (plain point : Nat) {p : Progress} (hp : Written t p.text)
    (xs : List Char) : Written t (xs.foldl (visit plain point) p).text := by
  induction xs generalizing p with
  | nil => exact hp
  | cons x xs ih => exact ih (written_visit plain point hp x)

theorem written_visitAll {plain : Nat} {points : List Nat} {least : Nat} {p : Progress}
    (hp : Written t p.text) : Written t (visitAll t plain points least p).text := by
  induction points generalizing least p with
  | nil => exact hp
  | cons point points ih =>
    have hpoint := written_foldl_visit plain point
      (p := ⟨p.text, p.delta + (point - least) * (p.written + 1), p.bias, p.written⟩) hp t
    exact ih (p := ⟨_, _, _, _⟩) hpoint

/-- What is written are characters of the text, hyphens and digits. -/
theorem written_encode (t : List Char) : Written t (encode t) := by
  refine written_visitAll (p := ⟨_, 0, firstBias, _⟩) ?_
  intro c hc
  simp only at hc
  split at hc
  · cases hc
  · rcases List.mem_append.1 hc with hc | hc
    · exact Or.inl (List.mem_filter.1 hc).1
    · exact Or.inr (Or.inl (List.mem_singleton.1 hc))

/-! ### Reading -/

theorem digits_of_number? {bias k weight n m : Nat} (h : number? bias k weight n t = some (m, r)) :
    ∃ front, t = front ++ r ∧ ∀ c ∈ front, (digit? c).isSome = true := by
  induction t generalizing k weight n with
  | nil => simp [number?] at h
  | cons c t ih =>
    rw [number?] at h
    obtain ⟨d, hd, h⟩ := Option.bind_eq_some_iff.1 h
    simp only at h
    split at h
    · obtain ⟨-, rfl⟩ := Prod.mk.inj (Option.some.inj h)
      exact ⟨[c], rfl, by simp [hd]⟩
    · obtain ⟨front, rfl, hfront⟩ := ih h
      refine ⟨c :: front, rfl, ?_⟩
      rw [List.forall_mem_cons]
      exact ⟨by simp [hd], hfront⟩

/-- All that is read are digits, and nothing that was there before is lost. -/
theorem digits_of_insertAll {fuel point place bias : Nat}
    (h : insertAll fuel out point place bias t = some r) :
    (∀ c ∈ t, (digit? c).isSome = true) ∧ ∀ c ∈ out, c ∈ r := by
  -- Each round reads one number and puts one character among those that are there.
  induction fuel generalizing out point place bias t with
  | zero =>
    cases t with
    | nil =>
      obtain rfl : out = r := by simpa [insertAll] using h
      exact ⟨by simp, fun _ hc => hc⟩
    | cons c t => simp [insertAll] at h
  | succ fuel ih =>
    cases t with
    | nil =>
      obtain rfl : out = r := by simpa [insertAll] using h
      exact ⟨by simp, fun _ hc => hc⟩
    | cons c t =>
      unfold insertAll at h
      obtain ⟨⟨delta, rest⟩, hnumber, h⟩ := Option.bind_eq_some_iff.1 h
      simp only at h
      obtain ⟨-, -, h⟩ := Option.bind_eq_some_iff.1 h
      obtain ⟨hdigits, hkept⟩ := ih h
      obtain ⟨front, ht, hfront⟩ := digits_of_number? hnumber
      constructor
      · rw [ht]
        intro x hx
        rcases List.mem_append.1 hx with hx | hx
        · exact hfront x hx
        · exact hdigits x hx
      · intro x hx
        apply hkept
        rw [List.mem_append, List.mem_cons]
        rw [← List.take_append_drop ((place + delta) % (out.length + 1)) out, List.mem_append] at hx
        exact hx.imp_right Or.inr

/-- What can be read are characters of what is read, hyphens and digits. -/
theorem mem_of_decode? (h : decode? t = some r) (hc : c ∈ t) :
    c ∈ r ∨ c = '-' ∨ (digit? c).isSome = true := by
  unfold decode? at h
  simp only at h
  split at h
  · exact Or.inr (Or.inr ((digits_of_insertAll h).1 c hc))
  · obtain ⟨hdigits, hkept⟩ := digits_of_insertAll h
    rcases last_mark_cases '-' t with hno | ⟨front, numbers, rfl, hno⟩
    · rw [takeWhile_of_no_mark hno] at hdigits
      exact Or.inr (Or.inr (hdigits c hc))
    · rw [takeWhile_of_last_mark hno] at hdigits hkept
      have hlength : (front ++ '-' :: numbers).length - numbers.length - 1 = front.length := by
        simp only [List.length_append, List.length_cons]
        omega
      rw [hlength, List.take_left] at hkept
      rcases List.mem_append.1 hc with hc | hc
      · exact Or.inl (hkept c hc)
      · rcases List.mem_cons.1 hc with rfl | hc
        · exact Or.inr (Or.inl rfl)
        · exact Or.inr (Or.inr (hdigits c hc))

theorem isAlphanum_of_isDigit (h : IsDigit c) : c.isAlphanum = true := by
  have hall : ∀ d ∈ List.range 36, (digitChar d).isAlphanum = true := by decide
  obtain ⟨d, hd, rfl⟩ := h
  exact hall d (List.mem_range.2 hd)

theorem isAlphanum_of_digit? (h : (digit? c).isSome = true) : c.isAlphanum = true := by
  have hall : ∀ n ∈ List.range 128, (digit? (Char.ofNat n)).isSome = true →
      (Char.ofNat n).isAlphanum = true := by decide +kernel
  have hlt : c.toNat < 128 := by
    by_contra hge
    have hnone : digit? c = none := by
      unfold digit?
      simp only
      split_ifs <;> first | rfl | omega
    simp [hnone] at h
  have hc := hall c.toNat (List.mem_range.2 hlt)
  rw [Char.ofNat_toNat] at hc
  exact hc h

end Punycode

theorem mem_intercalate {c m : Char} {ts : List (List Char)} (h : c ∈ List.intercalate [m] ts) :
    c = m ∨ ∃ t ∈ ts, c ∈ t := by
  induction ts with
  | nil => simp at h
  | cons t ts ih =>
    cases ts with
    | nil =>
      rw [List.intercalate_singleton] at h
      exact Or.inr ⟨t, List.mem_cons_self, h⟩
    | cons t' ts =>
      rw [List.intercalate_cons_cons, List.append_assoc, List.mem_append] at h
      rcases h with h | h
      · exact Or.inr ⟨t, List.mem_cons_self, h⟩
      · rcases List.mem_cons.1 h with h | h
        · exact Or.inl h
        · exact (ih h).imp_right fun ⟨s, hs, hc⟩ => ⟨s, List.mem_cons_of_mem _ hs, hc⟩

namespace Domain

variable {c : Char} {label : Label} {s : Spelling} {host : Bytes} {name : List Char}

/-- A character that no domain holds and that Punycode does not write. -/
structure Barred (c : Char) : Prop where
  forbidden : isForbidden c = true
  no_alphanum : c.isAlphanum = false
  no_hyphen : c ≠ '-'
  no_dot : c ≠ '.'

theorem Barred.not_digit (hc : Barred c) : ¬ Punycode.IsDigit c ∧ (Punycode.digit? c).isSome ≠ true := by
  have hno : c.isAlphanum ≠ true := by simp [hc.no_alphanum]
  exact ⟨fun h => hno (Punycode.isAlphanum_of_isDigit h),
    fun h => hno (Punycode.isAlphanum_of_digit? h)⟩

theorem Barred.not_mem_mark (hc : Barred c) : c ∉ mark := by
  have hall : ∀ c ∈ mark, c.isAlphanum = true ∨ c = '-' :=
    List.all_iff_forall_prop.1 (by decide)
  intro hm
  rcases hall c hm with h | h
  · simp [hc.no_alphanum] at h
  · exact hc.no_hyphen h

/-- What is behind the mark holds no more than what it stands for. -/
theorem not_mem_of_decoded? (hc : Barred c) {shown : Label}
    (h : decoded? (label.drop mark.length) = some shown) (hm : mark.isPrefixOf label = true)
    (hs : c ∉ shown) : c ∉ label := by
  obtain ⟨t, rfl⟩ := List.isPrefixOf_iff_prefix.1 hm
  rw [List.drop_left] at h
  unfold decoded? at h
  obtain ⟨-, -, h⟩ := Option.bind_eq_some_iff.1 h
  obtain ⟨shown', hd, h⟩ := Option.bind_eq_some_iff.1 h
  obtain ⟨-, -, h⟩ := Option.bind_eq_some_iff.1 h
  obtain rfl : shown' = shown := by simpa using h
  rw [List.mem_append, not_or]
  refine ⟨hc.not_mem_mark, fun hmem => ?_⟩
  rcases Punycode.mem_of_decode? hd hmem with h | h | h
  · exact hs h
  · exact hc.no_hyphen h
  · exact hc.not_digit.2 h

/-- A spelling is the label as it is, or the Punycode of what is shown for it. -/
theorem spelling?_eq_some (h : spelling? label = some s) : ∃ shown,
    (mark.isPrefixOf label = true ∧ decoded? (label.drop mark.length) = some shown ∨ shown = label) ∧
      shown.any isForbidden = false ∧
      (s.ascii = label ∨ s.ascii = mark ++ Punycode.encode shown) := by
  have hrest : ∀ {shown : Label}, (do
      guard (!shown.any isForbidden)
      if shown.all isAscii then pure ⟨shown, label⟩
      else
        guard (marksFit shown ∧ shown.length ≤ encodeLimit)
        pure (Spelling.mk shown
          (if mark.isPrefixOf label then label else mark ++ Punycode.encode shown))) = some s →
      shown.any isForbidden = false ∧
        (s.ascii = label ∨ s.ascii = mark ++ Punycode.encode shown) := by
    intro shown h
    obtain ⟨_, hguard, h⟩ := Option.bind_eq_some_iff.1 h
    constructor
    · cases hany : shown.any isForbidden with
      | false => rfl
      | true =>
        rw [hany] at hguard
        cases hguard
    · split at h
      · exact Or.inl (congrArg Spelling.ascii (Option.some.inj h)).symm
      · obtain ⟨-, -, h⟩ := Option.bind_eq_some_iff.1 h
        obtain rfl := Option.some.inj h
        simp only
        split
        · exact Or.inl rfl
        · exact Or.inr rfl
  unfold spelling? at h
  by_cases hm : mark.isPrefixOf label = true
  · rw [if_pos hm] at h
    obtain ⟨shown, hshown, h⟩ := Option.bind_eq_some_iff.1 h
    exact ⟨shown, Or.inl ⟨hm, hshown⟩, hrest h⟩
  · rw [if_neg hm] at h
    exact ⟨label, Or.inr rfl, hrest h⟩

theorem not_mem_spelling (hc : Barred c) (h : spelling? label = some s) : c ∉ s.ascii := by
  obtain ⟨shown, hshown, hnone, hascii⟩ := spelling?_eq_some h
  have hs : c ∉ shown := by
    intro hmem
    have hany : shown.any isForbidden = true := List.any_eq_true.2 ⟨c, hmem, hc.forbidden⟩
    simp [hany] at hnone
  rcases hascii with hascii | hascii
  · rw [hascii]
    rcases hshown with ⟨hm, hshown⟩ | rfl
    · exact not_mem_of_decoded? hc hshown hm hs
    · exact hs
  · rw [hascii, List.mem_append, not_or]
    refine ⟨hc.not_mem_mark, fun hmem => ?_⟩
    rcases Punycode.written_encode shown c hmem with h | h | h
    · exact hs h
    · exact hc.no_hyphen h
    · exact hc.not_digit.1 h

theorem labels?_eq_some {spellings : List Spelling} (h : labels? label = some spellings) :
    ∃ parts : List Label, parts.mapM spelling? = some spellings := by
  unfold labels? at h
  split at h
  · obtain ⟨folded, -, h⟩ := Option.bind_eq_some_iff.1 h
    exact ⟨folded.splitOn '.', h⟩
  · obtain ⟨folded, -, h⟩ := Option.bind_eq_some_iff.1 h
    exact ⟨folded.splitOn '.', h⟩

theorem not_mem_toAscii? (hc : Barred c) (h : toAscii? host = some name) : c ∉ name := by
  unfold toAscii? at h
  obtain ⟨cs, -, h⟩ := Option.bind_eq_some_iff.1 h
  obtain ⟨lists, hlists, h⟩ := Option.bind_eq_some_iff.1 h
  obtain ⟨-, -, h⟩ := Option.bind_eq_some_iff.1 h
  obtain rfl := Option.some.inj h
  intro hmem
  rcases mem_intercalate hmem with h | ⟨t, ht, hct⟩
  · exact hc.no_dot h
  · obtain ⟨s, hs, rfl⟩ := List.mem_map.1 ht
    obtain ⟨spellings, hspellings, hs⟩ := List.mem_flatten.1 hs
    obtain ⟨label, -, hlabels⟩ := mem_of_mapM hlists spellings hspellings
    obtain ⟨parts, hparts⟩ := labels?_eq_some hlabels
    obtain ⟨part, -, hpart⟩ := mem_of_mapM hparts s hs
    exact not_mem_spelling hc hpart hct

end Domain

end Resources
