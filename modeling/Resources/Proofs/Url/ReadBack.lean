import Resources.Proofs.Url.Names

/-! The path of the URL of names, read back from its text. Names are walked again: climbs are folded,
but no drive is climbed over. -/
namespace Resources.Url

open FilePath (onto foldedNames)
open Percent (nameSet encodeByte encodeBytes)

variable {b : UInt8} {s : Segment} {stack names : List Bytes} {name : Bytes}

/-! ### Dots and drives -/

theorem ofNat_byte_inj {b b' : UInt8} (h : Char.ofNat b.toNat = Char.ofNat b'.toNat) : b = b' := by
  have htoNat := congrArg Char.toNat h
  rw [Percent.toNat_ofNat_byte, Percent.toNat_ofNat_byte] at htoNat
  exact UInt8.toNat_inj.1 htoNat

theorem encodeBytes_cons (set : UInt8 → Bool) (b : UInt8) (bs : Bytes) :
    encodeBytes set (b :: bs) = encodeByte set b ++ encodeBytes set bs := rfl

/-- A byte that is spelled out is no dot. -/
theorem plainDots_escape (hb : nameSet b = true) (t : List Char) :
    ∃ r, plainDots (encodeByte nameSet b ++ t) = '%' :: r := by
  have hall : ∀ m ∈ List.range 256, nameSet m.toUInt8 = true →
      ¬ (Percent.digit (m / 16) = '2' ∧
        (Percent.digit (m % 16) = 'e' ∨ Percent.digit (m % 16) = 'E')) := by decide +kernel
  have hbyte : b.toNat.toUInt8 = b := by simp
  have hdigits := hall b.toNat (List.mem_range.2 b.toNat_lt) (by rwa [hbyte])
  rw [encodeByte, if_pos hb]
  generalize Percent.digit (b.toNat / 16) = hi at *
  generalize Percent.digit (b.toNat % 16) = lo at *
  simp only [List.cons_append, List.nil_append]
  by_cases hhi : hi = '2'
  · subst hhi
    have hlo : ¬ (lo = 'e' ∨ lo = 'E') := fun h => hdigits ⟨rfl, h⟩
    exact ⟨'2' :: lo :: t, by rw [plainDots, if_neg hlo]⟩
  · refine ⟨plainDots (hi :: lo :: t), ?_⟩
    rw [plainDots]
    intro _ _ _ h
    exact hhi (List.cons.inj h).1

theorem plainDots_cons (hc : c ≠ '%') (t : List Char) : plainDots (c :: t) = c :: plainDots t := by
  rw [plainDots]
  rintro _ _ rfl
  exact absurd rfl hc

/-- Names are read as dots only if they are dots. -/
theorem plainDots_encodeBytes {k : Nat} {name : Bytes} :
    plainDots (encodeBytes nameSet name) = List.replicate k '.' ↔ name = List.replicate k 0x2E := by
  induction name generalizing k with
  | nil => cases k <;> simp [encodeBytes, plainDots, List.replicate_succ]
  | cons b name ih =>
    rw [encodeBytes_cons]
    cases hb : nameSet b with
    | true =>
      obtain ⟨r, hr⟩ := plainDots_escape hb (encodeBytes nameSet name)
      rw [hr]
      cases k with
      | zero => simp
      | succ k =>
        refine iff_of_false ?_ ?_
        · simp [List.replicate_succ]
        · rw [List.replicate_succ]
          intro h
          rw [(List.cons.inj h).1] at hb
          exact absurd hb (by decide)
    | false =>
      have hpercent : Char.ofNat b.toNat ≠ '%' := by
        intro h
        have hb' : b = 0x25 :=
          ofNat_byte_inj (show Char.ofNat b.toNat = Char.ofNat (0x25 : UInt8).toNat from h)
        rw [hb'] at hb
        exact absurd hb (by decide)
      rw [encodeByte, hb, if_neg Bool.false_ne_true, List.singleton_append, plainDots_cons hpercent]
      cases k with
      | zero => simp
      | succ k =>
        rw [List.replicate_succ, List.replicate_succ, List.cons.injEq, List.cons.injEq, ih]
        apply and_congr_left
        intro _
        constructor
        · intro h
          exact ofNat_byte_inj (show Char.ofNat b.toNat = Char.ofNat (0x2E : UInt8).toNat from h)
        · rintro rfl
          rfl

theorem isUp_encodeBytes {name : Bytes} :
    isUp (encodeBytes nameSet name) = true ↔ name = FilePath.up := by
  rw [isUp, decide_eq_true_eq]
  exact plainDots_encodeBytes (k := 2)

theorem isHere_encodeBytes {name : Bytes} :
    isHere (encodeBytes nameSet name) = true ↔ name = FilePath.here := by
  rw [isHere, decide_eq_true_eq]
  exact plainDots_encodeBytes (k := 1)

/-- The marks behind the letter of a drive, a colon and a bar. -/
def driveMarks : List UInt8 := [0x3A, 0x7C]

def isDriveName : Bytes → Bool
  | [c, m] => (Char.ofNat c.toNat).isAlpha && driveMarks.contains m
  | _ => false

theorem isDriveName_iff {name : Bytes} : isDriveName name = true ↔
    ∃ c m, name = [c, m] ∧ (Char.ofNat c.toNat).isAlpha = true ∧ m ∈ driveMarks := by
  unfold isDriveName
  split
  · rename_i c m
    simp
  · rename_i hne
    refine iff_of_false Bool.false_ne_true ?_
    rintro ⟨c, m, rfl, -⟩
    exact hne c m rfl

theorem encodeBytes_driveName {c m : UInt8} (hc : (Char.ofNat c.toNat).isAlpha = true)
    (hm : m ∈ driveMarks) :
    encodeBytes nameSet [c, m] = [Char.ofNat c.toNat, Char.ofNat m.toNat] := by
  have hall : ∀ n ∈ List.range 256, (Char.ofNat n).isAlpha = true → nameSet n.toUInt8 = false := by
    decide +kernel
  have hbyte : c.toNat.toUInt8 = c := by simp
  have hletter : nameSet c = false := hbyte ▸ hall c.toNat (List.mem_range.2 c.toNat_lt) hc
  have hmark : nameSet m = false := by
    simp only [driveMarks, List.mem_cons, List.not_mem_nil, or_false] at hm
    rcases hm with rfl | rfl <;> decide
  simp [encodeBytes, encodeByte, hletter, hmark]

/-- Names are read as drives only if they are drives. -/
theorem isDrive_encodeBytes {name : Bytes} :
    isDrive (encodeBytes nameSet name) = true ↔ isDriveName name = true := by
  rw [isDriveName_iff]
  constructor
  · intro h
    unfold isDrive at h
    split at h
    · rename_i c m henc
      rw [Bool.and_eq_true, Bool.or_eq_true, decide_eq_true_eq, decide_eq_true_eq] at h
      have hname := Percent.decode_encodeBytes Percent.invertible_nameSet name
      obtain ⟨b, hb, -⟩ : NameChar c := nameChar_of_mem (by rw [henc]; simp)
      have hascii : c.toNat < 0x80 := (nameChar_of_mem (by rw [henc]; simp)).unmarked.ascii
      have hmascii : m.toNat < 0x80 := (nameChar_of_mem (by rw [henc]; simp)).unmarked.ascii
      have hback : Char.ofNat (c.toNat.toUInt8).toNat = c := by
        rw [Utf8.toNat_toUInt8 (by omega), Char.ofNat_toNat]
      have hne : c.toNat.toUInt8 ≠ 0x25 := by
        intro he
        rw [he] at hback
        rw [← hback] at h
        exact absurd h.1 (by decide)
      refine ⟨c.toNat.toUInt8, m.toNat.toUInt8, ?_, by rw [hback]; exact h.1, ?_⟩
      · rw [← hname, henc, Percent.decode, Utf8.encode_ascii hascii, Utf8.encode_ascii hmascii,
          Percent.decodeBytes_cons hne]
        rfl
      · rcases h.2 with rfl | rfl <;> decide
    · cases h
  · rintro ⟨c, m, rfl, hc, hm⟩
    rw [encodeBytes_driveName hc hm]
    simp only [driveMarks, List.mem_cons, List.not_mem_nil, or_false] at hm
    rcases hm with rfl | rfl
    · simp only [isDrive, hc]
      decide
    · simp only [isDrive, hc]
      decide

/-! ### The walk over names -/

/-- On the way over the names no drive is climbed over. -/
def undisturbed : List Bytes → List Bytes → Bool
  | _, [] => true
  | stack, name :: names =>
    !(name = FilePath.up && stack.head?.any isDriveName) && undisturbed (onto stack name) names

theorem climb_encodeBytes {above : List Bytes} (h : above.head?.any isDriveName = false) :
    climb (above.map (encodeBytes nameSet)) = above.tail.map (encodeBytes nameSet) := by
  cases above with
  | nil => rfl
  | cons top above =>
    have htop : isDrive (encodeBytes nameSet top) ≠ true := by
      rw [Ne, isDrive_encodeBytes]
      simpa using h
    rw [List.map_cons, climb, if_neg htop]
    rfl

theorem descend_encodeBytes {stack : List Bytes} {name : Bytes} (hname : name ≠ FilePath.here)
    (h : undisturbed stack [name] = true) :
    descend false (stack.map (encodeBytes nameSet)) (encodeBytes nameSet name) =
      (onto stack name).map (encodeBytes nameSet) := by
  unfold descend onto
  by_cases hup : name = FilePath.up
  · have hdrive : stack.head?.any isDriveName = false := by simpa [undisturbed, hup] using h
    rw [if_pos (isUp_encodeBytes.2 hup), if_pos hup, climb_encodeBytes hdrive]
  · rw [if_neg (isUp_encodeBytes.not.2 hup), if_neg (isHere_encodeBytes.not.2 hname), if_neg hup,
      driveForm_false, List.map_cons]

/-- The last name is walked as any other, but a climb leaves an empty segment behind it. -/
theorem settle_encodeBytes {stack : List Bytes} {name : Bytes} (hname : name ≠ FilePath.here)
    (h : undisturbed stack [name] = true) :
    settle false (stack.map (encodeBytes nameSet)) (encodeBytes nameSet name) =
      (if name = FilePath.up then [[]] else []) ++
        (onto stack name).map (encodeBytes nameSet) := by
  have hd := descend_encodeBytes hname h
  unfold descend at hd
  unfold settle
  by_cases hup : name = FilePath.up
  · rw [if_pos (isUp_encodeBytes.2 hup)] at hd ⊢
    rw [hd, if_pos hup]
    rfl
  · rw [if_neg (isUp_encodeBytes.not.2 hup), if_neg (isHere_encodeBytes.not.2 hname)] at hd ⊢
    rw [hd, if_neg hup, List.nil_append]

theorem walk_encodeBytes {stack names : List Bytes} (hne : names ≠ [])
    (hnames : ∀ name ∈ names, name ≠ FilePath.here) (h : undisturbed stack names = true) :
    walk false (stack.map (encodeBytes nameSet)) (names.map (encodeBytes nameSet)) =
      (if names.getLast? = some FilePath.up then [[]] else []) ++
        (names.foldl onto stack).map (encodeBytes nameSet) := by
  -- Only the last name is settled, which can leave an empty segment behind it.
  induction names generalizing stack with
  | nil => exact absurd rfl hne
  | cons name names ih =>
    have hname := hnames name List.mem_cons_self
    rw [undisturbed, Bool.and_eq_true] at h
    have hone : undisturbed stack [name] = true := by simpa [undisturbed] using h.1
    cases names with
    | nil =>
      rw [List.map_cons, List.map_nil, walk, settle_encodeBytes hname hone]
      simp
    | cons next names =>
      have hrest := ih (by simp) (fun n hn => hnames n (List.mem_cons_of_mem _ hn)) h.2
      have hstep : walk false (stack.map (encodeBytes nameSet))
          ((name :: next :: names).map (encodeBytes nameSet)) =
          walk false (descend false (stack.map (encodeBytes nameSet)) (encodeBytes nameSet name))
            ((next :: names).map (encodeBytes nameSet)) := rfl
      rw [hstep, descend_encodeBytes hname hone, hrest, List.getLast?_cons_cons]
      rfl

/-! ### The path that is read back -/

/-- The path of the URL of names, read from its text. A climb at the end leaves a slash there, and so
does an end like a drive. -/
def readBack (names : List Bytes) : FilePath :=
  if names.getLast? = some FilePath.up ∧ foldedNames names ≠ [] then
    (FilePath.ofNames (foldedNames names)).slashed
  else ⟨endDrive (FilePath.ofNames (foldedNames names)).bytes⟩

theorem trimmed_of_ne_nil (hs : s ≠ []) (ss : List Segment) : trimmed (s :: ss) = s :: ss := by
  rw [trimmed, List.dropWhile_cons_of_neg (by simpa using hs)]

theorem not_endsInDrive_slashed {p : FilePath} : ¬ p.slashed.EndsInDrive := by
  rintro ⟨above, c, m, -, hb, hdrive⟩
  have hlast := congrArg List.getLast? hb
  obtain rfl : FilePath.slash = m := by simpa [FilePath.slashed] using hlast
  simp [isDrive, FilePath.slash] at hdrive

theorem encodeBytes_ne_nil {name : Bytes} (hname : name ≠ []) : encodeBytes nameSet name ≠ [] := by
  intro hnil
  have hback := Percent.decode_encodeBytes Percent.invertible_nameSet name
  rw [hnil] at hback
  exact hname hback.symm

/-- Segments that begin with a name are not trimmed, and are read as the names behind slashes. -/
theorem flatMap_trimmed {name : Bytes} (hname : name ≠ []) (ns : List Bytes) (ss : List Segment) :
    (trimmed ((name :: ns).map (encodeBytes nameSet) ++ ss)).flatMap
        (fun s => FilePath.slash :: Percent.decode s) =
      (FilePath.ofNames (name :: ns)).bytes ++
        ss.flatMap fun s => FilePath.slash :: Percent.decode s := by
  have hdecode : ((name :: ns).map (encodeBytes nameSet)).flatMap
      (fun s => FilePath.slash :: Percent.decode s) = (name :: ns).flatMap (FilePath.slash :: ·) := by
    simp only [List.flatMap_map, Percent.decode_encodeBytes Percent.invertible_nameSet]
  rw [List.map_cons, List.cons_append, trimmed_of_ne_nil (encodeBytes_ne_nil hname),
    ← List.cons_append, ← List.map_cons, List.flatMap_append, hdecode,
    ← FilePath.bytes_ofNames (List.cons_ne_nil _ _)]

/-- The text of the URL of names is read as a local URL with their path. -/
theorem filePath?_parse {names : List Bytes}
    (hnames : ∀ name ∈ names, name ≠ [] ∧ name ≠ FilePath.here) (h : undisturbed [] names = true) :
    ∃ u, Url.parse (Url.ofNames names).text = .ok u ∧ u.scheme = fileScheme ∧
      u.filePath? = some (readBack names) := by
  refine ⟨_, parse_ofNames names, rfl, ?_⟩
  have hpath : ∀ ss, Url.filePath? ⟨fileScheme, some .unnamed, .segments ss, none, none⟩ =
      some ⟨endDrive (ss.flatMap fun s => FilePath.slash :: Percent.decode s)⟩ := fun _ => rfl
  rw [hpath]
  by_cases hne : names = []
  · subst hne
    rfl
  have hwalk := @walk_encodeBytes [] names hne (fun n hn => (hnames n hn).2) h
  rw [List.map_nil] at hwalk
  rw [nameSegments, if_neg hne, hwalk, List.reverse_append, ← List.map_reverse]
  change some (FilePath.mk (endDrive ((trimmed ((foldedNames names).map (encodeBytes nameSet) ++
    _)).flatMap _))) = _
  unfold readBack
  cases hns : foldedNames names with
  | nil =>
    have hnot : ¬ (names.getLast? = some FilePath.up ∧ ([] : List Bytes) ≠ []) := fun hc => hc.2 rfl
    rw [if_neg hnot]
    split <;> rfl
  | cons name ns =>
    have hname : name ≠ [] :=
      (hnames name (FilePath.mem_foldedNames (hns ▸ List.mem_cons_self)).1).1
    rw [flatMap_trimmed hname]
    by_cases hup : names.getLast? = some FilePath.up
    · have hend := endDrive_of_not_endsInDrive
        (not_endsInDrive_slashed (p := FilePath.ofNames (name :: ns)))
      rw [if_pos hup, if_pos ⟨hup, by simp⟩]
      exact congrArg (fun b => some (FilePath.mk b)) hend
    · rw [if_neg hup, if_neg fun hc => hup hc.1]
      simp

/-! ### The slash at its end -/

theorem readBack_slashed (h : names.getLast? = some FilePath.up ∧ foldedNames names ≠ [] ∨
    (FilePath.ofNames (foldedNames names)).EndsInDrive) :
    readBack names = (FilePath.ofNames (foldedNames names)).slashed := by
  unfold readBack
  split
  · rfl
  · exact congrArg FilePath.mk (endDrive_of_endsInDrive (h.resolve_left ‹_›))

theorem readBack_plain (h : ¬ (names.getLast? = some FilePath.up ∧ foldedNames names ≠ [] ∨
    (FilePath.ofNames (foldedNames names)).EndsInDrive)) :
    readBack names = FilePath.ofNames (foldedNames names) := by
  rw [not_or] at h
  rw [readBack, if_neg h.1, endDrive_of_not_endsInDrive h.2]

theorem not_endsInDrive_root : ¬ (FilePath.ofNames []).EndsInDrive := by
  rintro ⟨above, c, m, -, hb, -⟩
  have hlength := congrArg List.length hb
  simp [FilePath.ofNames] at hlength

/-- Behind its names, the path has an empty segment at most. -/
theorem segments_readBack (h : ∀ name ∈ names, FilePath.slash ∉ name) :
    ∃ g, (g = [] ∨ g = [[]]) ∧ (readBack names).segments = [] :: foldedNames names ++ g := by
  have hfolded : ∀ name ∈ foldedNames names, FilePath.slash ∉ name := fun name hname =>
    h name (FilePath.mem_foldedNames hname).1
  by_cases hslash : names.getLast? = some FilePath.up ∧ foldedNames names ≠ [] ∨
    (FilePath.ofNames (foldedNames names)).EndsInDrive
  · have hne : foldedNames names ≠ [] := by
      rcases hslash with hslash | hdrive
      · exact hslash.2
      · intro hnil
        rw [hnil] at hdrive
        exact not_endsInDrive_root hdrive
    rw [readBack_slashed hslash, FilePath.segments_slashed, FilePath.segments_ofNames hne hfolded]
    exact ⟨[[]], Or.inr rfl, rfl⟩
  · rw [readBack_plain hslash]
    by_cases hne : foldedNames names = []
    · rw [hne]
      exact ⟨[[]], Or.inr rfl, rfl⟩
    · rw [FilePath.segments_ofNames hne hfolded]
      exact ⟨[], Or.inl rfl, by simp⟩

/-! ### Names without climbs -/

theorem undisturbed_of_no_up (h : FilePath.up ∉ names) : undisturbed stack names = true := by
  induction names generalizing stack with
  | nil => rfl
  | cons name names ih =>
    rw [List.mem_cons, not_or] at h
    rw [undisturbed, ih h.2]
    simp [Ne.symm h.1]

theorem getLast?_ne_up (h : FilePath.up ∉ names) : names.getLast? ≠ some FilePath.up := fun hlast =>
  h (List.mem_of_getLast? hlast)

/-- Without climbs, the path read back is the one with these names, with a slash where it ends like
a drive. -/
theorem readBack_of_no_up (h : FilePath.up ∉ names) :
    ((FilePath.ofNames names).EndsInDrive ∧ readBack names = (FilePath.ofNames names).slashed) ∨
      (¬ (FilePath.ofNames names).EndsInDrive ∧ readBack names = FilePath.ofNames names) := by
  have hfolded := FilePath.foldedNames_of_no_up h
  by_cases hdrive : (FilePath.ofNames names).EndsInDrive
  · have hslashed := readBack_slashed (Or.inr (hfolded.symm ▸ hdrive))
    rw [hfolded] at hslashed
    exact Or.inl ⟨hdrive, hslashed⟩
  · have hplain := readBack_plain
      (not_or.2 ⟨fun hup => getLast?_ne_up h hup.1, hfolded.symm ▸ hdrive⟩)
    rw [hfolded] at hplain
    exact Or.inr ⟨hdrive, hplain⟩

end Resources.Url
