import Resources.Proofs.Path.FilePath

/-! Rooted paths and their names. A path is spelled from its names, and climbs among the names are
folded into those before them. -/
namespace Resources.FilePath

open Resources.Path (Segment)

variable {name : Bytes} {names stack : List Bytes} {p : FilePath}

/-! ### Spelling -/

/-- The rooted path with these names, each behind a slash. -/
def ofNames (names : List Bytes) : FilePath :=
  if names = [] then ⟨[slash]⟩ else ⟨names.flatMap (slash :: ·)⟩

theorem ofNames_map_encode (ss : List Segment) :
    ofNames (ss.map Utf8.encode) = ofText ('/' :: List.intercalate ['/'] ss) := by
  have hflat : ∀ (s : Segment) (ss : List Segment),
      ((s :: ss).map Utf8.encode).flatMap (slash :: ·) =
        Utf8.encode ('/' :: List.intercalate ['/'] (s :: ss)) := by
    intro s ss
    induction ss generalizing s with
    | nil => simp [Utf8.encode_ascii, slash]
    | cons t ss ih =>
      rw [List.map_cons, List.flatMap_cons, ih, List.intercalate_cons_cons]
      simp [Utf8.encode_ascii, slash]
  cases ss with
  | nil => rfl
  | cons s ss => rw [ofNames, if_neg (by simp), hflat, ofText]

/-- Behind the root, a cleaned path is spelled by its names and the slash at its end. -/
theorem cleanText_of_slash {t : List Char} (h : t.head? = some '/') :
    Path.cleanText t = '/' :: List.intercalate ['/'] (Path.names t) ++
      if Path.trailing t = true ∧ Path.names t ≠ [] then ['/'] else [] := by
  have hr := Path.rooted_of_slash h
  rw [Path.cleanText_eq, Path.drive_of_slash h, Path.plain, Path.Lexical.plain, Path.ofText_eq]
  simp [hr]

/-- A rooted cleaned path is spelled by its names, with a slash behind them or without. -/
theorem ofText_clean_cases {t : List Char} (h : t.head? = some '/') :
    (ofText (Path.cleanText t) = ofNames (ofText (Path.cleanText t)).names ∧
      (Path.trailing t = false ∨ Path.names t = [])) ∨
    (ofText (Path.cleanText t) = (ofNames (ofText (Path.cleanText t)).names).slashed ∧
      Path.trailing t = true ∧ Path.names t ≠ []) := by
  rw [names_ofText_clean_of_no_drive (Path.drive_of_slash h), ofNames_map_encode,
    cleanText_of_slash h]
  by_cases ht : Path.trailing t = true ∧ Path.names t ≠ []
  · right
    rw [if_pos ht]
    refine ⟨?_, ht⟩
    simp [slashed, ofText, Utf8.encode_ascii, slash]
  · left
    rw [if_neg ht, List.append_nil]
    refine ⟨rfl, ?_⟩
    by_cases hnil : Path.names t = []
    · exact Or.inr hnil
    · exact Or.inl (Bool.eq_false_iff.2 fun htrue => ht ⟨htrue, hnil⟩)

theorem bytes_ofNames (hne : names ≠ []) :
    (ofNames names).bytes = names.flatMap (slash :: ·) := by
  rw [ofNames, if_neg hne]

theorem flatMap_slash (hne : names ≠ []) :
    names.flatMap (slash :: ·) = slash :: List.intercalate [slash] names := by
  induction names with
  | nil => exact absurd rfl hne
  | cons name names ih =>
    cases names with
    | nil => simp
    | cons next names =>
      rw [List.flatMap_cons, ih (by simp), List.intercalate_cons_cons]
      simp

theorem segments_ofNames (hne : names ≠ []) (h : ∀ name ∈ names, slash ∉ name) :
    (ofNames names).segments = [] :: names := by
  unfold segments
  rw [bytes_ofNames hne, flatMap_slash hne]
  have hsplit : (slash :: List.intercalate [slash] names).splitOn slash =
      [].splitOn slash ++ (List.intercalate [slash] names).splitOn slash :=
    List.splitOn_append_cons_self [] _
  rw [hsplit, List.splitOn_intercalate slash h hne]
  rfl

theorem slash_not_mem_segment (h : name ∈ p.segments) : slash ∉ name :=
  Path.not_mem_of_mem_splitOn h

theorem nul_not_mem_segment (h : name ∈ p.segments) (hp : 0 ∉ p.bytes) : 0 ∉ name := fun hm =>
  hp ((Path.mem_iff_mem_splitOn (by decide)).2 ⟨name, h, hm⟩)

@[simp] theorem isRooted_ofNames : (ofNames names).isRooted = true := by
  cases names <;> simp [ofNames, isRooted]

@[simp] theorem isRooted_slashed_ofNames : (ofNames names).slashed.isRooted = true := by
  cases names <;> simp [ofNames, slashed, isRooted]

theorem ofNames_ne_nil : (ofNames names).bytes ≠ [] := by
  cases names <;> simp [ofNames]

theorem mem_ofNames {b : UInt8} (hb : b ≠ slash) :
    b ∈ (ofNames names).bytes ↔ ∃ name ∈ names, b ∈ name := by
  cases names with
  | nil => simp [ofNames, hb]
  | cons name names => simp [ofNames, hb]

/-- The segments of a rooted path are an empty one and those behind it, which hold its names. -/
theorem segments_of_isRooted (hr : p.isRooted = true) : ∃ ss, p.segments = [] :: ss ∧
    p.names = ss.filter fun s => s ≠ [] && s ≠ here := by
  obtain ⟨bs⟩ := p
  obtain ⟨r, rfl⟩ := List.head?_eq_some_iff.1 (beq_iff_eq.1 hr)
  have hs : FilePath.segments ⟨slash :: r⟩ = [].splitOn slash ++ r.splitOn slash :=
    List.splitOn_append_cons_self [] r
  refine ⟨r.splitOn slash, hs, ?_⟩
  rw [FilePath.names, hs]
  rfl

theorem names_of_isRooted (hr : p.isRooted = true) :
    ∀ name ∈ p.names, name ≠ [] ∧ name ≠ here ∧ slash ∉ name := by
  obtain ⟨ss, hs, hnames⟩ := segments_of_isRooted hr
  intro name hname
  have hkept : name ∈ ss ∧ name ≠ [] ∧ name ≠ here := by simpa [hnames] using hname
  exact ⟨hkept.2.1, hkept.2.2, slash_not_mem_segment (hs ▸ List.mem_cons_of_mem _ hkept.1)⟩

theorem absoluteNames_of_isRooted {home : List Bytes} (hr : p.isRooted = true) :
    p.absoluteNames? home = some p.names := by
  have hne : p.bytes ≠ [] := by
    intro hnil
    simp [isRooted, hnil] at hr
  rw [absoluteNames?, if_neg hne, if_pos hr]

/-- A path spelled from names has these names, with a slash behind it or without. -/
theorem names_ofNames (h : ∀ name ∈ names, name ≠ [] ∧ name ≠ here ∧ slash ∉ name) :
    (ofNames names).names = names ∧ (ofNames names).slashed.names = names := by
  by_cases hne : names = []
  · subst hne
    decide
  · have hs := segments_ofNames hne fun name hname => (h name hname).2.2
    have hkept : names.filter (fun s => s ≠ [] && s ≠ here) = names := by
      rw [List.filter_eq_self]
      intro name hname
      simp [(h name hname).1, (h name hname).2.1]
    constructor
    · rw [FilePath.names, hs]
      simpa using hkept
    · rw [FilePath.names, segments_slashed, hs]
      simpa using hkept

/-- A name that cleaning leaves as it is wherever it stands. -/
structure PlainName (name : Bytes) : Prop where
  ne_nil : name ≠ []
  ne_here : name ≠ here
  ne_up : name ≠ up
  no_slash : slash ∉ name
  no_backslash : 0x5C ∉ name

theorem up_not_mem_of_plain (h : ∀ name ∈ names, PlainName name) : up ∉ names := fun hup =>
  (h up hup).ne_up rfl

/-- The names of a rooted cleaned path are plain. -/
theorem plainName_of_clean {t : List Char} (h : t.head? = some '/') :
    ∀ name ∈ (ofText (Path.cleanText t)).names, PlainName name := by
  have hrooted : (ofText (Path.cleanText t)).isRooted = true := by
    rw [isRooted_ofText, cleanText_of_slash h]
    rfl
  have hkept := names_of_isRooted hrooted
  intro name hname
  obtain ⟨hne, hhere, hslash⟩ := hkept name hname
  constructor
  · exact hne
  · exact hhere
  · rintro rfl
    rw [names_ofText_clean_of_no_drive (Path.drive_of_slash h)] at hname
    obtain ⟨s, hs, hup⟩ := List.mem_map.1 hname
    obtain rfl := encode_eq_up.1 hup
    exact Path.up_not_mem_names (Path.rooted_of_slash h) hs
  · exact hslash
  · intro hback
    obtain ⟨ss, hsegments, hnames⟩ := segments_of_isRooted hrooted
    have hmem : name ∈ (ofText (Path.cleanText t)).segments := by
      rw [hnames] at hname
      exact hsegments ▸ List.mem_cons_of_mem _ (List.mem_filter.1 hname).1
    have hbytes : (0x5C : UInt8) ∈ Utf8.encode (Path.cleanText t) :=
      (Path.mem_iff_mem_splitOn (by decide)).2 ⟨name, hmem, hback⟩
    exact Path.backslash_not_mem_cleanText
      ((Utf8.toUInt8_mem_encode (a := '\\') (by decide)).1 hbytes)

/-! ### Lengths -/

/-- How long names are, each with its slash. -/
def width (names : List Bytes) : Nat := (names.map fun name => name.length + 1).sum

@[simp] theorem width_cons : width (name :: names) = name.length + 1 + width names := by
  simp [width]

theorem width_le_of_sublist (h : names.Sublist stack) : width names ≤ width stack := by
  induction h with
  | slnil => exact Nat.le_refl _
  | cons name _ ih =>
    rw [width_cons]
    omega
  | cons_cons name _ ih =>
    rw [width_cons, width_cons]
    omega

theorem length_flatMap_slash (names : List Bytes) :
    (names.flatMap (slash :: ·)).length = width names := by
  simp [width, List.length_flatMap]

/-- A path is as long as its segments, each with its slash but for one. -/
theorem width_segments (p : FilePath) : width p.segments = p.bytes.length + 1 := by
  have hb : p.bytes = List.intercalate [slash] p.segments := by simp [segments]
  have hne : p.segments ≠ [] := segments_ne_nil
  have hlength := length_flatMap_slash p.segments
  rw [flatMap_slash hne, ← hb, List.length_cons] at hlength
  exact hlength.symm

/-- No spelling of a rooted path is shorter than its names. -/
theorem width_names_le (hr : p.isRooted = true) : width p.names ≤ p.bytes.length := by
  obtain ⟨ss, hs, hn⟩ := segments_of_isRooted hr
  have hwidth := width_segments p
  rw [hs, width_cons, List.length_nil] at hwidth
  have hle : width p.names ≤ width ss := width_le_of_sublist (hn ▸ List.filter_sublist)
  omega

theorem length_ofNames_le (hr : p.isRooted = true) (h : names.Sublist p.names) :
    (ofNames names).bytes.length ≤ p.bytes.length := by
  by_cases hne : names = []
  · have hpos : 0 < p.bytes.length := by
      obtain ⟨r, hb⟩ := List.head?_eq_some_iff.1 (beq_iff_eq.1 hr)
      simp [hb]
    rw [hne]
    exact hpos
  · rw [bytes_ofNames hne, length_flatMap_slash]
    exact (width_le_of_sublist h).trans (width_names_le hr)

/-! ### Folding -/

/-- One name onto the names that lead to a place, innermost first. -/
def onto (stack : List Bytes) (name : Bytes) : List Bytes :=
  if name = up then stack.tail else name :: stack

/-- The names that are left when climbs are folded into the names before them. -/
def foldedNames (names : List Bytes) : List Bytes := (names.foldl onto []).reverse

theorem onto_up : onto stack up = stack.tail := if_pos rfl

theorem onto_ne (h : name ≠ up) : onto stack name = name :: stack := if_neg h

theorem mem_foldl_onto (h : name ∈ names.foldl onto stack) :
    name ∈ stack ∨ name ∈ names ∧ name ≠ up := by
  induction names generalizing stack with
  | nil => exact Or.inl h
  | cons next names ih =>
    rcases ih h with h | ⟨h, hup⟩
    · unfold onto at h
      split at h
      · exact Or.inl (List.mem_of_mem_tail h)
      · rcases List.mem_cons.1 h with rfl | h
        · exact Or.inr ⟨List.mem_cons_self, ‹_›⟩
        · exact Or.inl h
    · exact Or.inr ⟨List.mem_cons_of_mem _ h, hup⟩

theorem mem_foldedNames (h : name ∈ foldedNames names) : name ∈ names ∧ name ≠ up := by
  rcases mem_foldl_onto (List.mem_reverse.1 h) with h | h
  · simp at h
  · exact h

theorem foldl_onto_of_no_up (h : up ∉ names) : names.foldl onto stack = names.reverse ++ stack := by
  induction names generalizing stack with
  | nil => rfl
  | cons name names ih =>
    rw [List.mem_cons, not_or] at h
    rw [List.foldl_cons, onto_ne (Ne.symm h.1), ih h.2]
    simp

theorem foldedNames_of_no_up (h : up ∉ names) : foldedNames names = names := by
  rw [foldedNames, foldl_onto_of_no_up h, List.append_nil, List.reverse_reverse]

theorem foldl_onto_sublist (names stack : List Bytes) :
    (names.foldl onto stack).reverse.Sublist (stack.reverse ++ names) := by
  induction names generalizing stack with
  | nil => simp
  | cons name names ih =>
    refine (ih (onto stack name)).trans ?_
    unfold onto
    split
    · refine List.Sublist.append ?_ (List.sublist_cons_self _ _)
      exact (List.tail_sublist stack).reverse
    · simp

theorem foldedNames_concat_up : (foldedNames (names ++ [up])).Sublist names := by
  rw [foldedNames, List.foldl_append, List.foldl_cons, List.foldl_nil, onto_up]
  exact (List.tail_sublist _).reverse.trans (foldl_onto_sublist names [])

theorem foldedNames_sublist (names : List Bytes) : (foldedNames names).Sublist names :=
  foldl_onto_sublist names []

/-- Where a climb is the last name, there is room for one more slash behind the folded names. -/
theorem length_slashed_ofNames_le (hr : p.isRooted = true) (hlast : p.names.getLast? = some up)
    (hne : foldedNames p.names ≠ []) :
    (ofNames (foldedNames p.names)).slashed.bytes.length ≤ p.bytes.length := by
  obtain ⟨names, hnames⟩ := List.getLast?_eq_some_iff.1 hlast
  have hsub : (foldedNames p.names).Sublist names := by
    rw [hnames]
    exact foldedNames_concat_up
  have hwidth := width_names_le hr
  have hup : width (names ++ [up]) = width names + 3 := by simp [width, up]
  have hle := width_le_of_sublist hsub
  rw [hnames, hup] at hwidth
  rw [slashed, List.length_append, bytes_ofNames hne, length_flatMap_slash, List.length_singleton]
  omega

end Resources.FilePath
