import Resources.Proofs.Path.Spellings
import Resources.Proofs.Text.Shown

/-! Paths of bytes as walks. The path that is shown for one leads where it leads, over names as they
are shown. -/
namespace Resources

section

variable {α β : Type} {f : List α → α → List α} {f' : List β → β → List β} {g : α → β} {s : α}
  {ss stack : List α}

/-- Two walks take the same step, each at its own segment: both stay, both climb, or both go down. -/
def StepsAlike (f : List α → α → List α) (f' : List β → β → List β) (s : α) (s' : β) : Prop :=
  (∀ place place', f place s = place ∧ f' place' s' = place') ∨
  (∀ place place', f place s = place.tail ∧ f' place' s' = place'.tail) ∨
  ∀ place place', f place s = s :: place ∧ f' place' s' = s' :: place'

theorem StepsAlike.symm {s' : β} (h : StepsAlike f f' s s') : StepsAlike f' f s' s := by
  rcases h with hstay | hclimb | hdown
  · exact Or.inl fun place place' => (hstay place' place).symm
  · exact Or.inr (Or.inl fun place place' => (hclimb place' place).symm)
  · exact Or.inr (Or.inr fun place place' => (hdown place' place).symm)

/-- Segments that are walked alike climb as far from any place, and then go down over names that stand
for each other. -/
theorem foldl_alike_append (h : ∀ s ∈ ss, StepsAlike f f' s (g s)) (stack : List α) (j : Nat) :
    ∃ (k : Nat) (ns : List α),
      (∀ place : List α, ss.foldl f (stack ++ place.drop j) = ns ++ place.drop k) ∧
      ∀ place : List β, (ss.map g).foldl f' (stack.map g ++ place.drop j) =
        ns.map g ++ place.drop k := by
  induction ss generalizing stack j with
  | nil => exact ⟨j, stack, fun _ => rfl, fun _ => rfl⟩
  | cons s ss ih =>
    rw [List.forall_mem_cons] at h
    obtain ⟨hs, hss⟩ := h
    simp only [List.map_cons, List.foldl_cons]
    rcases hs with hstay | hclimb | hdown
    · obtain ⟨k, ns, hwalk, hwalk'⟩ := ih hss stack j
      exact ⟨k, ns, fun place => by rw [(hstay _ []).1, hwalk],
        fun place => by rw [(hstay [] _).2, hwalk']⟩
    · cases stack with
      | nil =>
        obtain ⟨k, ns, hwalk, hwalk'⟩ := ih hss [] (j + 1)
        refine ⟨k, ns, fun place => ?_, fun place => ?_⟩
        · rw [(hclimb _ []).1, List.nil_append, List.tail_drop]
          exact hwalk place
        · rw [(hclimb [] _).2, List.map_nil, List.nil_append, List.tail_drop]
          exact hwalk' place
      | cons top below =>
        obtain ⟨k, ns, hwalk, hwalk'⟩ := ih hss below j
        refine ⟨k, ns, fun place => ?_, fun place => ?_⟩
        · rw [(hclimb _ []).1, List.cons_append, List.tail_cons, hwalk]
        · rw [(hclimb [] _).2, List.map_cons, List.cons_append, List.tail_cons, hwalk']
    · obtain ⟨k, ns, hwalk, hwalk'⟩ := ih hss (s :: stack) j
      exact ⟨k, ns, fun place => by rw [(hdown _ []).1, ← List.cons_append, hwalk],
        fun place => by rw [(hdown [] _).2, ← List.cons_append, ← List.map_cons, hwalk']⟩

theorem foldl_alike (h : ∀ s ∈ ss, StepsAlike f f' s (g s)) : ∃ (k : Nat) (ns : List α),
    (∀ place : List α, ss.foldl f place = ns ++ place.drop k) ∧
      ∀ place : List β, (ss.map g).foldl f' place = ns.map g ++ place.drop k :=
  foldl_alike_append h [] 0

end

namespace Path

variable {p t : List Char} {place : List Segment}

/-- Without a drive to keep, cleaning leaves where a path leads. -/
theorem walk_cleanText (h : ':' ∉ p) : walk place (cleanText p) = walk place (unify p) := by
  rw [cleanText_of_no_colon h, walk_plain, rest_of_no_colon h]

end Path

namespace FilePath

variable {b : FilePath} {name : Bytes} {c : Char} {r t : List Char}

/-- One segment from a place, which is given by its names, innermost first. -/
def step (place : List Bytes) (s : Bytes) : List Bytes :=
  if s = [] ∨ s = here then place else if s = up then place.tail else s :: place

/-- Where a path leads from a place. A rooted one begins at the root. -/
def walk (place : List Bytes) (p : FilePath) : List Bytes :=
  p.segments.foldl step (if p.isRooted then [] else place)

/-- Is the name a text? -/
def IsText (name : Bytes) : Prop := ∃ t, name = Utf8.encode t

/-- The name as it is shown, in bytes again. -/
def reshown (name : Bytes) : Bytes := Utf8.encode (Utf8.decodeLossy name)

theorem isText_iff_ofString : IsText b.bytes ↔ ∃ x, b = .ofString x := by
  constructor
  · rintro ⟨cs, hcs⟩
    refine ⟨.ofList cs, ?_⟩
    rw [ofString_eq, String.toList_ofList]
    exact congrArg FilePath.mk hcs
  · rintro ⟨x, rfl⟩
    exact ⟨x.toList, rfl⟩

theorem text?_of_not_isText (hb : ¬ IsText b.bytes) : b.text? = none := by
  cases hcs : Utf8.decode? b.bytes with
  | none => rw [text?, hcs, Option.map_none]
  | some cs => exact absurd ⟨cs, Utf8.decode?_eq_some.1 hcs⟩ hb

theorem reshown_eq_self_iff : reshown name = name ↔ IsText name := by
  constructor
  · intro h
    exact ⟨_, h.symm⟩
  · rintro ⟨t, rfl⟩
    rw [reshown, Utf8.decodeLossy_encode]

theorem decodeLossy_segment_iff (name : Bytes) : (Utf8.decodeLossy name = [] ↔ name = []) ∧
    (Utf8.decodeLossy name = Path.here ↔ name = here) ∧
      (Utf8.decodeLossy name = Path.up ↔ name = up) :=
  ⟨Utf8.decodeLossy_eq_iff (by decide), Utf8.decodeLossy_eq_iff (by decide),
    Utf8.decodeLossy_eq_iff (by decide)⟩

theorem stepsAlike_decodeLossy (name : Bytes) :
    StepsAlike step Path.step name (Utf8.decodeLossy name) := by
  obtain ⟨hnil, hhere, hup⟩ := decodeLossy_segment_iff name
  unfold StepsAlike Path.step step
  simp only [hnil, hhere, hup]
  by_cases hidle : name = [] ∨ name = here
  · exact Or.inl fun _ _ => ⟨if_pos hidle, if_pos hidle⟩
  · by_cases hup : name = up
    · exact Or.inr (Or.inl fun _ _ => by simp [hup])
    · exact Or.inr (Or.inr fun _ _ => by simp [hidle, hup])

theorem stepsAlike_encode (t : Path.Segment) : StepsAlike Path.step step t (Utf8.encode t) := by
  have halike := (stepsAlike_decodeLossy (Utf8.encode t)).symm
  rwa [Utf8.decodeLossy_encode] at halike

/-! ### What is shown -/

theorem not_mem_lossy (hc : c.toNat < 0x80) (hnul : c ≠ '\x00') (h : c.toNat.toUInt8 ∉ b.bytes) :
    c ∉ b.lossy.toList := by
  rw [lossy, String.toList_ofList]
  exact mt (Utf8.mem_of_mem_decodeLossy hc hnul) h

theorem backslash_not_mem_lossy (hb : 0x5C ∉ b.bytes) : '\\' ∉ b.lossy.toList :=
  not_mem_lossy (by decide) (by decide) hb

theorem shownSegments_of_no_backslash (hslash : slash ∉ name) (hback : 0x5C ∉ name) :
    shownSegments name = [Utf8.decodeLossy name] := by
  have hu : '\\' ∉ Utf8.decodeLossy name :=
    mt (Utf8.mem_of_mem_decodeLossy (by decide) (by decide)) hback
  have hs : '/' ∉ Utf8.decodeLossy name :=
    mt (Utf8.mem_of_mem_decodeLossy (by decide) (by decide)) hslash
  rw [shownSegments, Path.unify_eq_self hu, Path.segments_of_no_slash hs]

/-- Without a backslash each segment is shown as one. -/
theorem segments_lossy_of_no_backslash (hb : 0x5C ∉ b.bytes) :
    Path.segments b.lossy.toList = b.segments.map Utf8.decodeLossy := by
  have hshown := segments_lossy b
  rw [Path.unify_eq_self (backslash_not_mem_lossy hb)] at hshown
  rw [hshown, List.map_eq_flatMap]
  refine List.flatMap_congr fun name hname => ?_
  refine shownSegments_of_no_backslash (slash_not_mem_segment hname) fun hback => hb ?_
  exact (Path.mem_iff_mem_splitOn (by decide)).2 ⟨name, hname, hback⟩

theorem head?_lossy (hb : 0x5C ∉ b.bytes) : b.lossy.toList.head? = some '/' ↔ b.isRooted = true := by
  obtain ⟨first, ss, hs⟩ := List.exists_cons_of_ne_nil (segments_ne_nil (f := b))
  rw [Path.head?_eq_slash_iff, segments_lossy_of_no_backslash hb, isRooted_iff_segments hs, hs]
  simp [(decodeLossy_segment_iff first).1, and_comm]

/-! ### Texts that are shown for bytes -/

theorem walk_lossy (hb : 0x5C ∉ b.bytes) : ∃ (k : Nat) (ns : List Bytes),
    (∀ place, walk place b = ns ++ (if b.isRooted then [] else place).drop k) ∧
      ∀ place, Path.walk place b.lossy.toList =
        ns.map Utf8.decodeLossy ++ (if b.isRooted then [] else place).drop k := by
  have hsteps : ∀ name ∈ b.segments, StepsAlike step Path.step name (Utf8.decodeLossy name) :=
    fun name _ => stepsAlike_decodeLossy name
  obtain ⟨k, ns, hbytes, hshown⟩ := foldl_alike hsteps
  refine ⟨k, ns, fun place => hbytes _, fun place => ?_⟩
  rw [Path.walk, segments_lossy_of_no_backslash hb, hshown]
  simp only [head?_lossy hb]

theorem walk_ofText (t : List Char) : ∃ (k : Nat) (ns : List Path.Segment),
    (∀ place, Path.walk place t = ns ++ (if (ofText t).isRooted then [] else place).drop k) ∧
      ∀ place, walk place (ofText t) =
        ns.map Utf8.encode ++ (if (ofText t).isRooted then [] else place).drop k := by
  have hsteps : ∀ s ∈ Path.segments t, StepsAlike Path.step step s (Utf8.encode s) :=
    fun s _ => stepsAlike_encode s
  obtain ⟨k, ns, htext, hbytes⟩ := foldl_alike hsteps
  refine ⟨k, ns, fun place => ?_, fun place => ?_⟩
  · rw [Path.walk, htext]
    simp
  · rw [walk, segments_ofText, hbytes]

/-- A text that leads where the path is shown to lead: it climbs as far as the path does, and its names
are those of the path as they are shown. -/
theorem walk_ofText_of_shown (hb : 0x5C ∉ b.bytes) (hroot : (ofText t).isRooted = b.isRooted)
    (h : ∀ place, Path.walk place t = Path.walk place b.lossy.toList) :
    ∃ (k : Nat) (ns : List Bytes),
      (∀ place, walk place b = ns ++ (if b.isRooted then [] else place).drop k) ∧
        ∀ place, walk place (ofText t) =
          ns.map reshown ++ (if b.isRooted then [] else place).drop k := by
  obtain ⟨k, ns, hbytes, hshown⟩ := walk_lossy hb
  obtain ⟨j, ms, htext, hwalk⟩ := walk_ofText t
  simp only [htext, hshown, hroot] at h
  refine ⟨k, ns, hbytes, fun place => ?_⟩
  rw [hwalk, hroot]
  cases hr : b.isRooted with
  | true =>
    have hms : ms = ns.map Utf8.decodeLossy := by simpa [hr] using h []
    simp [hms, reshown, Function.comp_def]
  | false =>
    simp only [hr, Bool.false_eq_true, if_false] at h
    obtain ⟨rfl, rfl⟩ := Path.append_drop_inj Path.up h
    simp [reshown, Function.comp_def]

theorem walk_reshown (hb : 0x5C ∉ b.bytes) (hroot : (ofText t).isRooted = b.isRooted)
    (h : ∀ place, Path.walk place t = Path.walk place b.lossy.toList) :
    (∀ place, walk (place.map reshown) (ofText t) = (walk place b).map reshown) ∧
      ((∀ place, walk place (ofText t) = walk place b) ↔ ∀ name ∈ walk [] b, IsText name) := by
  obtain ⟨k, ns, hbytes, hshown⟩ := walk_ofText_of_shown hb hroot h
  have hnames : walk [] b = ns := by simp [hbytes]
  constructor
  · intro place
    rw [hbytes, hshown, List.map_append, List.map_drop]
    split <;> rfl
  · have hself : ns.map reshown = ns ↔ ∀ name ∈ ns, IsText name := by
      simp only [← reshown_eq_self_iff]
      simpa using List.map_inj_left (l := ns) (f := reshown) (g := id)
    rw [hnames, ← hself]
    constructor
    · intro hsame
      simpa [hbytes, hshown] using hsame []
    · intro hns place
      rw [hbytes, hshown, hns]

/-! ### Beside a path -/

/-- Everything through the last slash. -/
def directory (p : FilePath) : Bytes := (p.bytes.reverse.dropWhile (· ≠ slash)).reverse

/-- What a relative path leads to when it is read from the directory of another. -/
def beside (p : FilePath) (r : List Char) : FilePath :=
  ⟨p.directory ++ Utf8.encode (Path.unify r)⟩

theorem segments_beside (p : FilePath) (r : List Char) : (p.beside r).segments =
    p.segments.dropLast ++ (Path.segments (Path.unify r)).map Utf8.encode := by
  rw [← segments_ofText, segments, segments, segments, beside, directory, bytes_ofText]
  rcases last_mark_cases slash p.bytes with h | ⟨above, last, hp, h⟩
  · rw [dropWhile_of_no_mark h, Path.splitOn_of_not_mem h]
    rfl
  · rw [hp, dropWhile_of_last_mark h, List.append_assoc, List.singleton_append,
      List.splitOn_append_cons_self, List.splitOn_append_cons_self, Path.splitOn_of_not_mem h,
      List.dropLast_concat]

theorem not_mem_beside (hc : c.toNat < 0x80) (h : c.toNat.toUInt8 ∉ b.bytes)
    (hr : c ∉ Path.unify r) : c.toNat.toUInt8 ∉ (b.beside r).bytes := by
  rw [beside, List.mem_append, not_or]
  refine ⟨fun hmem => h ?_, mt (Utf8.toUInt8_mem_encode hc).1 hr⟩
  rw [directory, List.mem_reverse] at hmem
  exact List.mem_reverse.1 ((List.dropWhile_sublist _).subset hmem)

/-- The relative path is shown behind what is shown of the directory. -/
theorem lossy_beside (hb : 0x5C ∉ b.bytes) : (b.beside r).lossy.toList =
    Path.directory b.lossy.toList ++ Path.unify r := by
  have hbeside : 0x5C ∉ (b.beside r).bytes :=
    not_mem_beside (c := '\\') (by decide) hb Path.backslash_not_mem_unify
  have hs : Path.segments (b.beside r).lossy.toList =
      Path.segments (Path.directory b.lossy.toList ++ Path.unify r) := by
    rw [segments_lossy_of_no_backslash hbeside, segments_beside, Path.segments_directory_append,
      segments_lossy_of_no_backslash hb]
    simp [List.map_dropLast, Function.comp_def]
  rw [← Path.intercalate_segments (p := (b.beside r).lossy.toList), hs, Path.intercalate_segments]

end FilePath

end Resources
