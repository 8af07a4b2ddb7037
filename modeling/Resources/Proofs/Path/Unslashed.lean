import Resources.Proofs.Path.Shed
import Resources.Proofs.Path.Shown

/-! Cleaned paths apart from the slash at their end. What is left tells them apart just as their names
and their root do. -/
namespace Resources

namespace Path

variable {p q : List Char} {s : Segment} {ss : List Segment}

/-- The path without a slash at its end. -/
def unslashed (p : List Char) : List Char := if p.getLast? = some '/' then p.dropLast else p

/-- Behind the first segment all lead somewhere, but for an empty one at the end. -/
structure Tidy (p : List Char) : Prop where
  no_here : here ∉ (segments p).tail
  no_gap : [] ∉ (segments p).tail.dropLast

theorem tidy_cleanText (p : List Char) : Tidy (cleanText p) := by
  have hplain := simplest_plain p
  have htail : (segments (cleanText p)).tail = (segments (plain p)).tail := by
    rw [cleanText_eq]
    rcases drive_cases p with hd | ⟨c, hc, hd⟩
    · rw [hd, List.nil_append]
    · rw [hd]
      change (segments (c :: ':' :: plain p)).tail = _
      rw [segments_drive hc, List.tail_modifyHead]
  constructor
  · rw [htail]
    exact fun h => hplain.no_here (List.mem_of_mem_tail h)
  · rw [htail]
    exact hplain.no_gap

theorem segments_inj : segments p = segments q ↔ p = q := by
  constructor
  · intro h
    rw [← intercalate_segments (p := p), h, intercalate_segments]
  · rintro rfl
    rfl

/-- Without the slash at its end, a tidy path has its first segment and those that lead anywhere. -/
theorem segments_unslashed (hp : Tidy p) (hs : segments p = s :: ss) :
    segments (unslashed p) = s :: ss.filter moves := by
  obtain ⟨hhere, hgap⟩ := hp
  rw [hs, List.tail_cons] at hhere hgap
  have hend := getLast?_segments_eq_nil (p := p)
  have hmoves : ∀ t ∈ ss, t ≠ [] → moves t = true := by
    intro t ht hne
    have hne' : t ≠ here := by rintro rfl; exact hhere ht
    simp [moves, hne, hne']
  rcases ss.eq_nil_or_concat' with rfl | ⟨init, last, rfl⟩
  · have hslash : '/' ∉ p := by
      rw [← intercalate_segments (p := p), hs, List.intercalate_singleton]
      exact slash_not_mem_segment (p := p) (by simp [hs])
    have hlast : p.getLast? ≠ some '/' := fun h => hslash (List.mem_of_getLast? h)
    rw [unslashed, if_neg hlast, hs]
    rfl
  · rw [hs, ← List.cons_append, List.getLast?_concat, Option.some_inj] at hend
    rw [List.dropLast_concat] at hgap
    have hinit : init.filter moves = init := by
      rw [List.filter_eq_self]
      intro t ht
      exact hmoves t (List.mem_append_left _ ht) (by rintro rfl; exact hgap ht)
    rw [List.filter_append, hinit]
    by_cases hnil : last = []
    · have hne : p ≠ [] := by
        rintro rfl
        simp at hs
      obtain ⟨above, rfl⟩ := List.getLast?_eq_some_iff.1 ((hend.1 hnil).resolve_left hne)
      rw [segments_append_end, hnil, ← List.cons_append, List.append_cancel_right_eq] at hs
      rw [unslashed, if_pos List.getLast?_concat, List.dropLast_concat, hs, hnil]
      simp [moves]
    · have hlast : p.getLast? ≠ some '/' := fun h => hnil (hend.2 (Or.inr h))
      rw [unslashed, if_neg hlast, hs, List.filter_cons_of_pos (hmoves last (by simp) hnil)]
      rfl

end Path

namespace FilePath

open Resources.Path (unslashed Tidy cleanText)

variable {t u : List Char} {p q : FilePath}

theorem moves_encode (s : Path.Segment) : moves (Utf8.encode s) = Path.moves s := by
  simp [moves, Path.moves, encode_eq_nil, encode_eq_here]

/-- Tidy paths are the same when they agree on the root and on all but the slash at their end. -/
theorem same_ofText_iff (ht : Tidy t) (hu : Tidy u) : (ofText t).Same (ofText u) ↔
    (t.head? = some '/' ↔ u.head? = some '/') ∧ unslashed t = unslashed u := by
  obtain ⟨s, ss, hs⟩ := List.exists_cons_of_ne_nil (Path.segments_ne_nil (p := t))
  obtain ⟨s', ss', hs'⟩ := List.exists_cons_of_ne_nil (Path.segments_ne_nil (p := u))
  have hinj : Function.Injective Utf8.encode := fun _ _ => Utf8.encode_inj.1
  have hsegments {x : List Char} {y : Path.Segment} {ys : List Path.Segment}
      (h : Path.segments x = y :: ys) :
      (ofText x).segments = Utf8.encode y :: ys.map Utf8.encode := by
    rw [segments_ofText, h, List.map_cons]
  have hfilter (ys : List Path.Segment) :
      (ys.map Utf8.encode).filter moves = (ys.filter Path.moves).map Utf8.encode := by
    rw [List.filter_map]
    congr 2
    funext y
    exact moves_encode y
  rw [same_iff_segments (hsegments hs) (hsegments hs'), isRooted_ofText, isRooted_ofText,
    Utf8.encode_inj, hfilter, hfilter, (List.map_injective_iff.2 hinj).eq_iff,
    ← Path.segments_inj (p := unslashed t), Path.segments_unslashed ht hs,
    Path.segments_unslashed hu hs', List.cons.injEq, Bool.eq_iff_iff, beq_iff_eq, beq_iff_eq]

/-! ### Spellings of a path before it is cleaned -/

/-- A path is text just if its segments are. -/
theorem isText_iff_segments : IsText p.bytes ↔ ∀ name ∈ p.segments, IsText name := by
  constructor
  · rintro ⟨t, ht⟩ name hname
    have hp : p = ofText t := congrArg mk ht
    rw [hp, segments_ofText] at hname
    obtain ⟨s, -, rfl⟩ := List.mem_map.1 hname
    exact ⟨s, rfl⟩
  · intro h
    obtain ⟨ss, hss⟩ : ∃ ss : List Path.Segment, p.segments = ss.map Utf8.encode := by
      generalize p.segments = names at h
      induction names with
      | nil => exact ⟨[], rfl⟩
      | cons name names ih =>
        obtain ⟨s, hs⟩ := h name List.mem_cons_self
        obtain ⟨ss, hss⟩ := ih fun name hname => h name (List.mem_cons_of_mem _ hname)
        exact ⟨s :: ss, by rw [hs, hss, List.map_cons]⟩
    have hb : p.bytes = List.intercalate [slash] p.segments := by simp [segments]
    exact ⟨List.intercalate ['/'] ss, by rw [hb, hss, encode_intercalate]⟩

theorem Same.isText (h : p.Same q) (hp : IsText p.bytes) : IsText q.bytes := by
  obtain ⟨first, ss, ss', hs, hs', hmoves, -⟩ := h.segments
  rw [isText_iff_segments, hs] at hp
  rw [isText_iff_segments, hs']
  intro name hname
  rcases List.mem_cons.1 hname with rfl | hname
  · exact hp _ List.mem_cons_self
  · cases hm : moves name with
    | true =>
      have hkept : name ∈ ss.filter moves := by
        rw [hmoves]
        exact List.mem_filter.2 ⟨hname, hm⟩
      exact hp name (List.mem_cons_of_mem _ (List.mem_filter.1 hkept).1)
    | false =>
      rcases moves_eq_false.1 hm with rfl | rfl
      · exact ⟨[], rfl⟩
      · exact ⟨Path.here, rfl⟩

theorem same_slashed (hp : p.bytes ≠ []) : p.slashed.Same p := same_append_slashes hp 1

theorem slashed_ofText (t : List Char) : (ofText t).slashed = ofText (t ++ ['/']) := by
  simp [slashed, ofText, Utf8.encode_ascii, slash]

theorem same_ofText_end (ht : t ≠ []) (trailing : Bool) :
    (ofText (t ++ if trailing then ['/'] else [])).Same (ofText t) := by
  cases trailing with
  | false => simpa using equivalence_same.refl (ofText t)
  | true =>
    rw [if_pos rfl, ← slashed_ofText]
    exact same_slashed (encode_eq_nil.not.2 ht)

/-- A slash more at the end of a path makes at most one at the end of the cleaned path. -/
theorem same_cleanText_slashed (ht : t ≠ []) :
    (ofText (cleanText (t ++ ['/']))).Same (ofText (cleanText t)) := by
  have hunify : Path.unify (t ++ ['/']) = Path.unify t ++ '/' :: [] := by simp [Path.unify]
  have hdrive : Path.drive (t ++ ['/']) = Path.drive t := by
    rw [Path.drive, hunify, Path.splitDrive_append_slash, Path.drive]
  have hrest : Path.rest (t ++ ['/']) = Path.rest t ++ ['/'] := by
    rw [Path.rest, hunify, Path.splitDrive_append_slash, Path.rest]
  have htext (p : List Char) : cleanText p = (Path.drive p ++ if Path.rooted p then ['/'] else []) ++
      List.intercalate ['/'] (Path.names p) ++
        if Path.trailing p && !(Path.names p).isEmpty then ['/'] else [] := by
    rw [Path.cleanText_eq, Path.plain, Path.Lexical.plain, Path.ofText_eq]
    simp only [List.append_assoc]
  by_cases hr : Path.rest t = []
  · -- A drive alone, which the slash gives a root.
    have hd : Path.drive t ≠ [] := by
      intro hd
      have hu := Path.drive_append_rest (p := t)
      rw [hd, hr] at hu
      simp [Path.unify, ht] at hu
    have hclean : cleanText t = Path.drive t := by
      have hplain := Path.plain_sublist (p := t)
      rw [hr, List.sublist_nil] at hplain
      rw [Path.cleanText_eq, hplain, List.append_nil]
    have hclean' : cleanText (t ++ ['/']) = Path.drive t ++ ['/'] := by
      rw [htext, Path.rooted_eq, Path.names_eq, Path.trailing_eq, Path.rooted_eq, hrest, hr, hdrive]
      simp [Path.segments_cons, Path.push]
    rw [hclean, hclean', ← slashed_ofText]
    exact same_slashed (encode_eq_nil.not.2 hd)
  · have hrooted : Path.rooted (t ++ ['/']) = Path.rooted t := by
      obtain ⟨c, r, hc⟩ := List.exists_cons_of_ne_nil hr
      rw [Path.rooted_eq, Path.rooted_eq, hrest, hc]
      rfl
    have hnames : Path.names (t ++ ['/']) = Path.names t := by
      rw [Path.names_eq, Path.names_eq, hrest, hrooted, Path.segments_append_end, List.foldl_append]
      rfl
    rw [htext, htext t, hdrive, hrooted, hnames]
    by_cases hnil : Path.names t = []
    · simpa [hnil] using equivalence_same.refl _
    · have hne : List.intercalate ['/'] (Path.names t) ≠ [] := by
        intro h
        have hsegments := Path.segments_intercalate
          (fun s hs => Path.slash_not_mem_names (p := t) hs) hnil
        rw [h] at hsegments
        exact (Path.names_ne (p := t) (s := []) (by simp [← hsegments])).1 rfl
      refine equivalence_same.trans (same_ofText_end ?_ _)
        (equivalence_same.symm (same_ofText_end ?_ _)) <;> simp [hne]

theorem Same.eq_nil (h : p.Same q) (hp : p.bytes = []) : q.bytes = [] := by
  have hs : p.segments = [[]] := by rw [FilePath.segments, hp]; rfl
  obtain ⟨first, ss, hs'⟩ := List.exists_cons_of_ne_nil (segments_ne_nil (f := q))
  obtain ⟨hroot, rfl, -⟩ := (same_iff_segments hs hs').1 h
  have hss : ss = [] := by
    by_contra hne
    have hrooted := (isRooted_iff_segments hs').2 ⟨rfl, hne⟩
    rw [← hroot, isRooted, hp] at hrooted
    cases hrooted
  rw [bytes_of_segments hs', hss]
  rfl

theorem cleanText_directory_slashed (t : List Char) :
    Path.cleanText (Path.directory (Path.unify (ofText t).slashed.lossy.toList) ++ Path.unify []) =
      Path.cleanText (t ++ ['/']) := by
  have hdirectory : Path.directory (Path.unify (t ++ ['/'])) = Path.unify (t ++ ['/']) :=
    Path.directory_eq_self (Or.inr (by simp [Path.unify]))
  rw [slashed_ofText, lossy, bytes_ofText, Utf8.decodeLossy_encode, String.toList_ofList, hdirectory,
    Path.unify_nil, List.append_nil, cleanText, Path.ofText_congr Path.unify_unify]
  rfl

/-- Spellings of one path are cleaned to spellings of one path. -/
theorem Same.cleanText (h : (ofText t).Same (ofText u)) :
    (ofText (Path.cleanText t)).Same (ofText (Path.cleanText u)) := by
  by_cases ht : t = []
  · have hu : u = [] := encode_eq_nil.1 (h.eq_nil (encode_eq_nil.2 ht))
    rw [ht, hu]
    exact equivalence_same.refl _
  have hu : u ≠ [] := fun hu =>
    ht (encode_eq_nil.1 ((equivalence_same.symm h).eq_nil (encode_eq_nil.2 hu)))
  have hend (x : List Char) : (ofText x).slashed.EndsOpen :=
    ⟨[], by rw [segments_slashed, List.getLast?_concat], rfl⟩
  have hhere (x : List Char) : (ofText x).slashed.bytes ≠ here := by
    intro hx
    have hlast := congrArg List.getLast? hx
    simp [slashed, here, slash] at hlast
  have hsame : (ofText t).slashed.Same (ofText u).slashed :=
    equivalence_same.trans (same_slashed (encode_eq_nil.not.2 ht))
      (equivalence_same.trans h (equivalence_same.symm (same_slashed (encode_eq_nil.not.2 hu))))
  -- With a slash behind them both are cleaned to one text.
  have hclean := cleanText_directory_congr hsame (iff_of_true (hend t) (hend u)) (hhere t) (hhere u) []
  rw [cleanText_directory_slashed, cleanText_directory_slashed] at hclean
  have hback := equivalence_same.symm (same_cleanText_slashed ht)
  rw [hclean] at hback
  exact equivalence_same.trans hback (same_cleanText_slashed hu)

end FilePath

end Resources
