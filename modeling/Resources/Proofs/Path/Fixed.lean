import Resources.Proofs.Path.Drive
import Resources.Proofs.Path.Relative

/-! Paths that cleaning leaves as they are. Cleaning a path twice takes it apart a second time where
what it was cleaned to begins like a drive. -/
namespace Resources.Path

variable {p q : List Char} {first : Segment} {after ss stack : List Segment} {rooted : Bool}

/-! ### Folding what is folded -/

/-- Segments that are no `.` and not empty, whose climbs come first, are all kept. -/
theorem foldl_push_of_climbs_first (hi : ∀ s ∈ stack.reverse ++ ss, s ≠ [] ∧ s ≠ here)
    (hc : (stack.reverse ++ ss).Pairwise fun s t => Ordinary s → t ≠ up)
    (hr : rooted = true → up ∉ ss) : ss.foldl (push rooted) stack = ss.reverse ++ stack := by
  induction ss generalizing stack with
  | nil => rfl
  | cons s ss ih =>
    have hpush : push rooted stack s = s :: stack := by
      rcases segment_cases s with hs | rfl | hs
      · obtain ⟨hnil, hhere⟩ := hi s (by simp)
        exact absurd hs (not_or.2 ⟨hnil, hhere⟩)
      · have hup : ∀ t ∈ stack, t = up := by
          intro t ht
          by_contra hne
          obtain ⟨hnil, hhere⟩ := hi t (by simp [ht])
          have hbefore := (List.pairwise_append.1 hc).2.2 t (by simpa using ht) up (by simp)
          exact hbefore ⟨hnil, hhere, hne⟩ rfl
        cases rooted with
        | true => exact absurd List.mem_cons_self (hr rfl)
        | false => exact push_up_climbs hup
      · exact push_ordinary hs
    have hstack : (s :: stack).reverse ++ ss = stack.reverse ++ s :: ss := by simp
    rw [List.foldl_cons, hpush, ih (hstack ▸ hi) (hstack ▸ hc)]
    · simp
    · intro h hu
      exact hr h (List.mem_cons_of_mem s hu)

theorem foldl_push_nil (h : ∀ s ∈ ss, s = []) : ss.foldl (push rooted) stack = stack := by
  induction ss with
  | nil => rfl
  | cons s ss ih =>
    rw [List.foldl_cons, push_idle (Or.inl (h s (by simp)))]
    exact ih fun t ht => h t (by simp [ht])

/-- Segments of which only the last can be empty. -/
theorem split_gap (hne : ss ≠ []) (h : [] ∉ ss.dropLast) : ∃ ns g, ss = ns ++ g ∧ [] ∉ ns ∧
    (ss.getLast? = some [] ∧ g = [[]] ∨ ss.getLast? ≠ some [] ∧ g = [] ∧ ns ≠ []) := by
  obtain ⟨init, last, rfl⟩ : ∃ init last, ss = init ++ [last] :=
    ⟨_, _, (List.dropLast_concat_getLast hne).symm⟩
  rw [List.dropLast_concat] at h
  by_cases hl : last = []
  · subst hl
    exact ⟨init, [[]], rfl, h, Or.inl ⟨by simp, rfl⟩⟩
  · refine ⟨init ++ [last], [], by simp, ?_, Or.inr ⟨by simpa using hl, rfl, by simp⟩⟩
    simp [h, Ne.symm hl]

/-- The segments of a path that has no empty ones inside: a root, names and an end. -/
theorem segments_parts (h : [] ∉ (segments q).tail.dropLast) : ∃ ns g,
    segments q = (if q.head? = some '/' then [[]] else []) ++ ns ++ g ∧ [] ∉ ns ∧
    ((q = [] ∨ q.getLast? = some '/') ∧ g = [[]] ∨
      ¬ (q = [] ∨ q.getLast? = some '/') ∧ g = [] ∧ ns ≠ []) := by
  rw [← getLast?_segments_eq_nil]
  by_cases hr : q.head? = some '/'
  · obtain ⟨r, rfl⟩ := List.head?_eq_some_iff.1 hr
    rw [segments_slash_cons, List.tail_cons] at h
    obtain ⟨ns, g, hs, hn, hg⟩ := split_gap segments_ne_nil h
    refine ⟨ns, g, by simp [segments_slash_cons, hs], hn, ?_⟩
    rwa [segments_slash_cons, List.getLast?_cons_of_ne_nil segments_ne_nil]
  · obtain ⟨first, after, hs⟩ := List.exists_cons_of_ne_nil (segments_ne_nil (p := q))
    have hd : [] ∉ (segments q).dropLast := by
      by_cases hq : q = []
      · simp [hq]
      · have hf : first ≠ [] := (segments_head_eq_nil hs hq).not.2 hr
        rw [hs, List.tail_cons] at h
        cases after with
        | nil => simp [hs]
        | cons t after =>
          rw [hs, List.dropLast_cons_cons, List.mem_cons, not_or]
          exact ⟨hf.symm, h⟩
    obtain ⟨ns, g, he, hn, hg⟩ := split_gap segments_ne_nil hd
    exact ⟨ns, g, by simpa [hr] using he, hn, hg⟩

theorem gap_eq {g ns : List Segment} (hn : names q = ns)
    (hg : (rest q = [] ∨ (rest q).getLast? = some '/') ∧ g = [[]] ∨
      ¬ (rest q = [] ∨ (rest q).getLast? = some '/') ∧ g = [] ∧ ns ≠ []) : gap q = g := by
  rcases hg with ⟨hend, rfl⟩ | ⟨hend, rfl, hne⟩
  · rcases gap_cases q with ⟨-, hgap⟩ | ⟨⟨ht, hne⟩, -⟩
    · exact hgap
    · rcases hend with hnil | hslash
      · exact absurd (by simp [names_eq, hnil, push]) hne
      · exact absurd ((trailing_iff hne).2 hslash) (by simp [ht])
  · rcases gap_cases q with ⟨ht | hnil, -⟩ | ⟨-, hgap⟩
    · exact absurd (Or.inr (getLast?_of_trailing ht)) hend
    · exact absurd (hn.symm.trans hnil) hne
    · exact hgap

/-- Names between a root and an end are the names of the path. -/
theorem names_of_parts {g ns : List Segment} (hs : segments (rest q) = lead q ++ ns ++ g)
    (hend : ∀ s ∈ g, s = []) (hi : ∀ s ∈ ns, s ≠ [] ∧ s ≠ here)
    (hc : ns.Pairwise fun s t => Ordinary s → t ≠ up) (hr : Path.rooted q = true → up ∉ ns) :
    names q = ns := by
  have hfold : ns.foldl (push (Path.rooted q)) [] = ns.reverse ++ [] :=
    foldl_push_of_climbs_first hi hc hr
  rw [names_eq, hs, List.foldl_append, List.foldl_append,
    foldl_push_nil fun s hsm => eq_nil_of_mem_lead hsm, hfold, foldl_push_nil hend]
  simp

/-- A simplest spelling is not spelled simpler. -/
theorem plain_eq_rest (h : Simplest (rest q))
    (hr : Path.rooted q = true → up ∉ segments (rest q)) : plain q = rest q := by
  obtain ⟨ns, g, hs, hn, hg⟩ := segments_parts h.no_gap
  have hlead : (if (rest q).head? = some '/' then [[]] else []) = lead q := by
    simp only [lead, rooted_eq, beq_iff_eq]
  rw [hlead] at hs
  have hmem : ∀ s ∈ ns, s ∈ segments (rest q) := by
    intro s hsm
    rw [hs]
    exact List.mem_append_left _ (List.mem_append_right _ hsm)
  have hend : ∀ s ∈ g, s = [] := by rcases hg with ⟨-, rfl⟩ | ⟨-, rfl, -⟩ <;> simp
  have hi : ∀ s ∈ ns, s ≠ [] ∧ s ≠ here := by
    intro s hsm
    constructor
    · rintro rfl
      exact hn hsm
    · rintro rfl
      exact h.no_here (hmem _ hsm)
  have hc : ns.Pairwise fun s t => Ordinary s → t ≠ up := by
    have hc := h.climbs_first
    rw [hs, List.pairwise_append, List.pairwise_append] at hc
    exact hc.1.2.1
  have hnames : names q = ns :=
    names_of_parts hs hend hi hc fun hrooted hu => hr hrooted (hmem _ hu)
  rw [← intercalate_segments (p := plain q), segments_plain, hnames, gap_eq hnames hg, ← hs,
    intercalate_segments]

/-- The paths that cleaning leaves as they are. -/
theorem cleanText_eq_self_iff : cleanText q = q ↔ '\\' ∉ q ∧ Simplest (rest q) ∧
    (Path.rooted q = true → up ∉ segments (rest q)) := by
  constructor
  · intro h
    have hq : '\\' ∉ q := by
      rw [← h]
      exact backslash_not_mem_cleanText
    have hrest : rest q = plain q := by
      have hd : drive q ++ rest q = drive q ++ plain q := by
        rw [drive_append_rest, unify_eq_self hq, ← cleanText_eq, h]
      exact List.append_cancel_left hd
    rw [hrest, up_mem_segments_plain]
    exact ⟨hq, simplest_plain q, up_not_mem_names⟩
  · rintro ⟨hq, hs, hr⟩
    rw [cleanText_eq, plain_eq_rest hs hr, drive_append_rest, unify_eq_self hq]

/-! ### Cleaning twice -/

theorem rest_of_no_drive (hd : drive q = []) (hq : '\\' ∉ q) : rest q = q := by
  have hsplit := drive_append_rest (p := q)
  rwa [hd, List.nil_append, unify_eq_self hq] at hsplit

theorem rooted_of_no_drive (hd : drive q = []) (hq : '\\' ∉ q) :
    Path.rooted q = true ↔ q.head? = some '/' := by
  rw [rooted_eq, rest_of_no_drive hd hq, beq_iff_eq]

/-- There is a drive, and a `.` right behind it. -/
def IdleDrive (q : List Char) : Prop := drive q ≠ [] ∧ (segments (rest q)).head? = some here

instance : DecidablePred IdleDrive := fun _ => inferInstanceAs (Decidable (_ ∧ _))

/-- A simplest path that is read again may begin with a drive. What is behind the drive is simplest
but for a first `.`, and it climbs nowhere. -/
theorem simplest_rest (h : Simplest q) (hd : drive q ≠ []) (hi : ¬ IdleDrive q) :
    Simplest (rest q) ∧ up ∉ (segments (rest q)).tail := by
  obtain ⟨a, -, hd⟩ := (drive_cases q).resolve_left hd
  obtain ⟨first, after, hs⟩ := List.exists_cons_of_ne_nil (segments_ne_nil (p := rest q))
  have hq := segments_unify_drive hd hs
  rw [unify_eq_self h.unified] at hq
  have hhere : here ∉ after := fun hm => h.no_here (hq ▸ List.mem_cons_of_mem _ hm)
  have hfirst : first ≠ here := by
    rintro rfl
    exact hi ⟨by simp [hd], by simp [hs]⟩
  have hclimbs := h.climbs_first
  rw [hq, List.pairwise_cons] at hclimbs
  have hup : up ∉ after := fun hm => hclimbs.1 up hm ordinary_drive rfl
  refine ⟨⟨backslash_not_mem_rest, ?_, ?_, ?_⟩, by simpa [hs] using hup⟩
  · rw [hs, List.mem_cons, not_or]
    exact ⟨hfirst.symm, hhere⟩
  · have hgap := h.no_gap
    rw [hq, List.tail_cons] at hgap
    rwa [hs, List.tail_cons]
  · rw [hs, List.pairwise_cons]
    refine ⟨fun t ht _ => ?_, hclimbs.2⟩
    rintro rfl
    exact hup ht

/-- A simplest path is cleaned to itself, unless it has a drive and a `.` behind it. -/
theorem cleanText_of_simplest (h : Simplest q) (hr : q.head? = some '/' → up ∉ segments q) :
    cleanText q = q ↔ ¬ IdleDrive q := by
  rw [cleanText_eq_self_iff]
  constructor
  · rintro ⟨-, hs, -⟩ ⟨-, hhere⟩
    exact hs.no_here (List.mem_of_head? hhere)
  · intro hi
    refine ⟨h.unified, ?_⟩
    by_cases hd : drive q = []
    · rw [rooted_of_no_drive hd h.unified, rest_of_no_drive hd h.unified]
      exact ⟨h, hr⟩
    · obtain ⟨hs, hup⟩ := simplest_rest h hd hi
      refine ⟨hs, fun hrooted hu => ?_⟩
      obtain ⟨r, hq⟩ := List.head?_eq_some_iff.1 (by simpa [rooted_eq] using hrooted)
      rw [hq, segments_slash_cons] at hu hup
      exact hup (by simpa using hu)

/-- A rooted path spelled from its names is clean, with a slash behind it or without. -/
theorem cleanText_of_names {ns g : List Segment} (hs : segments q = [] :: ns ++ g)
    (hg : g = [] ∨ g = [[]]) (hn : ∀ s ∈ ns, Ordinary s) (hq : '\\' ∉ q) : cleanText q = q := by
  have hnot : ∀ s ∈ segments q, s = [] ∨ Ordinary s := by
    intro s hm
    rw [hs] at hm
    rcases List.mem_append.1 hm with hm | hm
    · exact (List.mem_cons.1 hm).imp_right (hn s)
    · rcases hg with rfl | rfl
      · simp at hm
      · exact Or.inl (by simpa using hm)
  have hup : up ∉ segments q := by
    intro hm
    rcases hnot up hm with hu | hu
    · exact up_ne_nil hu
    · exact hu.2.2 rfl
  have hd : drive q = [] := by
    by_cases hnil : q = []
    · subst hnil
      rfl
    · apply drive_of_slash
      rw [← intercalate_segments (p := q), hs]
      cases hrest : ns ++ g with
      | nil =>
        rw [List.cons_append, hrest] at hs
        exact absurd (by rw [← intercalate_segments (p := q), hs]; rfl) hnil
      | cons s ss =>
        rw [List.cons_append, hrest, List.intercalate_cons_cons]
        rfl
  refine (cleanText_of_simplest ⟨hq, ?_, ?_, ?_⟩ fun _ => hup).2 fun hi => hi.1 hd
  · intro hm
    rcases hnot here hm with hh | hh
    · exact here_ne_nil hh
    · exact hh.2.1 rfl
  · intro hm
    have hinner : [] ∈ ns := by
      rw [hs, List.cons_append, List.tail_cons] at hm
      rcases hg with rfl | rfl
      · exact List.dropLast_subset _ (by simpa using hm)
      · simpa using hm
    exact (hn [] hinner).1 rfl
  · apply List.pairwise_of_forall_mem_list
    rintro s - t ht - rfl
    exact hup ht

/-- The drive of a path is still there when the path is cleaned, and what is behind it was cleaned
with the path. -/
theorem drive_cleanText (hd : drive p ≠ []) :
    drive (cleanText p) = drive p ∧ rest (cleanText p) = plain p := by
  obtain ⟨a, ha, hd⟩ := (drive_cases p).resolve_left hd
  have hc : unify (cleanText p) = a :: ':' :: plain p := by
    rw [unify_cleanText, cleanText_eq, hd]
    rfl
  rw [hd]
  simp [drive, rest, hc, splitDrive, ha]

theorem up_not_mem_plain (h : (plain p).head? = some '/') : up ∉ segments (plain p) := by
  rw [up_mem_segments_plain]
  exact up_not_mem_names (rooted_plain.1 h)

/-- Cleaning a path that had a drive is done with it. -/
theorem cleanText_of_drive (hd : drive p ≠ []) :
    cleanText (cleanText p) = cleanText p ∧ ¬ IdleDrive (cleanText p) := by
  obtain ⟨-, hrest⟩ := drive_cleanText hd
  constructor
  · rw [cleanText_eq_self_iff, rooted_eq, hrest, beq_iff_eq]
    exact ⟨backslash_not_mem_cleanText, simplest_plain p, up_not_mem_plain⟩
  · rintro ⟨-, hhere⟩
    rw [hrest] at hhere
    exact here_not_mem_plain (List.mem_of_head? hhere)

theorem cleanText_cleanText_iff :
    cleanText (cleanText p) = cleanText p ↔ ¬ IdleDrive (cleanText p) := by
  by_cases hd : drive p = []
  · have hp : cleanText p = plain p := by rw [cleanText_eq, hd, List.nil_append]
    rw [hp]
    exact cleanText_of_simplest (simplest_plain p) up_not_mem_plain
  · obtain ⟨hc, hi⟩ := cleanText_of_drive hd
    exact iff_of_true hc hi

end Resources.Path
