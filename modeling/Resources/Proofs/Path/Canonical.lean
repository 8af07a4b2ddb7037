import Resources.Proofs.Path.Text
import Resources.Proofs.Path.Walk

/-! Cleaned paths. Cleaning keeps where a path leads from every place, and two paths that cannot be
told apart by their walks, their root and their trailing slash are cleaned alike. -/
namespace Resources.Path

variable {p q : List Char} {s : Segment} {l : Lexical} {place : List Segment}

/-- Does the path begin at the root? -/
def rooted (p : List Char) : Bool := (Lexical.ofText p).rooted

/-- The names of a path in its simplest spelling, climbs included. -/
def names (p : List Char) : List Segment := (Lexical.ofText p).names

def trailing (p : List Char) : Bool := (Lexical.ofText p).trailing

theorem rooted_eq : rooted p = ((rest p).head? == some '/') := rfl

theorem rooted_of_slash (h : p.head? = some '/') : rooted p = true := by
  have hu := drive_append_rest (p := p)
  rw [drive_of_slash h, List.nil_append] at hu
  rw [rooted_eq, hu, beq_iff_eq, head?_unify]
  exact Or.inl h

theorem names_eq : names p = ((segments (rest p)).foldl (push (rooted p)) []).reverse := rfl

theorem trailing_eq : trailing p = (1 < (rest p).length && (rest p).getLast? == some '/') := rfl

theorem getLast?_of_trailing (h : trailing p = true) : (rest p).getLast? = some '/' := by
  rw [trailing_eq, Bool.and_eq_true, beq_iff_eq] at h
  exact h.2

theorem ofText_eq : Lexical.ofText p = ⟨drive p, rooted p, names p, trailing p⟩ := rfl

/-- Backslashes make no difference. -/
theorem ofText_congr (h : unify p = unify q) : Lexical.ofText p = Lexical.ofText q := by
  rw [Lexical.ofText, Lexical.ofText, h]

/-- The spelling behind the drive. -/
def Lexical.plain (l : Lexical) : List Char :=
  (if l.rooted then ['/'] else []) ++ List.intercalate ['/'] l.names ++
    (if l.trailing && !l.names.isEmpty then ['/'] else [])

/-- The cleaned path behind the drive. -/
def plain (p : List Char) : List Char := (Lexical.ofText p).plain

theorem cleanText_eq : cleanText p = drive p ++ plain p := by
  simp [cleanText, plain, Lexical.plain, Lexical.text, ofText_eq]

theorem cleanText_of_no_colon (h : ':' ∉ p) : cleanText p = plain p := by
  rw [cleanText_eq, drive_of_no_colon h, List.nil_append]

/-! ### Names -/

/-- Climbs stand in front of ordinary names, and a rooted path has none. -/
theorem names_shape (p : List Char) : ∃ k ns, names p = List.replicate k up ++ ns ∧
    (∀ s ∈ ns, Ordinary s) ∧ (rooted p = true → k = 0) := by
  have hf : Folded (rooted p) [] := folded_nil
  obtain ⟨ns, k, h, hn, hr⟩ := folded_foldl (segments (rest p)) hf
  exact ⟨k, ns.reverse, by simp [names_eq, h], by simpa using hn, hr⟩

theorem mem_names (h : s ∈ names p) : s ∈ segments (rest p) := by
  rw [names_eq, List.mem_reverse] at h
  simpa using mem_foldl_push h

theorem names_ne (h : s ∈ names p) : s ≠ [] ∧ s ≠ here := by
  obtain ⟨k, ns, he, hn, -⟩ := names_shape p
  rw [he, List.mem_append] at h
  rcases h with h | h
  · rw [List.eq_of_mem_replicate h]
    exact ⟨up_ne_nil, up_ne_here⟩
  · exact ⟨(hn s h).1, (hn s h).2.1⟩

theorem slash_not_mem_names (h : s ∈ names p) : '/' ∉ s := slash_not_mem_segment (mem_names h)

theorem backslash_not_mem_names (h : s ∈ names p) : '\\' ∉ s := fun hc =>
  backslash_not_mem_rest ((mem_iff_mem_segment (by decide)).2 ⟨s, mem_names h, hc⟩)

theorem up_not_mem_names (h : rooted p = true) : up ∉ names p := by
  obtain ⟨k, ns, he, hn, hr⟩ := names_shape p
  obtain rfl := hr h
  rw [he]
  intro hu
  exact (hn up (by simpa using hu)).2.2 rfl

/-- The names lead where the path leads. -/
theorem foldl_names (h : rooted p = true → place = []) :
    (names p).foldl step place = (segments (rest p)).foldl step place :=
  replay_foldl folded_nil h

theorem walk_rest : walk place (rest p) =
    (names p).foldl step (if rooted p then [] else place) := by
  rw [walk, foldl_names (by intro h; simp [h])]
  simp [rooted_eq]

theorem names_eq_of_walk (hr : rooted p = rooted q)
    (h : ∀ place, walk place (rest p) = walk place (rest q)) : names p = names q := by
  obtain ⟨j, ms, hp, hm, hj⟩ := names_shape p
  obtain ⟨k, ns, hq, hn, hk⟩ := names_shape q
  simp only [walk_rest, hp, hq, ← hr] at h
  rw [hp, hq]
  cases hc : rooted p with
  | true =>
    obtain rfl := hj hc
    obtain rfl := hk (hr ▸ hc)
    have h0 : ms = ns := by
      simpa [foldl_step_ordinary hm, foldl_step_ordinary hn, hc] using h []
    rw [h0]
  | false =>
    obtain ⟨rfl, rfl⟩ := eq_of_walks hm hn (by simpa [hc] using h)
    rfl

/-! ### The cleaned text -/

/-- The empty segment in front of a root. -/
def lead (p : List Char) : List Segment := if rooted p then [[]] else []

/-- The empty segment behind a trailing slash, or where no name is. -/
def gap (p : List Char) : List Segment := if trailing p || (names p).isEmpty then [[]] else []

theorem lead_of_rooted (h : rooted p = true) : lead p = [[]] := if_pos h

theorem lead_of_relative (h : rooted p = false) : lead p = [] := by simp [lead, h]

theorem eq_nil_of_mem_lead (h : s ∈ lead p) : s = [] := by
  unfold lead at h
  split at h <;> simp_all

theorem eq_nil_of_mem_gap (h : s ∈ gap p) : s = [] := by
  unfold gap at h
  split at h <;> simp_all

theorem gap_cases (p : List Char) :
    (trailing p = true ∨ names p = []) ∧ gap p = [[]] ∨
      (trailing p = false ∧ names p ≠ []) ∧ gap p = [] := by
  unfold gap
  cases trailing p <;> cases names p <;> simp

@[simp] theorem foldl_step_lead : (lead p).foldl step place = place := by
  unfold lead
  split <;> simp

@[simp] theorem foldl_step_gap : (gap p).foldl step place = place := by
  unfold gap
  split <;> simp

theorem segments_plain : segments (plain p) = lead p ++ names p ++ gap p := by
  unfold plain Lexical.plain lead gap
  rw [ofText_eq]
  simp only
  cases hn : names p with
  | nil => cases rooted p <;> simp [segments_cons]
  | cons n ns =>
    have hs : segments (List.intercalate ['/'] (n :: ns)) = n :: ns :=
      segments_intercalate (fun s h => slash_not_mem_names (p := p) (hn ▸ h)) (by simp)
    generalize List.intercalate ['/'] (n :: ns) = t at hs
    cases rooted p <;> cases trailing p <;>
      simp [segments_slash_cons, segments_append_end, hs]

theorem rooted_plain : (plain p).head? = some '/' ↔ rooted p = true := by
  have hp := segments_plain (p := p)
  constructor
  · intro h
    by_contra hr
    obtain ⟨r, hr'⟩ : ∃ r, plain p = '/' :: r := List.head?_eq_some_iff.1 h
    rw [hr', segments_slash_cons] at hp
    cases hn : names p with
    | nil => simp [lead, gap, hn, hr, segments_ne_nil] at hp
    | cons n ns =>
      simp [lead, hn, hr] at hp
      exact (names_ne (p := p) (s := n) (by simp [hn])).1 hp.1
  · intro h
    simp [plain, Lexical.plain, ofText_eq, h]

theorem foldl_step_segments_plain :
    (segments (plain p)).foldl step place = (names p).foldl step place := by
  rw [segments_plain, List.foldl_append, List.foldl_append, foldl_step_gap, foldl_step_lead]

theorem walk_plain : walk place (plain p) = walk place (rest p) := by
  rw [walk_rest, walk, foldl_step_segments_plain]
  simp only [rooted_plain]

theorem mem_segments_plain (h : s ∈ segments (plain p)) : s = [] ∨ s ∈ names p := by
  rw [segments_plain, List.mem_append, List.mem_append] at h
  rcases h with (h | h) | h
  · exact Or.inl (eq_nil_of_mem_lead h)
  · exact Or.inr h
  · exact Or.inl (eq_nil_of_mem_gap h)

theorem backslash_not_mem_plain : '\\' ∉ plain p := by
  rw [mem_iff_mem_segment (by decide)]
  rintro ⟨s, hs, hc⟩
  rcases mem_segments_plain hs with rfl | hn
  · exact List.not_mem_nil hc
  · exact backslash_not_mem_names hn hc

theorem here_not_mem_plain : here ∉ segments (plain p) := by
  intro h
  rcases mem_segments_plain h with h | h
  · exact here_ne_nil h
  · exact (names_ne h).2 rfl

/-- What is kept of a path is never just the place itself. -/
theorem cleanText_ne_here (p : List Char) : cleanText p ≠ here := by
  intro h
  rw [cleanText_eq] at h
  rcases drive_cases p with hd | ⟨c, -, hd⟩
  · rw [hd, List.nil_append] at h
    apply here_not_mem_plain (p := p)
    rw [h]
    decide
  · rw [hd] at h
    simp [here] at h

/-- Only a root and a trailing slash make empty segments. -/
theorem mem_names_of_inner (h : s ∈ (segments (plain p)).tail.dropLast) : s ∈ names p := by
  have hs : s ∈ (names p ++ gap p).dropLast := by
    rw [segments_plain, lead] at h
    split at h
    · simpa using h
    · rw [List.nil_append, ← List.tail_dropLast] at h
      exact List.mem_of_mem_tail h
  rcases gap_cases p with ⟨-, hg⟩ | ⟨-, hg⟩
  · rwa [hg, List.dropLast_concat] at hs
  · rw [hg, List.append_nil] at hs
    exact List.dropLast_subset _ hs

theorem up_mem_segments_plain : up ∈ segments (plain p) ↔ up ∈ names p := by
  constructor
  · intro h
    exact (mem_segments_plain h).resolve_left up_ne_nil
  · intro h
    rw [segments_plain]
    exact List.mem_append_left _ (List.mem_append_right _ h)

/-- Written in the simplest way: slashes only, no segment that stays, no empty one but before a
root and behind a trailing slash, and no climb after a name. -/
structure Simplest (q : List Char) : Prop where
  unified : '\\' ∉ q
  no_here : here ∉ segments q
  no_gap : [] ∉ (segments q).tail.dropLast
  climbs_first : (segments q).Pairwise fun s t => Ordinary s → t ≠ up

theorem climbs_first_append {climbs ns : List Segment} (hc : ∀ s ∈ climbs, ¬ Ordinary s)
    (hn : up ∉ ns) : (climbs ++ ns).Pairwise fun s t => Ordinary s → t ≠ up := by
  rw [List.pairwise_append]
  refine ⟨List.pairwise_of_forall_mem_list fun s hs t _ ho => absurd ho (hc s hs),
    List.pairwise_of_forall_mem_list fun s _ t ht _ => ?_, fun s hs t _ ho => absurd ho (hc s hs)⟩
  rintro rfl
  exact hn ht

theorem climbs_first_plain : (segments (plain p)).Pairwise fun s t => Ordinary s → t ≠ up := by
  obtain ⟨k, ns, hn, ho, -⟩ := names_shape p
  rw [segments_plain, hn, ← List.append_assoc, List.append_assoc]
  apply climbs_first_append
  · intro s hs
    rcases List.mem_append.1 hs with hs | hs
    · rw [eq_nil_of_mem_lead hs]
      exact not_ordinary_nil
    · rw [List.eq_of_mem_replicate hs]
      exact not_ordinary_up
  · intro hs
    rcases List.mem_append.1 hs with hs | hs
    · exact (ho _ hs).2.2 rfl
    · exact up_ne_nil (eq_nil_of_mem_gap hs)

theorem simplest_plain (p : List Char) : Simplest (plain p) where
  unified := backslash_not_mem_plain
  no_here := here_not_mem_plain
  no_gap h := (names_ne (mem_names_of_inner h)).1 rfl
  climbs_first := climbs_first_plain

theorem trailing_iff (h : names p ≠ []) :
    trailing p = true ↔ (rest p).getLast? = some '/' := by
  simp only [trailing_eq, Bool.and_eq_true, decide_eq_true_eq, beq_iff_eq, and_iff_right_iff_imp]
  intro hl
  by_contra hs
  match hp : rest p with
  | [] => simp [hp] at hl
  | [c] =>
    obtain rfl : c = '/' := by simpa [hp] using hl
    exact h (by simp [names_eq, rooted_eq, hp, segments_cons, push])
  | c :: d :: r => simp [hp] at hs

theorem plain_eq_iff : plain p = plain q ↔ rooted p = rooted q ∧ names p = names q ∧
    (trailing p = trailing q ∨ names p = []) := by
  constructor
  · intro h
    have hr : rooted p = rooted q := by
      rw [Bool.eq_iff_iff, ← rooted_plain, ← rooted_plain, h]
    have hn : names p = names q := by
      refine names_eq_of_walk hr fun place => ?_
      rw [← walk_plain, ← walk_plain, h]
    refine ⟨hr, hn, ?_⟩
    have hs := congrArg segments h
    rw [segments_plain, segments_plain, lead, lead, hr, hn, List.append_cancel_left_eq, gap, gap,
      hn] at hs
    rw [hn]
    cases hq : names q with
    | nil => exact Or.inr rfl
    | cons n ns =>
      left
      rw [hq] at hs
      cases hp : trailing p <;> cases hq : trailing q <;> simp [hp, hq] at hs ⊢
  · rintro ⟨hr, hn, ht⟩
    unfold plain Lexical.plain
    rw [ofText_eq, ofText_eq, hr, hn]
    rcases ht with ht | ht
    · rw [ht]
    · simp [← hn, ht]

/-! ### What is left of the text -/

theorem intercalate_sublist {ss ts : List Segment} (h : ss.Sublist ts) :
    (List.intercalate ['/'] ss).Sublist (List.intercalate ['/'] ts) := by
  induction h with
  | slnil => exact List.Sublist.refl _
  | @cons ss ts t h ih =>
    cases ts with
    | nil => simp [List.sublist_nil.1 h]
    | cons u ts =>
      rw [List.intercalate_cons_cons]
      exact ih.trans (List.sublist_append_right ..)
  | @cons_cons ss ts t h ih =>
    cases ss with
    | nil =>
      cases ts with
      | nil => exact List.Sublist.refl _
      | cons u ts =>
        rw [List.intercalate_singleton, List.intercalate_cons_cons, List.append_assoc]
        exact List.sublist_append_left ..
    | cons s ss =>
      have hs : s ∈ ts := h.subset List.mem_cons_self
      obtain ⟨u, ts, rfl⟩ := List.exists_cons_of_ne_nil (List.ne_nil_of_mem hs)
      rw [List.intercalate_cons_cons, List.intercalate_cons_cons]
      exact ih.append_left _

/-- The names of a path lie in order between its root and its trailing slash. -/
theorem rest_eq (h : names p ≠ []) : ∃ mid, rest p =
    (if rooted p then ['/'] else []) ++ mid ++ (if trailing p then ['/'] else []) ∧
    (names p).Sublist (segments mid) := by
  obtain ⟨y, hy, hn⟩ : ∃ y, rest p = (if rooted p then ['/'] else []) ++ y ∧
      names p = ((segments y).foldl (push (rooted p)) []).reverse := by
    rw [names_eq]
    cases hr : rooted p with
    | false => exact ⟨rest p, rfl, rfl⟩
    | true =>
      obtain ⟨y, hy⟩ := List.head?_eq_some_iff.1 (by simpa [rooted_eq] using hr)
      exact ⟨y, hy, by rw [hy, segments_slash_cons, List.foldl_cons, push_idle (Or.inl rfl)]⟩
  have hs (mid : List Char) : ((segments mid).foldl (push (rooted p)) []).reverse.Sublist
      (segments mid) := foldl_push_sublist _
  cases ht : trailing p with
  | false => exact ⟨y, by simpa using hy, hn ▸ hs y⟩
  | true =>
    have hy0 : y ≠ [] := by
      rintro rfl
      exact h (by simpa [push] using hn)
    have hl : y.getLast? = some '/' := by
      have := (trailing_iff h).1 ht
      rw [hy] at this
      simpa [List.getLast?_append, hy0] using this
    obtain ⟨mid, rfl⟩ := List.getLast?_eq_some_iff.1 hl
    refine ⟨mid, by simpa using hy, ?_⟩
    rw [hn, segments_append_end, List.foldl_append]
    simpa [push] using hs mid

theorem plain_sublist : (plain p).Sublist (rest p) := by
  unfold plain Lexical.plain
  rw [ofText_eq]
  simp only
  by_cases hn : names p = []
  · cases hr : rooted p with
    | false => simp [hn]
    | true =>
      obtain ⟨y, hy⟩ := List.head?_eq_some_iff.1 (by simpa [rooted_eq] using hr)
      simp [hn, hy]
  · obtain ⟨mid, hp, hs⟩ := rest_eq hn
    have hi : (List.intercalate ['/'] (names p)).Sublist mid := by
      simpa [intercalate_segments] using intercalate_sublist hs
    rw [hp]
    have hne : (names p).isEmpty = false := by simpa using hn
    simp only [hne, Bool.not_false, Bool.and_true]
    exact (hi.append_left _).append_right _

/-- Cleaning turns backslashes and then only drops characters. -/
theorem cleanText_sublist (p : List Char) : (cleanText p).Sublist (unify p) := by
  rw [cleanText_eq, ← drive_append_rest]
  exact plain_sublist.append_left _

theorem backslash_not_mem_cleanText : '\\' ∉ cleanText p := fun hc =>
  backslash_not_mem_unify ((cleanText_sublist p).subset hc)

@[simp] theorem toList_clean (p : String) : (clean p).toList = cleanText p.toList := by simp [clean]

theorem clean_inj {p q : String} : clean p = clean q ↔ cleanText p.toList = cleanText q.toList := by
  rw [← String.toList_inj, toList_clean, toList_clean]

/-- Behind an equal drive, cleaned paths differ just where the root, a walk or the trailing slash of
a path with names does. -/
theorem cleanText_eq_iff (hd : drive p = drive q) : cleanText p = cleanText q ↔
    ((rest p).head? = some '/' ↔ (rest q).head? = some '/') ∧
    (∀ place, walk place (rest p) = walk place (rest q)) ∧
    (((rest p).getLast? = some '/' ↔ (rest q).getLast? = some '/') ∨ names p = []) := by
  have hr : ((rest p).head? = some '/' ↔ (rest q).head? = some '/') ↔ rooted p = rooted q := by
    rw [Bool.eq_iff_iff]
    simp [rooted_eq]
  rw [cleanText_eq, cleanText_eq, hd, List.append_cancel_left_eq, plain_eq_iff, hr]
  refine and_congr_right fun hr => ⟨fun ⟨hn, ht⟩ => ?_, fun ⟨hw, ht⟩ => ?_⟩
  · refine ⟨fun place => by rw [walk_rest, walk_rest, hr, hn], ?_⟩
    by_cases he : names p = []
    · exact Or.inr he
    · left
      rw [← trailing_iff he, ← trailing_iff (hn ▸ he), ht.resolve_right he]
  · have hn := names_eq_of_walk hr hw
    refine ⟨hn, ?_⟩
    by_cases he : names p = []
    · exact Or.inr he
    · left
      rw [Bool.eq_iff_iff, trailing_iff he, trailing_iff (hn ▸ he), ht.resolve_right he]

/-- Cleaning computes a simplest spelling that walks as the path does, and it computes the same one
for all paths that have the same drive, root and walks and agree on a trailing slash. -/
theorem clean_canonical :
    (∀ p : String, ∃ q, (clean p).toList = drive p.toList ++ q ∧ Simplest q ∧
      ((rest p.toList).head? = some '/' → up ∉ segments q) ∧
      (q.head? = some '/' ↔ (rest p.toList).head? = some '/') ∧
      ∀ place, walk place q = walk place (rest p.toList)) ∧
    ∀ p q : String, drive p.toList = drive q.toList →
      (clean p = clean q ↔
        ((rest p.toList).head? = some '/' ↔ (rest q.toList).head? = some '/') ∧
        (∀ place, walk place (rest p.toList) = walk place (rest q.toList)) ∧
        (((rest p.toList).getLast? = some '/' ↔ (rest q.toList).getLast? = some '/') ∨
          names p.toList = [])) := by
  have hr (p : List Char) : (rest p).head? = some '/' ↔ rooted p = true := by simp [rooted_eq]
  constructor
  · intro p
    refine ⟨plain p.toList, by rw [toList_clean, cleanText_eq], simplest_plain _, ?_, ?_, ?_⟩
    · rw [hr, up_mem_segments_plain]
      exact up_not_mem_names
    · rw [hr, rooted_plain]
    · exact fun place => walk_plain
  · intro p q hd
    rw [clean_inj, cleanText_eq_iff hd]

theorem clean_canonical_drive :
    drive "C:a\\..\\..\\b/".toList = drive "C:./../b//".toList ∧
      clean "C:a\\..\\..\\b/" = clean "C:./../b//" := by
  have hd : drive "C:a\\..\\..\\b/".toList = drive "C:./../b//".toList := by decide
  refine ⟨hd, (clean_canonical.2 _ _ hd).2 ⟨by decide, fun place => ?_, Or.inl (by decide)⟩⟩
  rfl

end Resources.Path
