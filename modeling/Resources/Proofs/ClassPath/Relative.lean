import Resources.Proofs.ClassPath.Containment
import Resources.Proofs.Path.Composition
import Resources.Proofs.Path.Fixed
import Resources.Proofs.Path.Unclimbed

/-! Relative names on a class path. A relative path is refused just if it climbs, somewhere on its way from
the directory of the name, more than it has gone down. What is left otherwise are the names of its walk. -/
namespace Resources

open Resources.Path

variable {n r : String} {c : Context} {h : ClassPathHandle}

theorem climbsOut_iff : climbsOut n = true ↔ (segments n.toList).head? = some up := by
  constructor
  · intro hc
    rw [climbsOut, Bool.or_eq_true, decide_eq_true_eq, List.isPrefixOf_iff_prefix] at hc
    rcases hc with rfl | ⟨t, ht⟩
    · rfl
    · rw [← ht, show "../".toList ++ t = up ++ '/' :: t from rfl, segments_append_slash]
      rfl
  · intro hhead
    obtain ⟨ss, hs⟩ := List.head?_eq_some_iff.1 hhead
    exact climbsOut_of_segments hs

theorem plainName_not_rooted (n : String) : (plainName n).toList.head? ≠ some '/' := by
  cases hc : climbsOut (plainName n) with
  | false => exact name_not_rooted hc
  | true =>
    intro hr
    obtain ⟨t, ht⟩ := List.head?_eq_some_iff.1 hr
    rw [climbsOut_iff, ht, segments_slash_cons] at hc
    simp [up] at hc

theorem plainName_clean (hn : ':' ∉ n.toList) : plainName (clean n) = plainName n := by
  have hidle : ¬ IdleDrive (cleanText n.toList) := fun hi =>
    hi.1 (drive_of_no_colon (colon_not_mem_cleanText hn))
  have hclean : clean (clean n) = clean n := by
    rw [clean_inj, toList_clean, cleanText_cleanText_iff]
    exact hidle
  rw [plainName, plainName, hclean]

theorem unify_plainName (n : String) : unify (plainName n).toList = (plainName n).toList := by
  apply unify_eq_self
  rw [toList_plainName]
  split
  · exact fun hmem => backslash_not_mem_plain (List.mem_of_mem_tail hmem)
  · exact backslash_not_mem_cleanText

/-- The name of a path that has no drive: without climbs it holds what the walk of the path leads over. -/
theorem segments_plainName_of_walk (hn : ':' ∉ n.toList) (hc : climbsOut (plainName n) = false) :
    segments (plainName n).toList = (walk [] (unify n.toList)).reverse ++
      if walk [] (unify n.toList) = [] ∨ (unify n.toList).getLast? = some '/' then [[]] else [] := by
  have hs := segments_plainName_of_no_drive (drive_of_no_colon hn)
  have hno : up ∉ names n.toList := by
    rw [← head?_names_append_gap, ← hs, ← climbsOut_iff, hc]
    exact Bool.false_ne_true
  have hnames := names_of_no_climb hno
  rw [rest_of_no_colon hn] at hnames
  rw [hs, gap_of_end, hnames, rest_of_no_colon hn]
  simp

theorem climbsOut_plainName_iff (hn : ':' ∉ n.toList) : climbsOut (plainName n) = true ↔
    (unify n.toList).head? ≠ some '/' ∧ Overclimbs (segments (unify n.toList)) := by
  rw [climbsOut_iff, segments_plainName_of_no_drive (drive_of_no_colon hn), head?_names_append_gap,
    up_mem_names_iff, rooted_eq, rest_of_no_colon hn]
  simp

/-! ### Relative names -/

namespace ClassPathHandle

/-- What a relative path is read as: the directory of the name and then the path, or a rooted path
alone. -/
def way (h : ClassPathHandle) (r : String) : List Char :=
  if (unify r.toList).head? = some '/' then unify r.toList
  else directory h.name.toList ++ unify r.toList

theorem composed_eq_way (hh : Reachable n c h) : composed h.name.toList r.toList = h.way r := by
  obtain ⟨⟨m, hm⟩, -⟩ := plain_reachable hh
  rw [composed, way, hm, unify_plainName]

theorem head?_way (hh : Reachable n c h) :
    (h.way r).head? = some '/' ↔ (unify r.toList).head? = some '/' := by
  obtain ⟨⟨m, hm⟩, -⟩ := plain_reachable hh
  unfold way
  by_cases hr : (unify r.toList).head? = some '/'
  · rw [if_pos hr]
  · rw [if_neg hr, head?_directory_append hr, hm]
    exact iff_of_false (plainName_not_rooted m) hr

theorem getLast?_way (hne : r ≠ "") : (h.way r).getLast? = (unify r.toList).getLast? := by
  have hu : unify r.toList ≠ [] := by simpa [unify] using hne
  unfold way
  split
  · rfl
  · exact List.getLast?_append_of_ne_nil _ hu

theorem unify_way (hh : Reachable n c h) : unify (h.way r) = h.way r := by
  rw [← composed_eq_way hh, unify_composed]

theorem colon_not_mem_way (hh : Reachable n c h) (hn : ':' ∉ h.name.toList) (hr : ':' ∉ r.toList) :
    ':' ∉ h.way r := by
  rw [← composed_eq_way hh]
  exact colon_not_mem_composed hn hr

theorem relative_eq (hh : Reachable n c h) (hn : ':' ∉ h.name.toList) (hr : ':' ∉ r.toList)
    (hne : r ≠ "") : h.relative r =
      if climbsOut (plainName (.ofList (h.way r))) then
        .error (.resolution h.description s!"'{r}' escapes the class path root")
      else .ok ⟨plainName (.ofList (h.way r)), h.context⟩ := by
  have hnil : r.toList ≠ [] := by simpa using hne
  have hway := colon_not_mem_way hh hn hr
  have hclean : plainName (.ofList (cleanText (h.way r))) = plainName (.ofList (h.way r)) := by
    have hplain := plainName_clean (n := .ofList (h.way r)) (by simpa using hway)
    rwa [clean, String.toList_ofList] at hplain
  rw [relative, Path.relative, relativeText_eq hnil, composed_eq_way hh, Option.map_some]
  simp only [hclean]

theorem climbsOut_way_iff (hh : Reachable n c h) (hn : ':' ∉ h.name.toList) (hr : ':' ∉ r.toList) :
    climbsOut (plainName (.ofList (h.way r))) = true ↔ (unify r.toList).head? ≠ some '/' ∧
      Overclimbs (segments (directory h.name.toList ++ unify r.toList)) := by
  have hway := colon_not_mem_way hh hn hr
  rw [climbsOut_plainName_iff (by simpa using hway), String.toList_ofList, unify_way hh, Ne,
    head?_way hh]
  refine and_congr_right fun hrooted => ?_
  rw [way, if_neg hrooted]

/-- What is left of a walk, and what stands behind it when it ends in a slash or where it began. -/
theorem no_dots_of_walk {q p : List Char} {g : List Segment} (hg : g = [] ∨ g = [[]])
    (hs : segments q = (walk [] p).reverse ++ g) :
    (∀ s ∈ segments q, s ≠ here ∧ s ≠ up) ∧ [] ∉ (segments q).dropLast := by
  have ho : ∀ s ∈ (walk [] p).reverse, Ordinary s := fun s hm =>
    ordinary_of_mem_walk (List.mem_reverse.1 hm)
  rw [hs]
  rcases hg with rfl | rfl
  · rw [List.append_nil]
    exact ⟨fun s hm => (ho s hm).2, fun hm => (ho [] (List.dropLast_subset _ hm)).1 rfl⟩
  · rw [List.dropLast_concat]
    refine ⟨fun s hm => ?_, fun hm => (ho [] hm).1 rfl⟩
    rcases List.mem_append.1 hm with hm | hm
    · exact (ho s hm).2
    · rw [List.mem_singleton.1 hm]
      exact ⟨here_ne_nil.symm, up_ne_nil.symm⟩

/-- A relative path is refused just if there is none, or if it climbs out on its way. What it leads to
otherwise is a name in the same context, and that holds what the walk from the root leads over. -/
theorem relative_refused_iff (hh : Reachable n c h) (hn : ':' ∉ h.name.toList)
    (hr : ':' ∉ r.toList) :
    ((∃ f, h.relative r = .error f) ↔ r = "" ∨ (unify r.toList).head? ≠ some '/' ∧
      Overclimbs (segments (directory h.name.toList ++ unify r.toList))) ∧
    (∀ f, h.relative r = .error f → ∃ reason, f = .resolution h.description reason) ∧
    ∀ h', h.relative r = .ok h' → h'.context = h.context ∧ h'.name.toList.head? ≠ some '/' ∧
      (∀ s ∈ segments h'.name.toList, s ≠ here ∧ s ≠ up) ∧ [] ∉ (segments h'.name.toList).dropLast ∧
      segments h'.name.toList = (walk [] (h.way r)).reverse ++
        if walk [] (h.way r) = [] ∨ (unify r.toList).getLast? = some '/' then [[]] else [] := by
  by_cases hne : r = ""
  · have hrel : h.relative r = .error (.resolution h.description "empty relative path") := by
      rw [hne]
      rfl
    rw [hrel]
    simp [hne]
  have hrel := relative_eq hh hn hr hne
  have hiff := climbsOut_way_iff hh hn hr
  cases hc : climbsOut (plainName (.ofList (h.way r))) with
  | true =>
    rw [hc, if_pos rfl] at hrel
    rw [hrel]
    simpa [hne] using hiff.1 hc
  | false =>
    rw [hc, if_neg Bool.false_ne_true] at hrel
    have hno := hiff.not.1 (by simp [hc])
    have hs := segments_plainName_of_walk
      (n := .ofList (h.way r)) (by simpa using colon_not_mem_way hh hn hr) hc
    rw [String.toList_ofList, unify_way hh, getLast?_way hne] at hs
    have hroot := plainName_not_rooted (.ofList (h.way r))
    have hshape := no_dots_of_walk (by split <;> simp) hs
    generalize plainName (.ofList (h.way r)) = name at hrel hs hroot hshape
    refine ⟨by simp [hrel, hne, hno], by simp [hrel], fun h' ho => ?_⟩
    obtain rfl := Except.ok.inj (hrel.symm.trans ho)
    exact ⟨rfl, hroot, hshape.1, hshape.2, hs⟩

/-- One path too many climbs, and one that comes back in time. -/
theorem relative_refused_iff_docs :
    (∃ f, (⟨"docs/a.txt", rootContext⟩ : ClassPathHandle).relative "..\\../docs/b.txt" = .error f) ∧
    (⟨"docs/a.txt", rootContext⟩ : ClassPathHandle).relative "..\\pages/./b//" =
      .ok ⟨"pages/b/", rootContext⟩ ∧
    segments "pages/b/".toList = [['p', 'a', 'g', 'e', 's'], ['b'], []] ∧
    walk [] (way ⟨"docs/a.txt", rootContext⟩ "..\\pages/./b//") = [['b'], ['p', 'a', 'g', 'e', 's']] := by
  have hh : Reachable "/docs//a.txt" rootContext ⟨"docs/a.txt", rootContext⟩ := .named
  have hn : ':' ∉ (⟨"docs/a.txt", rootContext⟩ : ClassPathHandle).name.toList := by decide
  have hrel : (⟨"docs/a.txt", rootContext⟩ : ClassPathHandle).relative "..\\pages/./b//" =
      .ok ⟨"pages/b/", rootContext⟩ := rfl
  have hwalk : walk [] (way ⟨"docs/a.txt", rootContext⟩ "..\\pages/./b//") =
      [['b'], ['p', 'a', 'g', 'e', 's']] := by decide
  obtain ⟨hrefused, -⟩ := relative_refused_iff (r := "..\\../docs/b.txt") hh hn (by decide)
  obtain ⟨-, -, hok⟩ := relative_refused_iff (r := "..\\pages/./b//") hh hn (by decide)
  obtain ⟨-, -, -, -, hs⟩ := hok _ hrel
  refine ⟨hrefused.2 (Or.inr ⟨by decide, by decide⟩), hrel, ?_, hwalk⟩
  rw [hwalk] at hs
  exact hs

end ClassPathHandle

end Resources
