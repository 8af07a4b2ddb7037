import Mathlib.Data.List.Induction
import Resources.Proofs.ClassPath.FirstRoot
import Resources.Proofs.ClassPath.Names
import Resources.Proofs.Path.Fixed

/-! Bundles and the names that they list. Names are brought to their plain form when content is
added and again when it is asked for, and it is found as long as that makes no difference. -/
namespace Resources

open Resources.Path

variable {p : List Char} {m n : String}

/-! ### Plain names -/

theorem plainName_eq_self_iff : plainName m = m ↔
    cleanText m.toList = m.toList ∧ ¬ (drive m.toList = [] ∧ rooted m.toList = true) := by
  rw [← String.toList_inj, toList_plainName]
  by_cases h : drive m.toList = [] ∧ rooted m.toList = true
  · rw [if_pos h]
    refine iff_of_false (fun htail => ?_) fun hc => hc.2 h
    have hlen : (plain m.toList).length ≤ (rest m.toList).length := plain_sublist.length_le
    have hsplit := congrArg List.length (drive_append_rest (p := m.toList))
    have htail := congrArg List.length htail
    obtain ⟨r, hr⟩ := List.head?_eq_some_iff.1 (rooted_plain.2 h.2)
    simp [unify] at hsplit
    simp [hr] at htail hlen
    omega
  · rw [if_neg h, and_iff_left h]

/-- Behind the slash of a rooted path, which is simplest, stands a simplest path. -/
theorem simplest_tail (hr : rooted p = true) :
    Simplest (plain p).tail ∧ (plain p).tail.head? ≠ some '/' := by
  have hs := segments_tail_plain hr
  have hplain : segments (plain p) = [] :: segments (plain p).tail := by
    rw [segments_plain, lead_of_rooted hr, hs]
    simp
  have hp := simplest_plain p
  refine ⟨⟨fun hc => hp.unified (List.mem_of_mem_tail hc), fun hh => ?_, fun hg => ?_, ?_⟩, ?_⟩
  · exact hp.no_here (hplain ▸ List.mem_cons_of_mem _ hh)
  · have hgap := hp.no_gap
    rw [hplain, List.tail_cons] at hgap
    rw [← List.tail_dropLast] at hg
    exact hgap (List.mem_of_mem_tail hg)
  · have hc := hp.climbs_first
    rw [hplain, List.pairwise_cons] at hc
    exact hc.2
  · intro hh
    obtain ⟨r, hr'⟩ := List.head?_eq_some_iff.1 hh
    rw [hr', segments_slash_cons] at hs
    cases hn : names p with
    | nil => simp [hn, gap, segments_ne_nil] at hs
    | cons s ss =>
      rw [hn, List.cons_append] at hs
      exact (names_ne (hn ▸ List.mem_cons_self)).1 (List.cons.inj hs).1.symm

/-- A name that is plain stays as it is, unless it has a drive and a `.` behind it. -/
theorem plainName_plainName_iff :
    plainName (plainName n) = plainName n ↔ ¬ IdleDrive (plainName n).toList := by
  rw [plainName_eq_self_iff]
  have ht := toList_plainName n
  by_cases h : drive n.toList = [] ∧ rooted n.toList = true
  · rw [if_pos h] at ht
    obtain ⟨hs, hroot⟩ := simplest_tail h.2
    rw [ht, cleanText_of_simplest hs fun hh => absurd hh hroot, and_iff_left]
    rintro ⟨hd, hr⟩
    exact hroot ((rooted_of_no_drive hd hs.unified).1 hr)
  · rw [if_neg h] at ht
    rw [ht, cleanText_cleanText_iff, and_iff_left]
    rintro ⟨hd, hr⟩
    by_cases hdn : drive n.toList = []
    · rw [rooted_of_no_drive hd backslash_not_mem_cleanText, cleanText_eq, hdn, List.nil_append,
        rooted_plain] at hr
      exact h ⟨hdn, hr⟩
    · exact hdn ((drive_cleanText hdn).1.symm.trans hd)

/-! ### Bundles -/

namespace Bundle

variable {b : Bundle} {name : String} {data : Bytes}

/-- All names in the bundle are plain. -/
def Plain (b : Bundle) : Prop := ∀ e ∈ b.entries, ∃ m, e.1 = plainName m

theorem mem_insert {e : String × Bytes} (he : e ∈ (b.insert name data).entries) :
    e.1 = plainName name ∨ e ∈ b.entries := by
  obtain ⟨listed, content⟩ := e
  unfold insert at he
  rw [List.mem_cons, Prod.mk.injEq] at he
  exact he.imp And.left fun he => (List.mem_filter.1 he).1

theorem plain_insert (hb : b.Plain) : (b.insert name data).Plain := by
  intro e he
  rcases mem_insert he with he | he
  · exact ⟨name, he⟩
  · exact hb e he

theorem plain_ofList (label : String) (entries : List (String × Bytes)) :
    (ofList label entries).Plain := by
  have hfold : ∀ b : Bundle, b.Plain → (entries.foldl (fun b e => b.insert e.1 e.2) b).Plain := by
    induction entries with
    | nil => exact fun b hb => hb
    | cons e entries ih => exact fun b hb => ih _ (plain_insert hb)
  exact hfold (empty label) (by simp [Plain, empty])

theorem mem_names : name ∈ b.names ↔ (b.get? name).isSome = true := by
  simp [names, get?, List.lookup_isSome_iff]

theorem lookup_filter_ne (entries : List (String × Bytes)) (h : n ≠ name) :
    (entries.filter (·.1 ≠ n)).lookup name = entries.lookup name := by
  induction entries with
  | nil => rfl
  | cons e entries ih =>
    obtain ⟨listed, data⟩ := e
    by_cases hl : listed = n
    · have hne : (name == listed) = false := by
        rw [beq_eq_false_iff_ne]
        rintro rfl
        exact h hl.symm
      simp only [hl, ne_eq, not_true_eq_false, decide_false, Bool.false_eq_true, not_false_eq_true,
        List.filter_cons_of_neg, List.lookup_cons, ih]
      rw [← hl, hne]
    · simp only [ne_eq, hl, not_false_eq_true, decide_true, List.filter_cons_of_pos,
        List.lookup_cons, ih]

theorem get?_insert (bundle : Bundle) (data : Bytes) :
    (bundle.insert n data).get? name = if plainName n = name then some data else bundle.get? name := by
  unfold insert get?
  simp only [List.lookup_cons]
  by_cases h : plainName n = name
  · simp [h]
  · have hne : (name == plainName n) = false := beq_eq_false_iff_ne.2 (Ne.symm h)
    rw [hne, if_neg h]
    exact lookup_filter_ne bundle.entries h

/-- The content that was added last under a name is found. -/
theorem get?_ofList (label : String) (entries : List (String × Bytes)) :
    (ofList label entries).get? name =
      (entries.reverse.find? fun e => plainName e.1 = name).map (·.2) := by
  induction entries using List.reverseRecOn with
  | nil => rfl
  | append_singleton entries e ih =>
    have hinsert : ofList label (entries ++ [e]) = (ofList label entries).insert e.1 e.2 := by
      simp [ofList]
    rw [hinsert, get?_insert, ih, List.reverse_concat, List.find?_cons]
    by_cases h : plainName e.1 = name <;> simp [h]

/-- Every listed name is plain. -/
theorem plain_of_mem_names (hb : b.Plain) (hn : name ∈ b.names) : ∃ m, name = plainName m := by
  obtain ⟨e, he, rfl⟩ := List.mem_map.1 (List.mem_mergeSort.1 hn)
  exact hb e he

end Bundle

theorem plainName_listed_iff {b : Bundle} {name : String} (hb : b.Plain) (hn : name ∈ b.names) :
    plainName name = name ↔ ¬ IdleDrive name.toList := by
  obtain ⟨m, hm⟩ := Bundle.plain_of_mem_names hb hn
  rw [hm]
  exact plainName_plainName_iff

/-- A listed name is looked up under itself, unless it has a drive and a `.` behind it. -/
theorem lookup_listed {b : Bundle} {name : String} {data : Bytes} {d : Disk} {c : Context}
    {before after : List Root} (hb : b.Plain) (hn : b.get? name = some data)
    (hc : climbsOut name = false) (hi : ¬ IdleDrive name.toList)
    (hroots : c.classPath.roots = before ++ .bundle b :: after)
    (hbefore : ∀ r ∈ before, r.holds d name = false) :
    (ClassPathHandle.of name c).lookup d = some (.bundled data) := by
  have hholds : Root.holds d name (.bundle b) = true := by rw [Root.holds, hn, Option.isSome_some]
  have hname : plainName name = name := (plainName_listed_iff hb (Bundle.mem_names.2 hholds)).2 hi
  have hfirst : c.classPath.firstRoot? d name = some (.bundle b) := by
    have hnone : before.find? (Root.holds d name) = none := by
      simpa [List.find?_eq_none] using hbefore
    simp [ClassPath.firstRoot?, hc, hroots, hnone, hholds]
  obtain ⟨data', hd, hl⟩ := ClassPath.lookup_of_bundle hfirst
  obtain rfl : data = data' := Option.some.inj (hn.symm.trans hd)
  rw [ClassPathHandle.lookup_of, hname, hl]

end Resources
