import Resources.Proofs.Disk.Tree
import Resources.Proofs.Path.Names

/-! Folding the climbs of a rooted path into its names does not change what is found there. -/
namespace Resources.Disk

open FilePath (here up slash onto foldedNames ofNames)

variable {d : Disk} {l l' : Location} {name : Bytes} {names : List Bytes} {p : FilePath} {n : Node}

theorem enter_onto (h : d.enter l name = .ok l') :
    l' = if name ≠ [] ∧ name ≠ here then onto l name else l := by
  obtain ⟨-, ⟨hi, rfl⟩ | ⟨rfl, rfl⟩ | ⟨ho, -, -, rfl⟩⟩ := enter_eq_ok.1 h
  · rw [if_neg (by tauto)]
  · rw [if_pos ⟨FilePath.up_ne_nil, FilePath.up_ne_here⟩, FilePath.onto_up]
  · rw [if_pos ⟨ho.1, ho.2.1⟩, FilePath.onto_ne ho.2.2]

/-- A walk that goes on to its end folds its names. -/
theorem follow_onto (h : d.follow l names = .ok l') :
    l' = (names.filter fun s => s ≠ [] && s ≠ here).foldl onto l := by
  induction names generalizing l with
  | nil => simpa using h.symm
  | cons name names ih =>
    obtain ⟨m, hm, h⟩ := follow_cons.1 h
    rw [ih h, enter_onto hm]
    by_cases hk : name ≠ [] ∧ name ≠ here
    · rw [if_pos hk, List.filter_cons_of_pos (by simpa using hk), List.foldl_cons]
    · rw [if_neg hk, List.filter_cons_of_neg (by simpa using hk)]

/-- Names that were walked over are short enough. -/
theorem fits_of_follow (h : d.follow l names = .ok l') (hl : ∀ name ∈ l, name.length ≤ nameLimit) :
    ∀ name ∈ l', name.length ≤ nameLimit := by
  induction names generalizing l with
  | nil =>
    obtain rfl : l = l' := by simpa using h
    exact hl
  | cons name names ih =>
    obtain ⟨m, hm, h⟩ := follow_cons.1 h
    apply ih h
    obtain ⟨-, ⟨-, rfl⟩ | ⟨-, rfl⟩ | ⟨-, hfit, -, rfl⟩⟩ := enter_eq_ok.1 hm
    · exact hl
    · exact fun name hname => hl name (List.mem_of_mem_tail hname)
    · intro name hname
      rcases List.mem_cons.1 hname with rfl | hname
      · exact hfit
      · exact hl name hname

theorem find_root : d.find ⟨[slash]⟩ = .ok .directory := by
  refine find_eq_ok.2 ⟨[], resolve_eq_ok.2 ⟨by decide, by simp, by decide, ?_⟩, rfl⟩
  rfl

/-- What is found at a rooted path is found by its folded names. -/
theorem find_folded (hr : p.isRooted = true) (hf : d.find p = .ok n) :
    d.find (ofNames (foldedNames p.names)) = .ok n := by
  obtain ⟨l, hl, hn⟩ := find_eq_ok.1 hf
  obtain ⟨hnul, -, hlen, hfollow⟩ := resolve_eq_ok.1 hl
  obtain ⟨ss, hs, hnames⟩ := FilePath.segments_of_isRooted hr
  have hstart : ∀ q : FilePath, q.isRooted = true → d.start q = [] := fun q hq => if_pos hq
  rw [hstart p hr] at hfollow
  have hfits := fits_of_follow hfollow (by simp)
  have hfold := follow_onto hfollow
  rw [hs, List.filter_cons_of_neg (by simp), ← hnames] at hfold
  have hfolded : foldedNames p.names = l.reverse := by rw [foldedNames, ← hfold]
  have hfile : ∀ name ∈ l.reverse, FileName name := by
    intro name hname
    obtain ⟨hmem, hup⟩ := FilePath.mem_foldedNames (hfolded.symm ▸ hname)
    obtain ⟨hne, hhere, hslash⟩ := FilePath.names_of_isRooted hr name hmem
    have hsegment : name ∈ p.segments := by
      rw [hnames] at hmem
      exact hs ▸ List.mem_cons_of_mem _ (List.mem_filter.1 hmem).1
    constructor
    · exact hne
    · exact hhere
    · exact hup
    · exact hslash
    · exact FilePath.nul_not_mem_segment hsegment hnul
    · exact hfits name (List.mem_reverse.1 hname)
  by_cases hnil : l = []
  · subst hnil
    obtain rfl : n = .directory := (Option.some.inj hn).symm
    rw [hfolded]
    exact find_root
  · have hne : l.reverse ≠ [] := by simpa using hnil
    rw [hfolded]
    refine find_eq_ok.2 ⟨l, resolve_eq_ok.2 ⟨?_, ?_, ?_, ?_⟩, hn⟩
    · rw [FilePath.mem_ofNames (by decide)]
      rintro ⟨name, hname, hm⟩
      exact (hfile name hname).no_nul hm
    · exact FilePath.ofNames_ne_nil
    · exact (FilePath.length_ofNames_le hr (hfolded ▸ FilePath.foldedNames_sublist _)).trans_lt hlen
    · rw [hstart _ FilePath.isRooted_ofNames,
        FilePath.segments_ofNames hne fun name hname => (hfile name hname).no_slash]
      refine follow_cons.2 ⟨[], rfl, ?_⟩
      have hnode : d.node? (l.reverse.reverse ++ []) ≠ none := by simp [hn]
      simpa using follow_of_node? hfile hnode

theorem directory_tail (h : d.node? l = some .directory) : d.node? l.tail = some .directory := by
  cases l with
  | nil => exact h
  | cons name l =>
    have hbelow : d.node? ([name] ++ l) ≠ none := by simp [h]
    exact directory_of_below hbelow (by simp)

/-- A walk whose last name is a climb ends at a directory. -/
theorem directory_of_climb (h : d.follow l names = .ok l')
    (hlast : (names.filter fun s => s ≠ [] && s ≠ here).getLast? = some up) :
    d.node? l' = some .directory := by
  induction names generalizing l with
  | nil => simp at hlast
  | cons name names ih =>
    obtain ⟨m, hm, h⟩ := follow_cons.1 h
    by_cases hnil : (names.filter fun s => s ≠ [] && s ≠ here) = []
    · have hl' := follow_onto h
      rw [hnil, List.foldl_nil] at hl'
      have hup : name = up := by
        by_cases hk : name ≠ [] ∧ name ≠ here
        · rw [List.filter_cons_of_pos (by simpa using hk), hnil] at hlast
          simpa using hlast
        · rw [List.filter_cons_of_neg (by simpa using hk), hnil] at hlast
          simp at hlast
      rw [hup] at hm
      rw [hl', enter_up hm]
      exact directory_tail (enter_eq_ok.1 hm).1
    · apply ih h
      by_cases hk : name ≠ [] ∧ name ≠ here
      · rwa [List.filter_cons_of_pos (by simpa using hk), List.getLast?_cons_of_ne_nil hnil] at hlast
      · rwa [List.filter_cons_of_neg (by simpa using hk)] at hlast

theorem directory_of_last_up (hr : p.isRooted = true) (hf : d.find p = .ok n)
    (hlast : p.names.getLast? = some up) : n = .directory := by
  obtain ⟨l, hl, hn⟩ := find_eq_ok.1 hf
  obtain ⟨-, -, -, hfollow⟩ := resolve_eq_ok.1 hl
  obtain ⟨ss, hs, hnames⟩ := FilePath.segments_of_isRooted hr
  have hdir : d.node? l = some .directory := by
    apply directory_of_climb hfollow
    rw [hs, List.filter_cons_of_neg (by simp), ← hnames, hlast]
  exact Option.some.inj (hn.symm.trans hdir)

end Resources.Disk
