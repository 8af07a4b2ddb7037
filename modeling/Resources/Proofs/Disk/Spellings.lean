import Resources.Proofs.Disk.Nodes
import Resources.Proofs.Path.Spellings

/-! What spellings of one path lead to. It is the same where they end alike and none is too long. A
directory is found by any spelling that is not too long. -/
namespace Resources.Disk

open FilePath (EndsOpen moves)

variable {d : Disk} {l l' : Location} {name : Bytes} {ss ss' : List Bytes} {p q : FilePath}

/-! ### Walks -/

theorem follow_cons_eq (name : Bytes) (ss : List Bytes) :
    d.follow l (name :: ss) = (d.enter l name).bind fun m => d.follow m ss := by
  unfold follow
  rw [List.foldlM_cons]
  rfl

/-- What no walk can start from stops it whatever the name is. -/
theorem follow_of_not_directory (h : d.node? l ≠ some .directory) :
    ∃ f, ∀ ss, ss ≠ [] → d.follow l ss = .error f := by
  have henter : ∃ f, ∀ name, d.enter l name = .error f := by
    unfold enter
    cases hn : d.node? l with
    | none => exact ⟨.absent, fun _ => rfl⟩
    | some n =>
      cases n with
      | directory => exact absurd hn h
      | file k => exact ⟨.throughFile, fun _ => rfl⟩
  obtain ⟨f, hf⟩ := henter
  refine ⟨f, fun ss hne => ?_⟩
  obtain ⟨name, ss, rfl⟩ := List.exists_cons_of_ne_nil hne
  rw [follow_cons_eq, hf]
  rfl

/-- An empty segment, if the last of the segments leads nowhere. -/
def openEnd (ss : List Bytes) : List Bytes :=
  if ss.getLast?.any fun name => !moves name then [[]] else []

theorem openEnd_cons (hne : ss ≠ []) : openEnd (name :: ss) = openEnd ss := by
  rw [openEnd, List.getLast?_cons_of_ne_nil hne, openEnd]

theorem openEnd_singleton : openEnd [name] = if moves name then [] else [[]] := by
  cases hn : moves name <;> simp [openEnd, hn]

theorem openEnd_eq_iff (hne : ss ≠ []) (hne' : ss' ≠ []) :
    openEnd ss = openEnd ss' ↔ ((∃ name, ss.getLast? = some name ∧ moves name = false) ↔
      ∃ name, ss'.getLast? = some name ∧ moves name = false) := by
  obtain ⟨init, last, rfl⟩ := (List.eq_nil_or_concat' ss).resolve_left hne
  obtain ⟨init', last', rfl⟩ := (List.eq_nil_or_concat' ss').resolve_left hne'
  cases hn : moves last <;> cases hn' : moves last' <;> simp [openEnd, hn, hn']

theorem filter_append_openEnd (hne : ss ≠ []) : ss.filter moves ++ openEnd ss ≠ [] := by
  obtain ⟨init, last, rfl⟩ := (List.eq_nil_or_concat' ss).resolve_left hne
  cases hn : moves last <;> simp [openEnd, hn]

/-- Segments that lead nowhere can be left out of a walk, but at its end. -/
theorem follow_filter (ss : List Bytes) :
    d.follow l ss = d.follow l (ss.filter moves ++ openEnd ss) := by
  -- An idle segment still asks for a directory. The next segment asks for one too, so only an idle
  -- segment at the end has to be kept, as an empty one.
  induction ss generalizing l with
  | nil => rfl
  | cons name ss ih =>
    cases hn : moves name with
    | true =>
      have hend : openEnd (name :: ss) = openEnd ss := by
        by_cases hne : ss = []
        · rw [hne, openEnd_singleton, hn]
          rfl
        · exact openEnd_cons hne
      rw [List.filter_cons_of_pos hn, hend, List.cons_append, follow_cons_eq, follow_cons_eq]
      simp only [← ih]
    | false =>
      rw [List.filter_cons_of_neg (Bool.eq_false_iff.1 hn)]
      by_cases hl : d.node? l = some .directory
      · have hstay : ∀ ss, d.follow l (name :: ss) = d.follow l ss := by
          intro ss
          rw [follow_cons_eq, enter_idle hl (FilePath.moves_eq_false.1 hn)]
          rfl
        by_cases hne : ss = []
        · subst hne
          have hroot : d.follow l [[]] = .ok l := follow_singleton.2 (enter_idle hl (Or.inl rfl))
          rw [hstay, openEnd_singleton, hn]
          exact hroot.symm
        · rw [hstay, ih, openEnd_cons hne]
      · obtain ⟨f, hf⟩ := follow_of_not_directory hl
        rw [hf _ (List.cons_ne_nil _ _)]
        by_cases hne : ss = []
        · subst hne
          rw [openEnd_singleton, hn]
          exact (hf _ (by simp)).symm
        · rw [openEnd_cons hne, hf _ (filter_append_openEnd hne)]

/-! ### What is found -/

theorem nul_mem_iff {first : Bytes} (hs : p.segments = first :: ss) :
    0 ∈ p.bytes ↔ 0 ∈ first ∨ ∃ name ∈ ss.filter moves, 0 ∈ name := by
  have hbytes : 0 ∈ p.bytes ↔ ∃ name ∈ p.segments, 0 ∈ name :=
    Path.mem_iff_mem_splitOn (by decide)
  have hidle : ∀ name, 0 ∈ name → moves name = true := by
    intro name hmem
    rw [← Bool.not_eq_false]
    intro hidle
    rcases FilePath.moves_eq_false.1 hidle with rfl | rfl
    · simp at hmem
    · exact absurd hmem (by decide)
  rw [hbytes, hs]
  simp only [List.mem_cons, List.mem_filter, exists_eq_or_imp]
  apply or_congr_right
  constructor
  · rintro ⟨name, hname, hmem⟩
    exact ⟨name, ⟨hname, hidle name hmem⟩, hmem⟩
  · rintro ⟨name, ⟨hname, -⟩, hmem⟩
    exact ⟨name, hname, hmem⟩

theorem bytes_eq_nil_iff {first : Bytes} (hs : p.segments = first :: ss) :
    p.bytes = [] ↔ first = [] ∧ ss = [] := by
  constructor
  · intro hb
    have hnil : p.segments = [[]] := by rw [FilePath.segments, hb]; rfl
    rw [hs] at hnil
    simpa using hnil
  · rintro ⟨rfl, rfl⟩
    have hb : p.bytes = List.intercalate [FilePath.slash] p.segments := by simp [FilePath.segments]
    rw [hb, hs]
    rfl

theorem start_congr (h : p.Same q) : d.start p = d.start q := by
  rw [start, start, h.1]

theorem find_congr (h : p.Same q) (hopen : p.EndsOpen ↔ q.EndsOpen) (hp : p.bytes ≠ FilePath.here)
    (hq : q.bytes ≠ FilePath.here)
    (hlen : p.bytes.length < pathLimit ↔ q.bytes.length < pathLimit) : d.find p = d.find q := by
  rcases h.tails hopen hp hq with rfl | ⟨first, ss, ss', hs, hs', hne, hne', hmoves⟩
  · rfl
  have hend : openEnd ss = openEnd ss' := by
    rw [openEnd_eq_iff hne hne', ← FilePath.endsOpen_iff hs hne, ← FilePath.endsOpen_iff hs' hne']
    exact hopen
  have hnul : 0 ∈ p.bytes ↔ 0 ∈ q.bytes := by rw [nul_mem_iff hs, nul_mem_iff hs', hmoves]
  have hempty : p.bytes = [] ↔ q.bytes = [] := by
    rw [bytes_eq_nil_iff hs, bytes_eq_nil_iff hs']
    tauto
  have hlong : pathLimit ≤ p.bytes.length ↔ pathLimit ≤ q.bytes.length := by
    rw [← Nat.not_lt, ← Nat.not_lt, hlen]
  have hwalk : d.follow (d.start p) p.segments = d.follow (d.start q) q.segments := by
    rw [start_congr h, hs, hs', follow_cons_eq, follow_cons_eq]
    simp only [follow_filter ss, follow_filter ss', hmoves, hend]
  have hresolve : d.resolve p = d.resolve q := by
    unfold follow at hwalk
    unfold resolve
    simp only [hnul, hempty, hlong, hwalk]
  rw [find, find, hresolve]

/-- A walk to a directory goes on over an empty segment, and does not need one. -/
theorem follow_openEnd (hl : d.node? l' = some .directory) :
    d.follow l ss = .ok l' ↔ d.follow l (ss.filter moves) = .ok l' := by
  rw [follow_filter, follow_append]
  have hstay : ∀ m, d.follow m (openEnd ss) = .ok l' → m = l' := by
    intro m hm
    unfold openEnd at hm
    split at hm
    · obtain ⟨hdir, -⟩ := enter_eq_ok.1 (follow_singleton.1 hm)
      exact Except.ok.inj ((enter_idle hdir (Or.inl rfl)).symm.trans (follow_singleton.1 hm))
    · simpa using hm
  constructor
  · rintro ⟨m, hm, hend⟩
    rwa [hstay m hend] at hm
  · intro h
    refine ⟨l', h, ?_⟩
    unfold openEnd
    split
    · exact follow_singleton.2 (enter_idle hl (Or.inl rfl))
    · rfl

/-- A path that ends in a segment that leads nowhere leads to a directory if anywhere. -/
theorem directory_of_endsOpen {n : Node} (hopen : p.EndsOpen) (hf : d.find p = .ok n) :
    n = .directory := by
  obtain ⟨name, hlast, hidle⟩ := hopen
  obtain ⟨init, hs⟩ := List.getLast?_eq_some_iff.1 hlast
  obtain ⟨l, hl, hn⟩ := find_eq_ok.1 hf
  have hwalk := (resolve_eq_ok.1 hl).2.2.2
  rw [hs, follow_append] at hwalk
  obtain ⟨m, -, hlast⟩ := hwalk
  have henter := follow_singleton.1 hlast
  obtain ⟨hdir, -⟩ := enter_eq_ok.1 henter
  rw [enter_idle hdir (FilePath.moves_eq_false.1 hidle)] at henter
  obtain rfl := Except.ok.inj henter
  exact Option.some.inj (hn.symm.trans hdir)

theorem directory_of_same (h : p.Same q) (hq : q.bytes.length < pathLimit)
    (hf : d.find p = .ok .directory) : d.find q = .ok .directory := by
  obtain ⟨first, ss, ss', hs, hs', hmoves, hfirst⟩ := h.segments
  obtain ⟨l, hl, hn⟩ := find_eq_ok.1 hf
  obtain ⟨hnul, hne, -, hwalk⟩ := resolve_eq_ok.1 hl
  refine find_eq_ok.2 ⟨l, resolve_eq_ok.2 ⟨?_, ?_, hq, ?_⟩, hn⟩
  · rwa [nul_mem_iff hs', ← hmoves, ← nul_mem_iff hs]
  · rw [Ne, bytes_eq_nil_iff hs] at hne
    rw [Ne, bytes_eq_nil_iff hs']
    rintro ⟨hnil, hnil'⟩
    exact hne ⟨hnil, (hfirst hnil).2 hnil'⟩
  · rw [hs] at hwalk
    rw [hs', ← start_congr h]
    obtain ⟨m, hm, hrest⟩ := follow_cons.1 hwalk
    rw [follow_openEnd hn, hmoves, ← follow_openEnd hn] at hrest
    exact follow_cons.2 ⟨m, hm, hrest⟩

theorem holds_of_same (h : p.Same q) (hq : q.bytes.length < pathLimit) (hfile : d.holdsFile p = false)
    (hp : d.holds p = true) : d.holds q = true := by
  obtain ⟨n, hf⟩ := holds_iff.1 hp
  have hdir : n = .directory := by
    cases n with
    | directory => rfl
    | file k => simp [holdsFile_iff.2 ⟨k, hf⟩] at hfile
  exact holds_iff.2 ⟨.directory, directory_of_same h hq (hdir ▸ hf)⟩

theorem length_of_holds (h : d.holds p = true) : p.bytes.length < pathLimit := by
  obtain ⟨n, hf⟩ := holds_iff.1 h
  obtain ⟨l, hl, -⟩ := find_eq_ok.1 hf
  exact (resolve_eq_ok.1 hl).2.2.1

theorem not_holdsFile_of_endsOpen (h : p.EndsOpen) : d.holdsFile p = false := by
  rw [Bool.eq_false_iff, Ne, holdsFile_iff]
  rintro ⟨n, hf⟩
  cases directory_of_endsOpen h hf

/-- Just when two spellings of a path lead to the same. -/
theorem alike_iff (h : p.Same q) (hp : p.bytes ≠ FilePath.here) (hq : q.bytes ≠ FilePath.here) :
    d.holds p = d.holds q ∧ d.content? p = d.content? q ↔
      (p.bytes.length < pathLimit ↔ q.bytes.length < pathLimit) ∧
          ((p.EndsOpen ↔ q.EndsOpen) ∨ d.holdsFile p = false ∧ d.holdsFile q = false) ∨
        d.holds p = false ∧ d.holds q = false := by
  constructor
  · rintro ⟨hholds, hcontent⟩
    have hfile : d.holdsFile p = d.holdsFile q := by
      rw [← isSome_content?, hcontent, isSome_content?]
    by_cases hfit : p.bytes.length < pathLimit ↔ q.bytes.length < pathLimit
    · left
      refine ⟨hfit, ?_⟩
      by_cases hp : p.EndsOpen
      · have hnone : d.holdsFile p = false := not_holdsFile_of_endsOpen hp
        exact Or.inr ⟨hnone, hfile ▸ hnone⟩
      · by_cases hq : q.EndsOpen
        · have hnone : d.holdsFile q = false := not_holdsFile_of_endsOpen hq
          exact Or.inr ⟨hfile.trans hnone, hnone⟩
        · exact Or.inl (iff_of_false hp hq)
    · right
      cases hh : d.holds q with
      | false => exact ⟨hholds.trans hh, rfl⟩
      | true => exact absurd (iff_of_true (length_of_holds (hholds.trans hh)) (length_of_holds hh)) hfit
  · rintro (⟨hfit, hopen | ⟨hpf, hqf⟩⟩ | ⟨hpn, hqn⟩)
    · have hfind : d.find p = d.find q := find_congr h hopen hp hq hfit
      rw [holds, content?, hfind, holds, content?]
      exact ⟨rfl, rfl⟩
    · have hcontent : ∀ {p : FilePath}, d.holdsFile p = false → d.content? p = none := by
        intro p hfile
        rwa [← isSome_content?, Option.isSome_eq_false_iff, Option.isNone_iff_eq_none] at hfile
      refine ⟨?_, (hcontent hpf).trans (hcontent hqf).symm⟩
      rw [Bool.eq_iff_iff]
      exact ⟨fun hh => holds_of_same h (hfit.1 (length_of_holds hh)) hpf hh,
        fun hh => holds_of_same ⟨h.1.symm, h.2.symm⟩ (hfit.2 (length_of_holds hh)) hqf hh⟩
    · exact ⟨hpn.trans hqn.symm, (content?_of_absent hpn).trans (content?_of_absent hqn).symm⟩

end Resources.Disk
