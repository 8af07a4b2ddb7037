import Resources.Proofs.Disk.Walk

/-! What is found at a path. -/
namespace Resources.Disk

variable {d : Disk} {p : FilePath} {n : Node} {l : Location} {name : Bytes} {names : List Bytes}
  {f : Fault}

/-- Only a directory is found behind a slash. -/
theorem find_slashed (hp : p.bytes ≠ []) : d.find p.slashed = .ok n ↔
    d.find p = .ok n ∧ n = .directory ∧ p.slashed.bytes.length < pathLimit := by
  have hnul : 0 ∈ p.slashed.bytes ↔ 0 ∈ p.bytes := by simp [FilePath.slashed, FilePath.slash]
  have hstart : d.start p.slashed = d.start p := by rw [start, start, FilePath.isRooted_slashed hp]
  have hlonger : p.slashed.bytes.length = p.bytes.length + 1 := by simp [FilePath.slashed]
  simp only [find_eq_ok, resolve_eq_ok, FilePath.segments_slashed, follow_append, follow_singleton,
    hstart, hnul]
  constructor
  · rintro ⟨l, ⟨hb, -, hlen, m, hm, hl⟩, hn⟩
    obtain ⟨rfl, hdir⟩ := enter_segment_idle (s := []) (Or.inl rfl) hl
    have hn' : n = .directory := Option.some.inj (hn.symm.trans hdir)
    exact ⟨⟨l, ⟨hb, hp, by omega, hm⟩, hn⟩, hn', hlen⟩
  · rintro ⟨⟨l, ⟨hb, -, -, hl⟩, hn⟩, rfl, hlen⟩
    refine ⟨l, ⟨hb, ?_, hlen, l, hl, enter_idle hn (Or.inl rfl)⟩, hn⟩
    simp [FilePath.slashed]

/-- The faults of a look at the disk. -/
def faults : List Fault := [.absent, .throughFile, .tooLong, .nulByte]

theorem fault_of_enter (h : d.enter l name = .error f) : f ∈ faults := by
  unfold enter at h
  unfold faults
  grind

theorem fault_of_follow (h : d.follow l names = .error f) : f ∈ faults := by
  induction names generalizing l with
  | nil => cases h
  | cons name names ih =>
    unfold follow at h
    rw [List.foldlM_cons] at h
    cases hname : d.enter l name with
    | error e =>
      rw [hname] at h
      cases h
      exact fault_of_enter hname
    | ok m =>
      rw [hname] at h
      exact ih h

theorem fault_of_find (h : d.find p = .error f) : f ∈ faults := by
  have hresolve : ∀ {f}, d.resolve p = .error f → f ∈ faults := by
    intro f hf
    unfold resolve at hf
    split at hf
    · cases hf
      simp [faults]
    split at hf
    · cases hf
      simp [faults]
    split at hf
    · cases hf
      simp [faults]
    · exact fault_of_follow hf
  rcases find_eq_error.1 h with hl | ⟨l, -, -, rfl⟩
  · exact hresolve hl
  · simp [faults]

/-- What is found at a path is told of by its place. -/
theorem metadata_of_find (hf : d.find p = .ok n) :
    ∃ l, d.resolve p = .ok l ∧ d.metadata p = .ok (d.about l n) := by
  obtain ⟨l, hl, hn⟩ := find_eq_ok.1 hf
  refine ⟨l, hl, ?_⟩
  simp only [metadata, hl, bind, Except.bind, hn]

theorem metadata_of_file {m : Nat} (hf : d.find p = .ok (.file m)) :
    d.metadata p = .ok ⟨false, (d.body m).content.length, (d.body m).modified⟩ := by
  obtain ⟨l, -, hm⟩ := metadata_of_find hf
  exact hm

/-- Where nothing is found, nothing is told either. -/
theorem metadata_of_fault (hf : d.find p = .error f) : d.metadata p = .error f := by
  rcases find_eq_error.1 hf with hl | ⟨l, hl, hn, rfl⟩
  · simp only [metadata, hl, bind, Except.bind]
  · simp only [metadata, hl, bind, Except.bind, hn]

/-- What is no directory is told of alike wherever it is found. -/
theorem metadata_congr {q : FilePath} (hf : d.find q = d.find p) (hne : d.find p ≠ .ok .directory) :
    d.metadata q = d.metadata p := by
  cases hp : d.find p with
  | error f => rw [metadata_of_fault hp, metadata_of_fault (hf.trans hp)]
  | ok n =>
    cases n with
    | directory => exact absurd hp hne
    | file m => rw [metadata_of_file hp, metadata_of_file (hf.trans hp)]

theorem holdsFile_iff : d.holdsFile p = true ↔ ∃ n, d.find p = .ok (.file n) := by
  unfold holdsFile
  cases hp : d.find p with
  | error f => simp [metadata_of_fault hp]
  | ok n =>
    obtain ⟨l, -, hm⟩ := metadata_of_find hp
    rw [hm]
    cases n <;> simp [about]

/-- The bytes of the file at a path. -/
def content? (d : Disk) (p : FilePath) : Option Bytes :=
  match d.find p with
  | .ok (.file n) => some (d.body n).content
  | _ => none

theorem content?_eq_some {b : Bytes} :
    d.content? p = some b ↔ ∃ n, d.find p = .ok (.file n) ∧ (d.body n).content = b := by
  unfold content?
  cases d.find p with
  | error f => simp
  | ok n => cases n <;> simp

/-- Nothing is read where nothing is found, or a directory. -/
theorem content?_eq_none :
    d.content? p = none ↔ (∃ f, d.find p = .error f) ∨ d.find p = .ok .directory := by
  unfold content?
  cases d.find p with
  | error f => simp
  | ok n => cases n <;> simp

theorem isSome_content? : (d.content? p).isSome = d.holdsFile p := by
  rw [Bool.eq_iff_iff, holdsFile_iff, Option.isSome_iff_exists]
  simp only [content?_eq_some]
  constructor
  · rintro ⟨b, n, hf, -⟩
    exact ⟨n, hf⟩
  · rintro ⟨n, hf⟩
    exact ⟨_, n, hf, rfl⟩

theorem holds_of_holdsFile (h : d.holdsFile p = true) : d.holds p = true := by
  obtain ⟨n, hf⟩ := holdsFile_iff.1 h
  exact holds_iff.2 ⟨_, hf⟩

theorem content?_of_absent (h : d.holds p = false) : d.content? p = none := by
  cases hf : d.find p with
  | error f => exact content?_eq_none.2 (Or.inl ⟨f, hf⟩)
  | ok n => simp [holds_iff.2 ⟨n, hf⟩] at h

/-- Is there a directory at the path, with room for a slash behind it, or nothing? -/
def BearsSlash (d : Disk) (p : FilePath) : Prop :=
  ∀ n, d.find p = .ok n → n = .directory ∧ p.slashed.bytes.length < pathLimit

theorem bearsSlash_iff (hp : p.bytes ≠ []) : d.BearsSlash p ↔ d.holds p.slashed = d.holds p := by
  constructor
  · intro h
    rw [Bool.eq_iff_iff, holds_iff, holds_iff]
    simp only [find_slashed hp]
    constructor
    · rintro ⟨n, hf, -⟩
      exact ⟨n, hf⟩
    · rintro ⟨n, hf⟩
      exact ⟨n, hf, h n hf⟩
  · intro h n hf
    obtain ⟨n', hf'⟩ := holds_iff.1 (h.trans (holds_iff.2 ⟨n, hf⟩))
    obtain ⟨hbase, hdir, hlen⟩ := (find_slashed hp).1 hf'
    obtain rfl : n = n' := Except.ok.inj (hf.symm.trans hbase)
    exact ⟨hdir, hlen⟩

theorem content?_of_no_file (h : ∀ n, d.find p = .ok n → n = .directory) : d.content? p = none := by
  cases hf : d.find p with
  | error f => exact content?_eq_none.2 (Or.inl ⟨f, hf⟩)
  | ok n => exact content?_eq_none.2 (Or.inr (h n hf ▸ hf))

/-- Nothing is read behind a slash, and without it only a file. -/
theorem content?_of_bearsSlash (hp : p.bytes ≠ []) (h : d.BearsSlash p) :
    d.content? p.slashed = d.content? p :=
  (content?_of_no_file fun _ hf => ((find_slashed hp).1 hf).2.1).trans
    (content?_of_no_file fun n hf => (h n hf).1).symm

/-- The path of something that is there has a place, seen from the root. -/
theorem absoluteNames_of_find (hf : d.find p = .ok n) :
    ∃ names, p.absoluteNames? d.home.reverse = some names := by
  obtain ⟨l, hl, -⟩ := find_eq_ok.1 hf
  have hne : p.bytes ≠ [] := (resolve_eq_ok.1 hl).2.1
  unfold FilePath.absoluteNames?
  rw [if_neg hne]
  split
  · exact ⟨_, rfl⟩
  · exact ⟨_, rfl⟩

end Resources.Disk
