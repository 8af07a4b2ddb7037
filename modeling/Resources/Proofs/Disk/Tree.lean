import Resources.Proofs.Disk.Nodes

/-! What lies below a directory. A walk over names from there ends where the names say, and what is
found at a path below the directory is what lies at its names. -/
namespace Resources.Disk

variable {d : Disk} {l l' below : Location} {names : List Bytes} {n : Node} {dir q : FilePath}

/-- A name that a directory can hold. -/
structure FileName (name : Bytes) : Prop where
  ne_nil : name ≠ []
  ne_here : name ≠ FilePath.here
  ne_up : name ≠ FilePath.up
  no_slash : FilePath.slash ∉ name
  no_nul : 0 ∉ name
  fits : name.length ≤ nameLimit

/-- What is somewhere below the root has an entry. -/
theorem mem_entries_of_node? (h : d.node? l = some n) : l = [] ∨ (l, n) ∈ d.entries := by
  cases l with
  | nil => exact Or.inl rfl
  | cons name parent =>
    right
    unfold node? at h
    split at h
    · obtain ⟨before, after, he, -⟩ := List.lookup_eq_some_iff.1 h
      rw [he]
      exact List.mem_append_right _ List.mem_cons_self
    · cases h

/-- Only below a directory is there anything. -/
theorem directory_of_below (h : d.node? (below ++ l) ≠ none) (hb : below ≠ []) :
    d.node? l = some .directory := by
  induction below with
  | nil => exact absurd rfl hb
  | cons name above ih =>
    have habove : d.node? (above ++ l) = some .directory := by
      by_contra hne
      apply h
      simp only [List.cons_append, node?, if_neg hne]
    cases above with
    | nil => exact habove
    | cons name above => exact ih (habove ▸ Option.some_ne_none _) (by simp)

/-- Names lead to what is there by these names. -/
theorem follow_of_node? (hn : ∀ name ∈ names, FileName name)
    (h : d.node? (names.reverse ++ l) ≠ none) :
    d.follow l names = .ok (names.reverse ++ l) := by
  induction names generalizing l with
  | nil => rfl
  | cons name names ih =>
    have hname := hn name (by simp)
    rw [List.reverse_cons, List.append_assoc, List.singleton_append] at h ⊢
    have hl : d.node? l = some .directory := by
      have hbelow : d.node? ((names.reverse ++ [name]) ++ l) ≠ none := by simpa using h
      exact directory_of_below hbelow (by simp)
    have hnext : d.node? (name :: l) ≠ none := by
      by_cases hnil : names = []
      · simpa [hnil] using h
      · simp [directory_of_below h (by simpa using hnil)]
    refine follow_cons.2 ⟨name :: l, ?_, ih (fun b hb => hn b (by simp [hb])) h⟩
    refine enter_eq_ok.2 ⟨hl, Or.inr (Or.inr ⟨?_, hname.fits, hnext, rfl⟩)⟩
    exact ⟨hname.ne_nil, hname.ne_here, hname.ne_up⟩

/-- From the place of a directory, a path below it is walked as it is. -/
theorem follow_of_join (hq : q.isRooted = false) (hp : d.place dir = .ok l)
    (h : d.follow l q.segments = .ok l') :
    d.follow (d.start (dir.join q)) (dir.join q).segments = .ok l' := by
  rcases FilePath.join_cases (f := dir) hq with ⟨rfl, hj⟩ | ⟨hr, ss, gap, hs, hgap, hj⟩
  · have hl : d.follow (d.start ⟨[]⟩) [[]] = .ok l := hp
    obtain ⟨rfl, -⟩ := enter_segment_idle (s := []) (Or.inl rfl) (follow_singleton.1 hl)
    have hstart : d.start q = d.start ⟨[]⟩ := by
      rw [start, start, hq]
      rfl
    rwa [hj, hstart]
  · have hstart : d.start (dir.join q) = d.start dir := by simp [start, hr]
    rw [place, hs] at hp
    obtain ⟨m, hm, hgap'⟩ := follow_append.1 hp
    have hml : l = m := by
      rcases hgap with rfl | rfl
      · simpa using hgap'.symm
      · exact (enter_segment_idle (s := []) (Or.inl rfl) (follow_singleton.1 hgap')).1
    rw [hj, hstart]
    exact follow_append.2 ⟨m, hm, hml ▸ h⟩

theorem nul_mem_join : 0 ∈ (dir.join q).bytes ↔
    (q.isRooted = false ∧ 0 ∈ dir.bytes) ∨ 0 ∈ q.bytes := by
  unfold FilePath.join
  cases q.isRooted with
  | true => simp
  | false =>
    simp only [Bool.false_eq_true, if_false, true_and]
    split <;> simp [FilePath.slash]

/-- What is found below a directory lies there, if the whole path is short enough to be looked at. -/
theorem find_join (hq : q.isRooted = false) (hne : q.bytes ≠ []) (hp : d.place dir = .ok l)
    (hnul : 0 ∉ dir.bytes) : d.find (dir.join q) = .ok n ↔
      (dir.join q).bytes.length < pathLimit ∧ 0 ∉ q.bytes ∧
        ∃ l', d.follow l q.segments = .ok l' ∧ d.node? l' = some n := by
  have hbytes : (dir.join q).bytes ≠ [] := by
    unfold FilePath.join
    rw [hq]
    simp only [Bool.false_eq_true, if_false]
    split <;> simp [hne]
  have hnuls : 0 ∉ (dir.join q).bytes ↔ 0 ∉ q.bytes := by
    rw [nul_mem_join]
    simp [hnul]
  rw [find_eq_ok]
  constructor
  · rintro ⟨l', hl', hn⟩
    obtain ⟨hnul', -, hlen, hfollow⟩ := resolve_eq_ok.1 hl'
    obtain ⟨m, hm, hfollow⟩ := follow_join hq hfollow
    obtain rfl : m = l := Except.ok.inj (hm.symm.trans hp)
    exact ⟨hlen, hnuls.1 hnul', l', hfollow, hn⟩
  · rintro ⟨hlen, hnul', l', hfollow, hn⟩
    exact ⟨l', resolve_eq_ok.2 ⟨hnuls.2 hnul', hbytes, hlen, follow_of_join hq hp hfollow⟩, hn⟩

/-- More slashes behind the path of a directory lead to the same place. -/
theorem place_append_slashes (hne : dir.bytes ≠ []) (hp : d.place dir = .ok l)
    (hl : d.node? l = some .directory) (k : Nat) :
    d.place ⟨dir.bytes ++ List.replicate k FilePath.slash⟩ = .ok l := by
  have hstart : ∀ bs, d.start ⟨dir.bytes ++ bs⟩ = d.start dir := by
    intro bs
    obtain ⟨b, rest, hb⟩ := List.exists_cons_of_ne_nil hne
    simp [start, FilePath.isRooted, hb]
  induction k with
  | zero => simpa using hp
  | succ k ih =>
    have hsegments : FilePath.segments ⟨dir.bytes ++ List.replicate (k + 1) FilePath.slash⟩ =
        FilePath.segments ⟨dir.bytes ++ List.replicate k FilePath.slash⟩ ++ [[]] := by
      rw [List.replicate_succ', ← List.append_assoc]
      exact List.splitOn_append_cons_self _ []
    unfold place at ih ⊢
    rw [hstart] at ih ⊢
    rw [hsegments]
    exact follow_append.2 ⟨l, ih, follow_singleton.2 (enter_idle hl (Or.inl rfl))⟩

theorem length_le_length_join (hq : q.isRooted = false) :
    dir.bytes.length + q.bytes.length ≤ (dir.join q).bytes.length := by
  unfold FilePath.join
  rw [hq, if_neg Bool.false_ne_true]
  split
  · simp
  · simp

end Resources.Disk
