import Resources.Disk
import Resources.Proofs.Path.FilePath
import Resources.Proofs.Path.Walk

/-! Walks on a disk. One that goes on to its end goes where its names say, and folding the climbs
of a path into its names does not change where it ends. -/
namespace Resources.Disk

open Resources.Path (Segment Ordinary Folded push)

variable {d : Disk} {l l' m : Location} {name : Bytes} {names names' : List Bytes}
  {p dir : FilePath}

/-- A walk from a place, name by name. -/
def follow (d : Disk) (l : Location) (names : List Bytes) : Except Fault Location :=
  names.foldlM d.enter l

/-- Where a directory is. The empty path is where relative paths begin. -/
def place (d : Disk) (dir : FilePath) : Except Fault Location :=
  d.follow (d.start dir) dir.segments

@[simp] theorem follow_nil : d.follow l [] = .ok l := rfl

theorem follow_cons : d.follow l (name :: names) = .ok l' ↔
    ∃ m, d.enter l name = .ok m ∧ d.follow m names = .ok l' := by
  unfold follow
  rw [List.foldlM_cons]
  cases d.enter l name <;> simp [bind, Except.bind]

theorem follow_append : d.follow l (names ++ names') = .ok l' ↔
    ∃ m, d.follow l names = .ok m ∧ d.follow m names' = .ok l' := by
  induction names generalizing l with
  | nil => simp
  | cons name names ih =>
    simp only [List.cons_append, follow_cons, ih]
    constructor
    · rintro ⟨a, ha, b, hb, hc⟩
      exact ⟨b, ⟨a, ha, hb⟩, hc⟩
    · rintro ⟨b, ⟨a, ha, hb⟩, hc⟩
      exact ⟨a, ha, b, hb, hc⟩

@[simp] theorem follow_singleton : d.follow l [name] = .ok l' ↔ d.enter l name = .ok l' := by
  simp [follow_cons]

/-! ### One step -/

/-- A step leaves a directory, and it stays, climbs or goes down to a place that is there. -/
theorem enter_eq_ok : d.enter l name = .ok l' ↔ d.node? l = some .directory ∧
    ((name = [] ∨ name = FilePath.here) ∧ l' = l ∨ name = FilePath.up ∧ l' = l.tail ∨
      (name ≠ [] ∧ name ≠ FilePath.here ∧ name ≠ FilePath.up) ∧ name.length ≤ nameLimit ∧
        d.node? (name :: l) ≠ none ∧ l' = name :: l) := by
  have := FilePath.up_ne_nil
  have := FilePath.up_ne_here
  unfold enter
  cases hl : d.node? l with
  | none => simp
  | some n =>
    cases n with
    | file body => simp
    | directory =>
      simp only [true_and, Option.isNone_iff_eq_none]
      grind

theorem enter_idle (hl : d.node? l = some .directory) (h : name = [] ∨ name = FilePath.here) :
    d.enter l name = .ok l :=
  enter_eq_ok.2 ⟨hl, Or.inl ⟨h, rfl⟩⟩

theorem enter_up (h : d.enter l FilePath.up = .ok l') : l' = l.tail := by
  obtain ⟨-, h | h | h⟩ := enter_eq_ok.1 h
  · exact (h.1.elim FilePath.up_ne_nil FilePath.up_ne_here).elim
  · exact h.2
  · exact absurd rfl h.1.2.2

theorem enter_segment_ordinary {s : Segment} (hs : Ordinary s)
    (h : d.enter l (Utf8.encode s) = .ok l') : l' = Utf8.encode s :: l := by
  obtain ⟨-, ⟨h | h, -⟩ | ⟨h, -⟩ | ⟨-, -, -, h⟩⟩ := enter_eq_ok.1 h
  · exact absurd (FilePath.encode_eq_nil.1 h) hs.1
  · exact absurd (FilePath.encode_eq_here.1 h) hs.2.1
  · exact absurd (FilePath.encode_eq_up.1 h) hs.2.2
  · exact h

theorem enter_segment_idle {s : Segment} (hs : s = [] ∨ s = Path.here)
    (h : d.enter l (Utf8.encode s) = .ok l') : l' = l ∧ d.node? l = some .directory := by
  have hn : Utf8.encode s = [] ∨ Utf8.encode s = FilePath.here := by
    rcases hs with rfl | rfl <;> simp
  obtain ⟨hl, -⟩ := enter_eq_ok.1 h
  exact ⟨by simpa [enter_idle hl hn] using h.symm, hl⟩

/-! ### Folded walks -/

/-- A stack that leads to a place leads one step further with one more segment on it. -/
theorem follow_push {rooted : Bool} {stack : List Segment} {s : Segment}
    (hf : Folded rooted stack) (hr : rooted = true → l = [])
    (h : d.follow l (stack.reverse.map Utf8.encode) = .ok m)
    (hs : d.enter m (Utf8.encode s) = .ok l') :
    d.follow l ((push rooted stack s).reverse.map Utf8.encode) = .ok l' := by
  have snoc : d.follow l ((s :: stack).reverse.map Utf8.encode) = .ok l' := by
    simp only [List.reverse_cons, List.map_append]
    exact follow_append.2 ⟨m, h, follow_singleton.2 hs⟩
  rcases Path.segment_cases s with hi | rfl | ho
  · obtain ⟨rfl, -⟩ := enter_segment_idle hi hs
    rwa [Path.push_idle hi]
  · have hm := enter_up hs
    rcases Path.push_up hf with ⟨top, below, rfl, ht, he⟩ | ⟨hrt, rfl, he⟩ | ⟨-, -, he⟩ <;> rw [he]
    · simp only [List.reverse_cons, List.map_append] at h
      obtain ⟨k, hk, htop⟩ := follow_append.1 h
      rwa [hm, enter_segment_ordinary ht (follow_singleton.1 htop)]
    · obtain rfl := hr hrt
      obtain rfl : [] = m := by simpa using h
      simpa using hm
    · exact snoc
  · rwa [Path.push_ordinary ho]

theorem follow_foldl_push {rooted : Bool} {stack ss : List Segment} (hf : Folded rooted stack)
    (hr : rooted = true → l = []) (h : d.follow l (stack.reverse.map Utf8.encode) = .ok m)
    (hs : d.follow m (ss.map Utf8.encode) = .ok l') :
    d.follow l ((ss.foldl (push rooted) stack).reverse.map Utf8.encode) = .ok l' := by
  induction ss generalizing stack m with
  | nil =>
    obtain rfl : m = l' := by simpa using hs
    exact h
  | cons s ss ih =>
    obtain ⟨k, hk, hs⟩ := follow_cons.1 hs
    exact ih (Path.folded_push hf s) (follow_push hf hr h hk) hs

/-! ### Landings -/

theorem follow_climbs {k : Nat} (h : d.follow l (List.replicate k FilePath.up) = .ok l') :
    l' = l.drop k := by
  induction k generalizing l with
  | zero => simpa using h.symm
  | succ k ih =>
    obtain ⟨m, hm, h⟩ := follow_cons.1 h
    rw [ih h, enter_up hm, List.drop_tail]

theorem follow_ordinary {ss : List Segment} (hs : ∀ s ∈ ss, s = [] ∨ Ordinary s)
    (h : d.follow l (ss.map Utf8.encode) = .ok l') :
    l' = ((ss.filter Ordinary).map Utf8.encode).reverse ++ l := by
  induction ss generalizing l with
  | nil => simpa using h.symm
  | cons s ss ih =>
    obtain ⟨m, hm, h⟩ := follow_cons.1 h
    have hl := ih (fun t ht => hs t (by simp [ht])) h
    rcases hs s (by simp) with rfl | ho
    · simp [hl, (enter_segment_idle (Or.inl rfl) hm).1]
    · simp [hl, ho, enter_segment_ordinary ho hm]

/-! ### Paths -/

theorem resolve_eq_ok : d.resolve p = .ok l ↔ 0 ∉ p.bytes ∧ p.bytes ≠ [] ∧
    p.bytes.length < pathLimit ∧ d.follow (d.start p) p.segments = .ok l := by
  unfold resolve follow
  grind

theorem find_eq_ok {n : Node} : d.find p = .ok n ↔
    ∃ l, d.resolve p = .ok l ∧ d.node? l = some n := by
  unfold find
  cases d.resolve p with
  | error f => simp [bind, Except.bind]
  | ok l => cases hl : d.node? l <;> simp [bind, Except.bind, hl]

theorem find_eq_error {f : Fault} : d.find p = .error f ↔ d.resolve p = .error f ∨
    ∃ l, d.resolve p = .ok l ∧ d.node? l = none ∧ f = .absent := by
  unfold find
  cases d.resolve p with
  | error f => simp [bind, Except.bind]
  | ok l => cases hl : d.node? l <;> simp [bind, Except.bind, hl, eq_comm]

theorem holds_iff : d.holds p = true ↔ ∃ n, d.find p = .ok n := by
  unfold holds
  cases d.find p <;> simp [Except.isOk, Except.toBool]

theorem directory_of_follow (hn : names ≠ []) (h : d.follow l names = .ok l') :
    d.node? l = some .directory := by
  obtain ⟨name, names, rfl⟩ := List.exists_cons_of_ne_nil hn
  obtain ⟨m, hm, -⟩ := follow_cons.1 h
  exact (enter_eq_ok.1 hm).1

/-- A path below a directory goes through the place of the directory. -/
theorem follow_join {q : FilePath} (hq : q.isRooted = false)
    (h : d.follow (d.start (dir.join q)) (dir.join q).segments = .ok l) :
    ∃ m, d.place dir = .ok m ∧ d.follow m q.segments = .ok l := by
  rcases FilePath.join_cases (f := dir) hq with ⟨rfl, hj⟩ | ⟨hr, ss, gap, hs, hgap, hj⟩
  · rw [hj] at h
    have hst : d.start q = d.start ⟨[]⟩ := by
      rw [start, start, hq]
      rfl
    rw [hst] at h
    refine ⟨_, follow_singleton.2 (enter_idle ?_ (Or.inl rfl)), h⟩
    exact directory_of_follow FilePath.segments_ne_nil h
  · rw [hj] at h
    obtain ⟨m, hm, h⟩ := follow_append.1 h
    refine ⟨m, ?_, h⟩
    have hst : d.start dir = d.start (dir.join q) := by simp [start, hr]
    rw [place, hs, hst]
    refine follow_append.2 ⟨m, hm, ?_⟩
    rcases hgap with rfl | rfl
    · rfl
    · exact follow_singleton.2
        (enter_idle (directory_of_follow FilePath.segments_ne_nil h) (Or.inl rfl))

end Resources.Disk
