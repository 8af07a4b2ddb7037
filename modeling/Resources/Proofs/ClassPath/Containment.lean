import Resources.Handle.ClassPath
import Resources.Proofs.ClassPath.Names
import Resources.Proofs.Disk.Walk

/-! Where the hits of a class path lie. A name climbs out of its root only behind a drive. -/
namespace Resources

open Resources.Path (segments Ordinary)

variable {d : Disk} {c : Context} {cp : ClassPath} {n name : String} {l l' : Location}
  {p : FilePath} {h h' : ClassPathHandle}

/-- The root that answers for a name: it leads to something there, and no root before it does. -/
def ClassPath.FirstHit (cp : ClassPath) (d : Disk) (name : String) (r : Root) (x : Hit) : Prop :=
  r.lookup d name = some x ∧
    ∃ before after, cp.roots = before ++ r :: after ∧ ∀ r' ∈ before, r'.lookup d name = none

theorem ClassPath.lookup_eq_some {x : Hit} : cp.lookup d name = some x ↔
    climbsOut name = false ∧ ∃ r, cp.FirstHit d name r x := by
  unfold lookup FirstHit
  cases climbsOut name with
  | true => simp
  | false =>
    simp only [Bool.false_eq_true, if_false, List.findSome?_eq_some_iff, true_and]
    constructor
    · rintro ⟨before, r, after, hr, hx, hb⟩
      exact ⟨r, hx, before, after, hr, hb⟩
    · rintro ⟨r, hx, before, after, hr, hb⟩
      exact ⟨before, r, after, hr, hx, hb⟩

namespace ClassPathHandle

/-- The handles that a name leads to, by itself and through relative paths. -/
inductive Reachable (n : String) (c : Context) : ClassPathHandle → Prop
  | named : Reachable n c (.of n c)
  | relative {h h' : ClassPathHandle} {path : String} :
      Reachable n c h → h.relative path = .ok h' → Reachable n c h'

/-- How often the name climbs, once it has left the segment that it begins with. -/
def surplus (h : ClassPathHandle) : Nat := (segments h.name.toList).tail.count Path.up - 1

/-- The names behind the climbs. -/
def behind (h : ClassPathHandle) : List Bytes :=
  ((segments h.name.toList).tail.filter Ordinary).map Utf8.encode

theorem relative_eq_ok {path : String} (hr : h.relative path = .ok h') :
    (∃ m, h'.name = plainName m) ∧ h'.context = h.context := by
  unfold relative at hr
  split at hr
  · simp at hr
  · rename_i m _
    simp only at hr
    split at hr
    · simp at hr
    · obtain rfl := Except.ok.inj hr
      simp

theorem plain_reachable (hr : Reachable n c h) : (∃ m, h.name = plainName m) ∧ h.context = c := by
  induction hr with
  | named => simp [ClassPathHandle.of]
  | relative _ hs ih =>
    obtain ⟨hm, hc⟩ := relative_eq_ok hs
    exact ⟨hm, hc.trans ih.2⟩

theorem file_eq_ok : h.file d = .ok p ↔ h.lookup d = some (.file p) := by
  unfold file hit
  cases h.lookup d with
  | none => simp [bind, Except.bind]
  | some x => cases x <;> simp [bind, Except.bind]

/-- Names over what is left of a place lie below the place when they lead back into it. -/
theorem suffix_append_drop {α : Type} {l a : List α} {k : Nat} :
    l <:+ a.reverse ++ l.drop k ↔ (l.take k).reverse <+: a := by
  calc l <:+ a.reverse ++ l.drop k
    _ ↔ l.take k ++ l.drop k <:+ a.reverse ++ l.drop k := by rw [List.take_append_drop]
    _ ↔ l.take k <:+ a.reverse := List.suffix_append_self_iff
    _ ↔ (l.take k).reverse <+: a := by rw [← List.reverse_prefix, List.reverse_reverse]

/-- The parts of a looked-up name: the segment it begins with, its climbs, and the names behind. -/
theorem name_parts (hn : ∃ m, h.name = plainName m) (hc : climbsOut h.name = false) :
    ∃ first climbs ss, segments h.name.toList = first :: (List.replicate climbs Path.up ++ ss) ∧
      (∀ s ∈ ss, s = [] ∨ Ordinary s) ∧ (first = [] ∧ climbs = 0 ∧ ss = [] ∨ Ordinary first) ∧
      (climbs ≠ 0 → ∃ a : Char, a.isAlpha ∧ first = [a, ':', '.', '.']) ∧
      h.surplus = climbs - 1 ∧ h.behind = (ss.filter Ordinary).map Utf8.encode := by
  obtain ⟨m, hm⟩ := hn
  obtain ⟨first, k, ss, hs, hss, hfirst, hd⟩ := segments_plainName (hm ▸ hc)
  rw [← hm] at hs
  have hup : ss.count Path.up = 0 := by
    rw [List.count_eq_zero]
    intro hu
    rcases hss _ hu with he | ho
    · exact Path.up_ne_nil he
    · exact ho.2.2 rfl
  exact ⟨first, k, ss, hs, hss, hfirst, hd, by simp [surplus, hs, List.count_append, hup],
    by simp [behind, hs]⟩

/-- The walk of a name leaves the place where it begins only by its surplus, and then it lies below
that place just if it goes down again the way it has climbed. -/
theorem follow_name (hn : ∃ m, h.name = plainName m) (hc : climbsOut h.name = false)
    (hf : d.follow l ((segments h.name.toList).map Utf8.encode) = .ok l') :
    l <:+ l' ↔ (l.take h.surplus).reverse <+: h.behind := by
  obtain ⟨first, k, ss, hs, hss, hfirst, -, hsur, hbeh⟩ := name_parts hn hc
  rw [hs, List.map_cons, List.map_append, List.map_replicate] at hf
  obtain ⟨a, ha, hf⟩ := Disk.follow_cons.1 hf
  obtain ⟨b, hb, hf⟩ := Disk.follow_append.1 hf
  have hl := Disk.follow_ordinary hss hf
  have hb := Disk.follow_climbs hb
  rw [← hbeh] at hl
  rcases hfirst with ⟨rfl, rfl, -⟩ | ho
  · obtain ⟨rfl, -⟩ := Disk.enter_segment_idle (Or.inl rfl) ha
    simp [hl, hb, hsur]
  · obtain rfl := Disk.enter_segment_ordinary ho ha
    cases k with
    | zero =>
      have hin : l <:+ l' := ⟨h.behind.reverse ++ [Utf8.encode first], by simp [hl, hb]⟩
      simp [hin, hsur]
    | succ k =>
      rw [hl, hb, hsur, List.drop_succ_cons, suffix_append_drop]
      rfl

/-- Only a name with a drive has a surplus. -/
theorem surplus_drive (hn : ∃ m, h.name = plainName m) (hc : climbsOut h.name = false)
    (hs : h.surplus ≠ 0) :
    ∃ a : Char, a.isAlpha ∧ [[a, ':', '.', '.'], Path.up, Path.up] <+: segments h.name.toList := by
  obtain ⟨first, k, ss, he, -, -, hd, hsur, -⟩ := name_parts hn hc
  obtain ⟨k, rfl⟩ : ∃ j, k = j + 2 := ⟨k - 2, by omega⟩
  obtain ⟨a, ha, rfl⟩ := hd (by simp)
  exact ⟨a, ha, by simp [he, List.replicate_succ]⟩

/-- A hit in a directory lies in that directory, unless the name is a drive with climbs behind it
and does not come back. -/
theorem file_inside_root_iff (hr : Reachable n c h) (hf : h.file d = .ok p) :
    ∃ dir l l', c.classPath.FirstHit d h.name (.directory dir) (.file p) ∧
      d.place dir = .ok l ∧ d.resolve p = .ok l' ∧
      (l <:+ l' ↔ (l.take h.surplus).reverse <+: h.behind) ∧
      (h.surplus ≠ 0 → ∃ a : Char, a.isAlpha ∧
        [[a, ':', '.', '.'], Path.up, Path.up] <+: segments h.name.toList) := by
  obtain ⟨hn, rfl⟩ := plain_reachable hr
  obtain ⟨hc, r, hx⟩ := ClassPath.lookup_eq_some.1 (file_eq_ok.1 hf)
  cases r with
  | bundle b => simp [ClassPath.FirstHit, Root.lookup] at hx
  | directory dir =>
    have hp : Root.candidate dir h.name = p ∧ d.holds p = true := by
      have := hx.1
      simp only [Root.lookup] at this
      grind
    obtain ⟨hp, hh⟩ := hp
    obtain ⟨x, hfind⟩ := Disk.holds_iff.1 hh
    obtain ⟨l', hl', -⟩ := Disk.find_eq_ok.1 hfind
    obtain ⟨-, -, -, hfollow⟩ := Disk.resolve_eq_ok.1 hl'
    unfold Root.candidate at hp
    split at hp
    · rename_i he
      subst hp
      refine ⟨dir, l', l', hx, hfollow, hl', ?_, surplus_drive hn hc⟩
      simp [surplus, he]
    · subst hp
      have hnr : (FilePath.ofString h.name).isRooted = false := by
        obtain ⟨m, hm⟩ := hn
        simpa [FilePath.ofString_eq, hm] using name_not_rooted (hm ▸ hc)
      obtain ⟨l, hl, hfollow⟩ := Disk.follow_join hnr hfollow
      rw [FilePath.ofString_eq, FilePath.segments_ofText] at hfollow
      exact ⟨dir, l, l', hx, hl, hl', follow_name hn hc hfollow, surplus_drive hn hc⟩

/-- A root that holds a file and a directory with the name of a drive, and a file beside it. -/
def drivesDisk : Disk where
  entries := [([Utf8.encode "root".toList], .directory),
    ([Utf8.encode "C:..".toList, Utf8.encode "root".toList], .directory),
    ([Utf8.encode "in.txt".toList, Utf8.encode "root".toList], .file 0),
    ([Utf8.encode "out.txt".toList], .file 1)]
  bodies := [⟨[], .epoch⟩, ⟨[], .epoch⟩]
  home := []

def rootContext : Context := ⟨0, ⟨[.directory (.ofString "root")]⟩⟩

/-- From one name to the next, and to a hit in the root. -/
theorem file_inside_root_relative :
    Reachable "\\docs\\a.txt" rootContext ⟨"in.txt", rootContext⟩ ∧
    (⟨"in.txt", rootContext⟩ : ClassPathHandle).file drivesDisk = .ok (.ofString "root/in.txt") ∧
    ∃ dir l l', rootContext.classPath.FirstHit drivesDisk "in.txt" (.directory dir)
        (.file (.ofString "root/in.txt")) ∧
      drivesDisk.place dir = .ok l ∧ drivesDisk.resolve (.ofString "root/in.txt") = .ok l' ∧
      (l <:+ l' ↔ (l.take (surplus ⟨"in.txt", rootContext⟩)).reverse <+:
        behind ⟨"in.txt", rootContext⟩) ∧
      (surplus ⟨"in.txt", rootContext⟩ ≠ 0 → ∃ a : Char, a.isAlpha ∧
        [[a, ':', '.', '.'], Path.up, Path.up] <+: segments "in.txt".toList) := by
  have hs : (ClassPathHandle.of "\\docs\\a.txt" rootContext).relative "..//./in.txt" =
      .ok ⟨"in.txt", rootContext⟩ := rfl
  have hr := Reachable.relative .named hs
  have hf : (⟨"in.txt", rootContext⟩ : ClassPathHandle).file drivesDisk =
      .ok (.ofString "root/in.txt") := rfl
  exact ⟨hr, hf, file_inside_root_iff hr hf⟩

/-- The climbs behind a drive lead out of the root, to the file beside it. -/
theorem file_outside_root :
    Reachable "C:../../../out.txt" rootContext ⟨"C:../../../out.txt", rootContext⟩ ∧
    (⟨"C:../../../out.txt", rootContext⟩ : ClassPathHandle).file drivesDisk =
      .ok (.ofString "root/C:../../../out.txt") ∧
    rootContext.classPath.FirstHit drivesDisk "C:../../../out.txt" (.directory (.ofString "root"))
      (.file (.ofString "root/C:../../../out.txt")) ∧
    drivesDisk.place (.ofString "root") = .ok [Utf8.encode "root".toList] ∧
    drivesDisk.resolve (.ofString "root/C:../../../out.txt") =
      .ok [Utf8.encode "out.txt".toList] ∧
    ¬ [Utf8.encode "root".toList] <:+ [Utf8.encode "out.txt".toList] :=
  ⟨.named, rfl, ⟨rfl, [], [], rfl, by simp⟩, rfl, rfl, by decide⟩

end ClassPathHandle

end Resources
