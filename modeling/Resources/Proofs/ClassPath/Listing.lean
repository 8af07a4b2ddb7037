import Mathlib.Data.List.Dedup
import Resources.Proofs.ClassPath.Bundle

/-! What a bundle lists and gives. Content that is added under several spellings of one name is one
entry, the last of them, and two spellings are of one name if they lead the same way and end alike. -/
namespace Resources

open Resources.Path

variable {rooted : Bool} {stack : List Segment} {s : Segment} {m n name label : String}
  {entries : List (String × Bytes)} {data : Bytes} {b : Bundle}

/-! ### The way a name leads -/

/-- One segment of a relative name. A climb is kept where there are only climbs to climb from. -/
def keepClimb (stack : List Segment) (s : Segment) : List Segment :=
  if s = up ∧ ∀ t ∈ stack, t = up then up :: stack else step stack s

/-- Does the name end in a separator? -/
def endsOpen (n : String) : Bool := (unify n.toList).getLast? == some '/'

/-- The names that the segments of a name leave, innermost first. With a separator in front they
lead from the root, which is above itself. -/
def trail (n : String) : List Segment :=
  (segments (unify n.toList)).foldl
    (if (unify n.toList).head? = some '/' then step else keepClimb) []

theorem push_rooted (h : Folded true stack) : push true stack s = step stack s := by
  rcases segment_cases s with hs | rfl | hs
  · rw [push_idle hs]
    rcases hs with rfl | rfl <;> simp
  · rcases push_up h with ⟨top, below, rfl, -, he⟩ | ⟨-, rfl, he⟩ | ⟨h, -⟩
    · simp [he]
    · simp [he]
    · cases h
  · rw [push_ordinary hs, step_ordinary hs]

theorem push_relative (h : Folded false stack) : push false stack s = keepClimb stack s := by
  rcases segment_cases s with hs | rfl | hs
  · rw [push_idle hs, keepClimb, if_neg fun hc => ne_up_of_idle hs hc.1]
    rcases hs with rfl | rfl <;> simp
  · rcases push_up h with ⟨top, below, rfl, ht, he⟩ | ⟨h, -⟩ | ⟨-, hu, he⟩
    · have hn : ¬ ∀ t ∈ top :: below, t = up := fun hall => ht.2.2 (hall top List.mem_cons_self)
      rw [he, keepClimb, if_neg fun hc => hn hc.2, step_up, List.tail_cons]
    · cases h
    · rw [he, keepClimb, if_pos ⟨rfl, hu⟩]
  · rw [push_ordinary hs, keepClimb, if_neg fun hc => hs.2.2 hc.1, step_ordinary hs]

theorem foldl_push_eq (ss : List Segment) (h : Folded rooted stack) :
    ss.foldl (push rooted) stack = ss.foldl (if rooted then step else keepClimb) stack := by
  induction ss generalizing stack with
  | nil => rfl
  | cons s ss ih =>
    have hs : push rooted stack s = (if rooted then step else keepClimb) stack s := by
      cases rooted with
      | true => exact push_rooted h
      | false => exact push_relative h
    rw [List.foldl_cons, List.foldl_cons, ← hs, ih (folded_push h s)]

/-- The names that a name without a colon is cleaned to are those on its way. -/
theorem names_eq_trail (hn : ':' ∉ n.toList) : names n.toList = (trail n).reverse := by
  rw [names_eq, foldl_push_eq _ folded_nil, rooted_eq, rest_of_no_colon hn, trail]
  simp

theorem trailing_eq_endsOpen (hn : ':' ∉ n.toList) (hne : names n.toList ≠ []) :
    trailing n.toList = endsOpen n := by
  have hlong : endsOpen n = true → 1 < (unify n.toList).length := by
    intro hl
    by_contra hshort
    rw [endsOpen, beq_iff_eq] at hl
    -- a lone separator leaves no name
    have hslash : unify n.toList = ['/'] := by
      obtain ⟨front, hf⟩ := List.getLast?_eq_some_iff.1 hl
      have hnil : front = [] := by
        rw [← List.length_eq_zero_iff]
        simp [hf] at hshort
        simpa using hshort
      simpa [hnil] using hf
    apply hne
    rw [names_eq_trail hn, trail, hslash]
    simp [segments_cons]
  rw [trailing_eq, rest_of_no_colon hn]
  change (decide (1 < (unify n.toList).length) && endsOpen n) = endsOpen n
  cases hl : endsOpen n with
  | false => simp
  | true => simp [hlong hl]

/-- Behind names stands an empty segment just when the name ends in a separator. -/
theorem gap_eq_iff (hm : ':' ∉ m.toList) (hn : ':' ∉ n.toList) (hmne : names m.toList ≠ [])
    (hnne : names n.toList ≠ []) : gap m.toList = gap n.toList ↔ endsOpen m = endsOpen n := by
  rw [gap, gap, List.isEmpty_eq_false_iff.2 hmne, List.isEmpty_eq_false_iff.2 hnne,
    trailing_eq_endsOpen hm hmne, trailing_eq_endsOpen hn hnne]
  cases endsOpen m <;> cases endsOpen n <;> simp

theorem filter_names_append_gap (p : List Char) :
    (names p ++ gap p).filter (· ≠ []) = names p := by
  rw [List.filter_append, List.filter_eq_self.2 fun s hs => by simpa using (names_ne hs).1,
    List.filter_eq_nil_iff.2 fun s hs => by simpa using eq_nil_of_mem_gap hs, List.append_nil]

/-- Names without a colon are one name if the same names are left of them, with the same end. -/
theorem plainName_eq_iff_names (hm : ':' ∉ m.toList) (hn : ':' ∉ n.toList) :
    plainName m = plainName n ↔
      names m.toList = names n.toList ∧ gap m.toList = gap n.toList := by
  have hsegments : plainName m = plainName n ↔
      names m.toList ++ gap m.toList = names n.toList ++ gap n.toList := by
    rw [← segments_plainName_of_no_drive (drive_of_no_colon hm),
      ← segments_plainName_of_no_drive (drive_of_no_colon hn)]
    constructor
    · exact fun h => by rw [h]
    · intro h
      have htext := congrArg (List.intercalate ['/']) h
      rwa [intercalate_segments, intercalate_segments, String.toList_inj] at htext
  rw [hsegments]
  constructor
  · intro h
    have hnames : names m.toList = names n.toList := by
      rw [← filter_names_append_gap m.toList, h, filter_names_append_gap]
    exact ⟨hnames, List.append_cancel_left (hnames ▸ h)⟩
  · rintro ⟨hnames, hgap⟩
    rw [hnames, hgap]

/-- Two spellings are of one name if they lead the same way, and end alike where any names are left. -/
theorem plainName_eq_iff (hm : ':' ∉ m.toList) (hn : ':' ∉ n.toList) :
    plainName m = plainName n ↔
      trail m = trail n ∧ (endsOpen m = endsOpen n ∨ trail m = []) := by
  rw [plainName_eq_iff_names hm hn]
  have hnames : names m.toList = names n.toList ↔ trail m = trail n := by
    rw [names_eq_trail hm, names_eq_trail hn, List.reverse_inj]
  rw [hnames]
  refine and_congr_right fun htrail => ?_
  by_cases hnil : trail m = []
  · have hm' : names m.toList = [] := by rw [names_eq_trail hm, hnil, List.reverse_nil]
    have hn' : names n.toList = [] := (hnames.2 htrail) ▸ hm'
    simp [gap, hm', hn', hnil]
  · have hm' : names m.toList ≠ [] := by rwa [names_eq_trail hm, Ne, List.reverse_eq_nil_iff]
    have hn' : names n.toList ≠ [] := (hnames.2 htrail) ▸ hm'
    rw [gap_eq_iff hm hn hm' hn', or_iff_left hnil]

/-! ### Entries -/

namespace Bundle

/-- A name has one entry at most. -/
theorem nodup_insert (hb : (b.entries.map (·.1)).Nodup) :
    ((b.insert name data).entries.map (·.1)).Nodup := by
  unfold insert
  simp only [List.map_cons, List.nodup_cons]
  refine ⟨fun h => ?_, hb.sublist (List.filter_sublist.map _)⟩
  obtain ⟨e, he, hname⟩ := List.mem_map.1 h
  simp [hname] at he

theorem nodup_ofList (label : String) (entries : List (String × Bytes)) :
    ((ofList label entries).entries.map (·.1)).Nodup := by
  have hfold : ∀ b : Bundle, (b.entries.map (·.1)).Nodup →
      ((entries.foldl (fun b e => b.insert e.1 e.2) b).entries.map (·.1)).Nodup := by
    induction entries with
    | nil => exact fun b hb => hb
    | cons e entries ih => exact fun b hb => ih _ (nodup_insert hb)
  exact hfold (empty label) (by simp [empty])

theorem nodup_names (label : String) (entries : List (String × Bytes)) :
    (ofList label entries).names.Nodup :=
  (List.mergeSort_perm _ _).nodup_iff.2 (nodup_ofList label entries)

theorem mem_names_ofList : name ∈ (ofList label entries).names ↔
    ∃ e ∈ entries, plainName e.1 = name := by
  rw [mem_names, get?_ofList, Option.isSome_map, List.find?_isSome]
  simp

theorem length_names (b : Bundle) : b.names.length = b.size := by simp [names, size]

/-- There are as many entries as there are names, however often each was added. -/
theorem size_ofList (label : String) (entries : List (String × Bytes)) :
    (ofList label entries).size = (entries.map fun e => plainName e.1).dedup.length := by
  rw [← length_names]
  refine List.Perm.length_eq ((List.perm_ext_iff_of_nodup (nodup_names _ _) (List.nodup_dedup _)).2
    fun name => ?_)
  rw [mem_names_ofList, List.mem_dedup, List.mem_map]

end Bundle

namespace ClassPathHandle

theorem description_of (n : String) (c : Context) :
    (of n c).description = s!"class path resource [{plainName n}]" := by
  unfold description
  exact congrArg (fun name => s!"class path resource [{name}]") (name_of n c)

/-- A bundle alone is asked for the content that was added last under the name. -/
theorem lookup_of_list (label : String) (entries : List (String × Bytes)) (q : String) (id : Nat)
    (d : Disk) : (of q ⟨id, ⟨[.bundle (.ofList label entries)]⟩⟩).lookup d =
    (if climbsOut (plainName q) then none
      else entries.reverse.find? fun e => plainName e.1 = plainName q).map fun e => .bundled e.2 := by
  rw [lookup_of]
  generalize plainName q = name
  rw [ClassPath.lookup]
  cases climbsOut name with
  | true => rfl
  | false =>
    simp only [Bool.false_eq_true, if_false, List.findSome?_singleton, Root.lookup,
      Bundle.get?_ofList, Option.map_map, Function.comp_def]

/-- Along a bundle alone, a name opens what was added last under any spelling of it, unless it climbs
out. The bundle lists each name once. Names without a colon are one name just when they lead the
same way, and end alike if any names are left. -/
theorem opens_last_added (label : String) (entries : List (String × Bytes)) (q : String) (id : Nat)
    (w : World) :
    ((of q ⟨id, ⟨[.bundle (.ofList label entries)]⟩⟩).resource.openStream w).1 =
      (match if climbsOut (plainName q) then none
          else entries.reverse.find? fun e => plainName e.1 = plainName q with
        | some (_, data) => .ok (.ofBytes data)
        | none => .error (.notFound s!"class path resource [{plainName q}]")) ∧
    (Bundle.ofList label entries).size = (entries.map fun e => plainName e.1).dedup.length ∧
    (Bundle.ofList label entries).names.Nodup ∧
    (∀ name, name ∈ (Bundle.ofList label entries).names ↔ ∃ e ∈ entries, plainName e.1 = name) ∧
    ∀ n, ':' ∉ q.toList → ':' ∉ n.toList → (plainName q = plainName n ↔
      trail q = trail n ∧ (endsOpen q = endsOpen n ∨ trail q = [])) := by
  refine ⟨?_, Bundle.size_ofList label entries, Bundle.nodup_names label entries,
    fun name => Bundle.mem_names_ofList, fun n => plainName_eq_iff⟩
  have hl := lookup_of_list label entries q id w.disk
  generalize (if climbsOut (plainName q) then none
    else entries.reverse.find? fun e => plainName e.1 = plainName q) = found at hl ⊢
  cases found with
  | none => rw [(absent_of_lookup hl).openStream, description_of]
  | some e => exact (bundled_of_lookup hl).openStream

/-- Two spellings of one name, and a name that climbs out. -/
def spelled : List (String × Bytes) :=
  [("/a/./x", [0x61]), ("a\\\\b/..\\x", [0x62]), ("..\\x", [0x63])]

/-- A third spelling opens what was added under the second. -/
theorem opens_last_added_spelled :
    ':' ∉ "/../a//x".toList ∧ ':' ∉ "a\\\\b/..\\x".toList ∧
    plainName "/../a//x" = plainName "a\\\\b/..\\x" ∧
    ((of "/../a//x" ⟨0, ⟨[.bundle (.ofList "spelled" spelled)]⟩⟩).resource.openStream fileWorld).1 =
      .ok (.ofBytes [0x62]) ∧
    (Bundle.ofList "spelled" spelled).size = 2 := by
  have hq : ':' ∉ "/../a//x".toList := by decide
  have hn : ':' ∉ "a\\\\b/..\\x".toList := by decide
  obtain ⟨hopen, hsize, -, -, hname⟩ := opens_last_added "spelled" spelled "/../a//x" 0 fileWorld
  exact ⟨hq, hn, (hname _ hq hn).2 (by decide), hopen.trans (by decide), hsize.trans (by decide)⟩

end ClassPathHandle

end Resources
