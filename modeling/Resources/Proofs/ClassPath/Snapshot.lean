import Resources.Proofs.ClassPath.Bundle
import Resources.Proofs.Disk.Tree
import Resources.Proofs.Handle.Readable

/-! A directory and a bundle of all files below it. A name leads to the same content in both, as long
as the path of the file is one that the disk looks at. -/
namespace Resources

open Resources.Path

variable {d : Disk} {l : Location} {dir : FilePath} {entries : List (String × Bytes)}
  {ss : List Segment} {b : Bytes} {n name label : String} {c : Context}

/-! ### Paths below a directory -/

/-- All that lies below a directory has names that are text without a backslash or a colon. -/
def PlainTree (d : Disk) (l : Location) : Prop :=
  ∀ below, d.node? (below ++ l) ≠ none → ∀ name ∈ below,
    Disk.FileName name ∧ ∃ s : Segment, name = Utf8.encode s ∧ '\\' ∉ s ∧ ':' ∉ s

/-- The entries are the files below a directory, each under its path from there. -/
def Snapshot (d : Disk) (l : Location) (entries : List (String × Bytes)) : Prop :=
  ∀ name data, (name, data) ∈ entries ↔ ∃ ss : List Segment,
    name = .ofList (List.intercalate ['/'] ss) ∧
      ∃ n, d.node? ((ss.map Utf8.encode).reverse ++ l) = some (.file n) ∧ (d.body n).content = data

/-- Is a name one that the disk can look at below a directory? -/
def InReach (dir : FilePath) (name : String) : Prop :=
  (Root.candidate dir name).bytes.length < Disk.pathLimit

/-- The names on a path below a directory. -/
structure PlainNames (ss : List Segment) : Prop where
  ne_nil : ss ≠ []
  fileName : ∀ s ∈ ss, Disk.FileName (Utf8.encode s)
  no_backslash : ∀ s ∈ ss, '\\' ∉ s
  no_colon : ∀ s ∈ ss, ':' ∉ s

theorem plainNames_of_file {k : Nat} (ht : PlainTree d l) (hl : d.node? l = some .directory)
    (hn : d.node? ((ss.map Utf8.encode).reverse ++ l) = some (.file k)) : PlainNames ss := by
  have hplain : ∀ s ∈ ss, Disk.FileName (Utf8.encode s) ∧ '\\' ∉ s ∧ ':' ∉ s := by
    intro s hs
    have hmem : Utf8.encode s ∈ (ss.map Utf8.encode).reverse := by
      simpa using ⟨s, hs, rfl⟩
    obtain ⟨hfile, t, hst, hback, hcolon⟩ := ht _ (hn ▸ Option.some_ne_none _) _ hmem
    obtain rfl := Utf8.encode_inj.1 hst
    exact ⟨hfile, hback, hcolon⟩
  refine ⟨?_, fun s hs => (hplain s hs).1, fun s hs => (hplain s hs).2.1,
    fun s hs => (hplain s hs).2.2⟩
  rintro rfl
  simp [hl] at hn

namespace PlainNames

theorem ordinary (h : PlainNames ss) : ∀ s ∈ ss, Ordinary s := by
  intro s hs
  have hf := h.fileName s hs
  refine ⟨?_, ?_, ?_⟩
  · rintro rfl
    exact hf.ne_nil rfl
  · rintro rfl
    exact hf.ne_here rfl
  · rintro rfl
    exact hf.ne_up rfl

theorem segments (h : PlainNames ss) : segments (List.intercalate ['/'] ss) = ss := by
  apply segments_intercalate
  · intro s hs hslash
    exact (h.fileName s hs).no_slash (FilePath.slash_mem_encode.2 hslash)
  · exact h.ne_nil

theorem not_mem (h : PlainNames ss) {a : Char} (ha : a ≠ '/') (hn : ∀ s ∈ ss, a ∉ s) :
    a ∉ List.intercalate ['/'] ss := by
  rw [mem_iff_mem_segment ha, h.segments]
  rintro ⟨s, hs, hm⟩
  exact hn s hs hm

theorem nul_not_mem (h : PlainNames ss) : 0 ∉ Utf8.encode (List.intercalate ['/'] ss) := by
  rw [FilePath.nul_mem_encode]
  apply h.not_mem (by decide)
  intro s hs hm
  exact (h.fileName s hs).no_nul (FilePath.nul_mem_encode.2 hm)

/-- The path of a file below a directory is a plain name. -/
theorem plainName_eq (h : PlainNames ss) : plainName (.ofList (List.intercalate ['/'] ss)) =
    .ofList (List.intercalate ['/'] ss) := by
  have hback := h.not_mem (by decide) h.no_backslash
  have hcolon := h.not_mem (by decide) h.no_colon
  have hsegments := h.segments
  have hordinary := h.ordinary
  generalize List.intercalate ['/'] ss = q at *
  have hrest : rest q = q := by rw [rest_of_no_colon hcolon, unify_eq_self hback]
  have hup : up ∉ ss := fun hu => (hordinary up hu).2.2 rfl
  have hroot : rooted q ≠ true := by
    intro hr
    rw [rooted_eq, hrest, beq_iff_eq] at hr
    obtain ⟨r, rfl⟩ := List.head?_eq_some_iff.1 hr
    rw [segments_slash_cons] at hsegments
    exact (hordinary [] (by simp [← hsegments])).1 rfl
  rw [plainName_eq_self_iff, String.toList_ofList, cleanText_eq_self_iff, hrest, hsegments]
  refine ⟨⟨hback, ⟨hback, ?_, ?_, ?_⟩, fun _ => hup⟩, fun hd => hroot hd.2⟩
  · rw [hsegments]
    exact fun hh => (hordinary here hh).2.1 rfl
  · rw [hsegments]
    intro hnil
    exact (hordinary [] (List.mem_of_mem_tail (List.dropLast_subset _ hnil))).1 rfl
  · rw [hsegments]
    apply List.pairwise_of_forall_mem_list
    rintro s - t ht - rfl
    exact hup ht

end PlainNames

/-! ### The same content -/

/-- A bundle of the files below a directory holds them under their paths and nothing else. -/
theorem get?_snapshot (hl : d.node? l = some .directory) (ht : PlainTree d l)
    (hs : Snapshot d l entries) :
    (Bundle.ofList label entries).get? name = some b ↔ (name, b) ∈ entries := by
  have hplain : ∀ e ∈ entries, plainName e.1 = e.1 := by
    intro e he
    obtain ⟨ss, hname, n, hn, -⟩ := (hs e.1 e.2).1 he
    rw [hname]
    exact (plainNames_of_file ht hl hn).plainName_eq
  have hunique : ∀ b', (name, b) ∈ entries → (name, b') ∈ entries → b' = b := by
    intro b' hb hb'
    obtain ⟨ss, hname, n, hn, hdata⟩ := (hs name b).1 hb
    obtain ⟨ss', hname', n', hn', hdata'⟩ := (hs name b').1 hb'
    have hsame : ss = ss' := by
      have htext := String.ofList_injective (hname.symm.trans hname')
      rw [← (plainNames_of_file ht hl hn).segments, ← (plainNames_of_file ht hl hn').segments,
        htext]
    subst hsame
    rw [hn] at hn'
    cases hn'
    exact hdata'.symm.trans hdata
  rw [Bundle.get?_ofList]
  constructor
  · intro h
    obtain ⟨e, he, rfl⟩ := Option.map_eq_some_iff.1 h
    have hmem : e ∈ entries := List.mem_reverse.1 (List.mem_of_find?_eq_some he)
    have hname : plainName e.1 = name := by simpa using List.find?_some he
    rw [hplain e hmem] at hname
    rwa [← hname]
  · intro h
    have hfound : ((entries.reverse.find? fun e => plainName e.1 = name)).isSome = true := by
      rw [List.find?_isSome]
      exact ⟨(name, b), List.mem_reverse.2 h, by simpa using hplain _ h⟩
    obtain ⟨e, he⟩ := Option.isSome_iff_exists.1 hfound
    have hmem : e ∈ entries := List.mem_reverse.1 (List.mem_of_find?_eq_some he)
    have hname : plainName e.1 = name := by simpa using List.find?_some he
    rw [hplain e hmem] at hname
    rw [he, Option.map_some, hunique e.2 h (hname ▸ hmem)]

/-- All segments of a name without a colon that stays below its root are names, and at most one
empty segment stands behind them. -/
theorem segments_plainName_of_no_colon (hn : ':' ∉ n.toList)
    (hclimb : climbsOut (plainName n) = false) :
    segments (plainName n).toList = names n.toList ++ gap n.toList ∧
      ∀ s ∈ names n.toList, Ordinary s := by
  have hsegments := segments_plainName_of_no_drive (drive_of_no_colon hn)
  obtain ⟨k, ns, hk, ho, -⟩ := names_shape n.toList
  cases k with
  | zero => exact ⟨hsegments, by simpa [hk] using ho⟩
  | succ k =>
    rw [hk] at hsegments
    exact absurd hclimb (by simp [climbsOut_of_segments hsegments])

/-- The walk along a name ends at a file only if the names on it lead there and nothing stands
behind them. -/
theorem names_of_follow {l' : Location} {k : Nat} {p : List Char}
    (ho : ∀ s ∈ names p, Ordinary s)
    (hf : d.follow l ((names p ++ gap p).map Utf8.encode) = .ok l')
    (hl' : d.node? l' = some (.file k)) :
    gap p = [] ∧ l' = ((names p).map Utf8.encode).reverse ++ l := by
  rw [List.map_append] at hf
  obtain ⟨m, hm, hgap⟩ := Disk.follow_append.1 hf
  have hg : gap p = [] := by
    rcases gap_cases p with ⟨-, hg⟩ | ⟨-, hg⟩
    · rw [hg] at hgap
      obtain ⟨rfl, hdir⟩ := Disk.enter_segment_idle (Or.inl rfl) (Disk.follow_singleton.1 hgap)
      simp [hdir] at hl'
    · exact hg
  obtain rfl : m = l' := by simpa [hg] using hgap
  refine ⟨hg, ?_⟩
  rw [Disk.follow_ordinary (fun s hs => Or.inr (ho s hs)) hm, List.filter_eq_self.2]
  simpa using ho

/-- A file at a name below the directory is an entry under that name, and the other way round. -/
theorem mem_entries_iff_follow (hl : d.node? l = some .directory) (ht : PlainTree d l)
    (hs : Snapshot d l entries) (hn : ':' ∉ n.toList)
    (hclimb : climbsOut (plainName n) = false) :
    (plainName n, b) ∈ entries ↔ 0 ∉ (FilePath.ofString (plainName n)).bytes ∧ ∃ l' k,
      d.follow l (FilePath.ofString (plainName n)).segments = .ok l' ∧
        d.node? l' = some (.file k) ∧ (d.body k).content = b := by
  rw [FilePath.ofString_eq, FilePath.segments_ofText, FilePath.bytes_ofText]
  constructor
  · intro hb
    obtain ⟨ss, hname, k, hk, hdata⟩ := (hs _ _).1 hb
    have hplain := plainNames_of_file ht hl hk
    rw [hname, String.toList_ofList, hplain.segments]
    refine ⟨hplain.nul_not_mem, _, k, Disk.follow_of_node? ?_ (hk ▸ Option.some_ne_none _), hk, hdata⟩
    intro name hmem
    obtain ⟨s, hs, rfl⟩ := List.mem_map.1 hmem
    exact hplain.fileName s hs
  · rintro ⟨-, l', k, hf, hk, hdata⟩
    obtain ⟨hsegments, ho⟩ := segments_plainName_of_no_colon hn hclimb
    rw [hsegments] at hf
    obtain ⟨hg, rfl⟩ := names_of_follow ho hf hk
    rw [hg, List.append_nil] at hsegments
    refine (hs _ _).2 ⟨names n.toList, ?_, k, hk, hdata⟩
    rw [← hsegments, intercalate_segments, String.ofList_toList]

/-- What a name without a colon leads to below a directory is the entry of that name, as long as
the path to it can be looked at. -/
theorem content?_candidate (hp : d.place dir = .ok l) (hl : d.node? l = some .directory)
    (hnul : 0 ∉ dir.bytes) (ht : PlainTree d l) (hs : Snapshot d l entries)
    (hn : ':' ∉ n.toList) (hclimb : climbsOut (plainName n) = false) :
    d.content? (Root.candidate dir (plainName n)) = some b ↔
      (plainName n, b) ∈ entries ∧ InReach dir (plainName n) := by
  unfold InReach
  rw [Disk.content?_eq_some]
  by_cases hempty : plainName n = ""
  · -- the empty name is the directory itself, and no file has it
    have hcandidate : Root.candidate dir (plainName n) = dir := if_pos hempty
    rw [hcandidate]
    refine iff_of_false ?_ ?_
    · rintro ⟨k, hk, -⟩
      obtain ⟨l', hl', hk⟩ := Disk.find_eq_ok.1 hk
      obtain rfl : l' = l := Except.ok.inj ((Disk.resolve_eq_ok.1 hl').2.2.2.symm.trans hp)
      simp [hl] at hk
    · rintro ⟨hb, -⟩
      obtain ⟨ss, hname, k, hk, -⟩ := (hs _ _).1 hb
      have hplain := plainNames_of_file ht hl hk
      have hsegments := hplain.segments
      have hnil : List.intercalate ['/'] ss = [] := by
        simpa using (congrArg String.toList (hname.symm.trans hempty))
      rw [hnil, segments_nil] at hsegments
      exact (hplain.fileName [] (by simp [← hsegments])).ne_nil rfl
  · have hcandidate : Root.candidate dir (plainName n) = dir.join (.ofString (plainName n)) :=
      if_neg hempty
    have hroot : (FilePath.ofString (plainName n)).isRooted = false := by
      simpa [FilePath.ofString_eq] using name_not_rooted hclimb
    have hbytes : (FilePath.ofString (plainName n)).bytes ≠ [] := by
      simpa [FilePath.ofString_eq, FilePath.encode_eq_nil] using hempty
    rw [hcandidate, mem_entries_iff_follow hl ht hs hn hclimb]
    constructor
    · rintro ⟨k, hk, hdata⟩
      obtain ⟨hlen, hnul', l', hf, hk⟩ := (Disk.find_join hroot hbytes hp hnul).1 hk
      exact ⟨⟨hnul', l', k, hf, hk, hdata⟩, hlen⟩
    · rintro ⟨⟨hnul', l', k, hf, hk, hdata⟩, hlen⟩
      exact ⟨k, (Disk.find_join hroot hbytes hp hnul).2 ⟨hlen, hnul', l', hf, hk⟩, hdata⟩

namespace ClassPathHandle

theorem content?_directory (hc : c.classPath.roots = [.directory dir]) :
    (of n c).content? d = if climbsOut (plainName n) then none
      else d.content? (Root.candidate dir (plainName n)) := by
  rw [content?, lookup_of, ClassPath.lookup, hc]
  cases climbsOut (plainName n) with
  | true => rfl
  | false =>
    simp only [Bool.false_eq_true, if_false, List.findSome?_cons, List.findSome?_nil, Root.lookup]
    cases hh : d.holds (Root.candidate dir (plainName n)) with
    | true => rfl
    | false =>
      rw [Disk.content?_of_absent hh]
      rfl

theorem content?_bundle {bundle : Bundle} (hc : c.classPath.roots = [.bundle bundle]) :
    (of n c).content? d =
      if climbsOut (plainName n) then none else bundle.get? (plainName n) := by
  rw [content?, lookup_of, ClassPath.lookup, hc]
  cases climbsOut (plainName n) with
  | true => rfl
  | false =>
    simp only [Bool.false_eq_true, if_false, List.findSome?_cons, List.findSome?_nil, Root.lookup]
    cases bundle.get? (plainName n) <;> rfl

/-- What is read below a directory is read from a bundle of its files as well. What is read from the
bundle is read below the directory as long as its path is not too long to be looked at. -/
theorem reads_as_snapshot {w : World} {c' : Context} (hp : w.disk.place dir = .ok l)
    (hl : w.disk.node? l = some .directory) (hnul : 0 ∉ dir.bytes) (ht : PlainTree w.disk l)
    (hs : Snapshot w.disk l entries) (hn : ':' ∉ n.toList)
    (hc : c.classPath.roots = [.directory dir])
    (hc' : c'.classPath.roots = [.bundle (.ofList label entries)]) :
    (((of n c).resource.readable w).1 = true ↔
      ((of n c').resource.readable w).1 = true ∧ InReach dir (plainName n)) ∧
    ∀ b, ((of n c).resource.readBytes w).1 = .ok b ↔
      ((of n c').resource.readBytes w).1 = .ok b ∧ InReach dir (plainName n) := by
  have hcontent : ∀ b, (of n c).content? w.disk = some b ↔
      (of n c').content? w.disk = some b ∧ InReach dir (plainName n) := by
    intro b
    rw [content?_directory hc, content?_bundle hc']
    cases hclimb : climbsOut (plainName n) with
    | true => simp
    | false =>
      simp only [Bool.false_eq_true, if_false]
      rw [content?_candidate hp hl hnul ht hs hn hclimb, get?_snapshot hl ht hs]
  have hdir : (of n c).resource.Reads w ((of n c).content? w.disk) := reads _
  have hbundle : (of n c').resource.Reads w ((of n c').content? w.disk) := reads _
  constructor
  · rw [hdir.readable, hbundle.readable, Option.isSome_iff_exists, Option.isSome_iff_exists]
    simp only [hcontent, exists_and_right]
  · intro b
    rw [hdir.reads, hbundle.reads, hcontent]

/-! ### A directory and its bundle -/

def dataDir : Bytes := Utf8.encode "data".toList

def subDir : Bytes := Utf8.encode "sub".toList

def note : Bytes := Utf8.encode "f.txt".toList

/-- A disk with one file, two directories below the root. -/
def shelf : World where
  disk :=
    { entries := [([dataDir], .directory), ([subDir, dataDir], .directory),
        ([note, subDir, dataDir], .file 0)]
      bodies := [⟨[0x61], .epoch⟩]
      home := [] }
  web := ⟨[], false⟩
  sent := []
  built := []
  taken := []
  next := 2

def shelfEntries : List (String × Bytes) := [("sub/f.txt", [0x61])]

/-- The upper directory, with slashes behind its name. -/
def shelfDir (slashes : Nat) : FilePath := ⟨dataDir ++ List.replicate slashes FilePath.slash⟩

theorem place_shelfDir (slashes : Nat) : shelf.disk.place (shelfDir slashes) = .ok [dataDir] :=
  Disk.place_append_slashes (List.cons_ne_nil _ _)
    (show shelf.disk.place ⟨dataDir⟩ = .ok [dataDir] by decide) rfl slashes

theorem nul_not_mem_shelfDir (slashes : Nat) : 0 ∉ (shelfDir slashes).bytes := by
  have hdata : 0 ∉ dataDir := by decide
  simp [shelfDir, hdata, FilePath.slash]

theorem length_shelfDir (slashes : Nat) : (shelfDir slashes).bytes.length = 4 + slashes := by
  have hdata : dataDir.length = 4 := by decide
  simp [shelfDir, hdata]

theorem below_shelf {below : List Bytes} {n : Node}
    (h : shelf.disk.node? (below ++ [dataDir]) = some n) :
    below = [] ∧ n = .directory ∨ below = [subDir] ∧ n = .directory ∨
      below = [note, subDir] ∧ n = .file 0 := by
  rcases Disk.mem_entries_of_node? h with hb | hb
  · simp at hb
  · simp only [shelf, List.mem_cons, Prod.mk.injEq, List.not_mem_nil, or_false] at hb
    rcases hb with ⟨hb, rfl⟩ | ⟨hb, rfl⟩ | ⟨hb, rfl⟩
    · exact Or.inl ⟨by simpa using hb, rfl⟩
    · have hb : below ++ [dataDir] = [subDir] ++ [dataDir] := hb
      exact Or.inr (Or.inl ⟨List.append_cancel_right hb, rfl⟩)
    · have hb : below ++ [dataDir] = [note, subDir] ++ [dataDir] := hb
      exact Or.inr (Or.inr ⟨List.append_cancel_right hb, rfl⟩)

theorem plainTree_shelf : PlainTree shelf.disk [dataDir] := by
  have hsub : Disk.FileName subDir := by constructor <;> decide
  have hnote : Disk.FileName note := by constructor <;> decide
  intro below h name hname
  obtain ⟨n, hn⟩ := Option.ne_none_iff_exists'.1 h
  have hnames : name = subDir ∨ name = note := by
    rcases below_shelf hn with ⟨rfl, -⟩ | ⟨rfl, -⟩ | ⟨rfl, -⟩
    · simp at hname
    · exact Or.inl (by simpa using hname)
    · exact Or.symm (by simpa using hname)
  rcases hnames with rfl | rfl
  · exact ⟨hsub, "sub".toList, rfl, by decide, by decide⟩
  · exact ⟨hnote, "f.txt".toList, rfl, by decide, by decide⟩

theorem snapshot_shelf : Snapshot shelf.disk [dataDir] shelfEntries := by
  intro name data
  simp only [shelfEntries, List.mem_cons, Prod.mk.injEq, List.not_mem_nil, or_false]
  constructor
  · rintro ⟨rfl, rfl⟩
    exact ⟨["sub".toList, "f.txt".toList], rfl, 0, rfl, rfl⟩
  · rintro ⟨ss, rfl, n, hn, rfl⟩
    rcases below_shelf hn with ⟨-, h⟩ | ⟨-, h⟩ | ⟨hss, h⟩
    · cases h
    · cases h
    · cases h
      have hss : ss.map Utf8.encode = ["sub".toList, "f.txt".toList].map Utf8.encode :=
        List.reverse_injective hss
      have hinj : Function.Injective Utf8.encode := fun _ _ => Utf8.encode_inj.1
      obtain rfl := List.map_injective_iff.2 hinj hss
      exact ⟨rfl, rfl⟩

def onShelf (slashes : Nat) : Context := ⟨0, ⟨[.directory (shelfDir slashes)]⟩⟩

def inBundle : Context := ⟨1, ⟨[.bundle (.ofList "data" shelfEntries)]⟩⟩

/-- A name with climbs and empty segments in it is read from both. -/
theorem reads_as_snapshot_shelf :
    ((of "\\x/..//sub/./f.txt" (onShelf 1)).resource.readBytes shelf).1 = .ok [0x61] := by
  have hbundle : ((of "\\x/..//sub/./f.txt" inBundle).resource.readBytes shelf).1 = .ok [0x61] := by
    decide
  have hreach : InReach (shelfDir 1) (plainName "\\x/..//sub/./f.txt") := by
    unfold InReach
    decide
  obtain ⟨-, hreads⟩ := reads_as_snapshot (n := "\\x/..//sub/./f.txt") (c := onShelf 1)
    (place_shelfDir 1) rfl (nul_not_mem_shelfDir 1) plainTree_shelf snapshot_shelf (by decide)
    rfl (rfl : inBundle.classPath.roots = _)
  exact (hreads _).2 ⟨hbundle, hreach⟩

/-- The path of the directory is so long that no file below it can be looked at by it, while the
bundle of its files serves them all. -/
theorem snapshot_serves_more :
    shelf.disk.find (shelfDir 4090) = .ok .directory ∧
      shelf.disk.place (shelfDir 4090) = .ok [dataDir] ∧
      PlainTree shelf.disk [dataDir] ∧ Snapshot shelf.disk [dataDir] shelfEntries ∧
      ':' ∉ "sub/f.txt".toList ∧
      ((of "sub/f.txt" inBundle).resource.readable shelf).1 = true ∧
      ((of "sub/f.txt" (onShelf 4090)).resource.readable shelf).1 = false := by
  have hplain : plainName "sub/f.txt" = "sub/f.txt" := by decide
  have hreads : (of "sub/f.txt" (onShelf 4090)).resource.Reads shelf
      ((of "sub/f.txt" (onShelf 4090)).content? shelf.disk) := reads _
  have hcontent : (of "sub/f.txt" (onShelf 4090)).content? shelf.disk = none := by
    rw [content?_directory rfl, if_neg (by decide), Option.eq_none_iff_forall_ne_some]
    intro b hb
    obtain ⟨-, hreach⟩ := (content?_candidate (place_shelfDir 4090) rfl (nul_not_mem_shelfDir 4090)
      plainTree_shelf snapshot_shelf (by decide) (by decide)).1 hb
    have hlong : (shelfDir 4090).bytes.length + (FilePath.ofString "sub/f.txt").bytes.length ≤
        ((shelfDir 4090).join (.ofString "sub/f.txt")).bytes.length :=
      Disk.length_le_length_join (by decide)
    have hname : (FilePath.ofString "sub/f.txt").bytes.length = 9 := by decide
    rw [InReach, hplain, Root.candidate, if_neg (by decide), Disk.pathLimit] at hreach
    rw [length_shelfDir] at hlong
    omega
  refine ⟨?_, place_shelfDir 4090, plainTree_shelf, snapshot_shelf, by decide, by decide, ?_⟩
  · refine Disk.find_eq_ok.2 ⟨[dataDir], Disk.resolve_eq_ok.2 ⟨nul_not_mem_shelfDir 4090,
      List.cons_ne_nil _ _, ?_, place_shelfDir 4090⟩, rfl⟩
    rw [length_shelfDir, Disk.pathLimit]
    omega
  · rw [hreads.readable, hcontent]
    rfl

end ClassPathHandle

end Resources
