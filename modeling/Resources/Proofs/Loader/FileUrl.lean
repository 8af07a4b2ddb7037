import Resources.Loader
import Resources.Proofs.Disk.Folded
import Resources.Proofs.Handle.Readable
import Resources.Proofs.Path.Fixed
import Resources.Proofs.Text.Decode
import Resources.Proofs.Url.ReadBack

/-! Files loaded by the URLs that handles give. The file is the same, but where a slash comes or goes
at the end of the path, a drive is climbed over, or a backslash is read as a slash. -/
namespace Resources

open FilePath (PlainName foldedNames ofNames)
open Url (readBack undisturbed)

variable {names ns : List Bytes} {p q : FilePath} {l : Loader} {w : World} {n : Node}

/-! ### From names to a handle -/

/-- The text of the URL of names is loaded as the file at the path that is read back. -/
theorem Loader.handle_ofNames (hnames : ∀ name ∈ names, name ≠ [] ∧ name ≠ FilePath.here)
    (h : undisturbed [] names = true) (l : Loader) :
    l.handle (Url.ofNames names).text = .file (.of (readBack names)) := by
  obtain ⟨u, hu, hscheme, hpath⟩ := Url.filePath?_parse hnames h
  have hmark : classPathMark.isPrefixOf (Url.ofNames names).text.toList = false := by
    rw [Url.text, String.toList_ofList, Url.chars_ofNames]
    rfl
  have hurl : url? (Url.ofNames names).text = some u := by
    rw [url?, hu]
    refine Option.filter_eq_some_iff.2 ⟨rfl, ?_⟩
    rw [hscheme]
    decide
  rw [handle, hmark, hurl]
  simp only [hpath]

/-- The bar of a drive comes back behind an authority, and behind a single slash it does not. -/
example (l : Loader) : l.handle "file:///C|/w" = .file (.of (.ofString "/C|/w")) ∧
    l.handle "file:/C|/w" = .file (.of (.ofString "/C:/w")) := ⟨rfl, rfl⟩

/-- A path in its simplest spelling is kept, unless it is text and has a backslash. -/
theorem FileHandle.path_of {g : List Bytes} (hs : q.segments = [] :: ns ++ g)
    (hg : g = [] ∨ g = [[]])
    (hn : ∀ name ∈ ns, name ≠ [] ∧ name ≠ FilePath.here ∧ name ≠ FilePath.up)
    (hback : q.text? ≠ none → 0x5C ∉ q.bytes) : (FileHandle.of q).path = q := by
  unfold FileHandle.of
  cases ht : q.text? with
  | none => rfl
  | some t =>
    obtain ⟨cs, hcs, rfl⟩ := Option.map_eq_some_iff.1 ht
    obtain rfl : q = .ofText cs := congrArg FilePath.mk (Utf8.decode?_eq_some.1 hcs)
    rw [FilePath.segments_ofText, List.cons_append, List.map_eq_cons_iff] at hs
    obtain ⟨first, rest, hseg, hfirst, hrest⟩ := hs
    obtain ⟨ss, gap, rfl, hss, hgap⟩ := List.map_eq_append_iff.1 hrest
    rw [FilePath.encode_eq_nil] at hfirst
    subst hfirst
    have hclean : Path.cleanText cs = cs := by
      apply Path.cleanText_of_names hseg
      · rcases hg with rfl | rfl
        · exact Or.inl (List.map_eq_nil_iff.1 hgap)
        · obtain ⟨s, r, rfl, hs, hr⟩ := List.map_eq_cons_iff.1 hgap
          rw [FilePath.encode_eq_nil.1 hs, List.map_eq_nil_iff.1 hr]
          exact Or.inr rfl
      · intro s hs
        obtain ⟨hne, hhere, hup⟩ := hn _ (hss ▸ List.mem_map_of_mem hs)
        exact ⟨fun h => hne (FilePath.encode_eq_nil.2 h), fun h => hhere (FilePath.encode_eq_here.2 h),
          fun h => hup (FilePath.encode_eq_up.2 h)⟩
      · intro hmem
        refine hback (by simp) ?_
        exact (Utf8.toUInt8_mem_encode (a := '\\') (by decide)).2 hmem
    simp [FilePath.ofString_eq, hclean]

theorem FileHandle.path_of_readBack
    (hnames : ∀ name ∈ names, name ≠ [] ∧ name ≠ FilePath.here ∧ FilePath.slash ∉ name)
    (hback : (readBack names).text? ≠ none → 0x5C ∉ (readBack names).bytes) :
    (FileHandle.of (readBack names)).path = readBack names := by
  obtain ⟨g, hg, hs⟩ := Url.segments_readBack fun name hname => (hnames name hname).2.2
  refine path_of hs hg (fun name hname => ?_) hback
  obtain ⟨hmem, hup⟩ := FilePath.mem_foldedNames hname
  exact ⟨(hnames name hmem).1, (hnames name hmem).2.1, hup⟩

theorem FileHandle.path_of_plain (h : ∀ name ∈ names, PlainName name) :
    (FileHandle.of (readBack names)).path = readBack names := by
  apply path_of_readBack
  · exact fun name hname => ⟨(h name hname).ne_nil, (h name hname).ne_here, (h name hname).no_slash⟩
  · intro _
    have hback : (0x5C : UInt8) ∉ (ofNames names).bytes := by
      rw [FilePath.mem_ofNames (by decide)]
      rintro ⟨name, hname, hmem⟩
      exact (h name hname).no_backslash hmem
    rcases Url.readBack_of_no_up (FilePath.up_not_mem_of_plain h) with ⟨-, hq⟩ | ⟨-, hq⟩
    · rw [hq]
      simpa [FilePath.slashed, FilePath.slash] using hback
    · rwa [hq]

/-- What is found at a rooted path is found where its URL leads, if it is a directory or the path
does not end like a drive. -/
theorem Disk.find_readBack {d : Disk} (hr : p.isRooted = true) (hf : d.find p = .ok n)
    (hend : (ofNames (foldedNames p.names)).EndsInDrive → n = .directory ∧
      (ofNames (foldedNames p.names)).slashed.bytes.length < pathLimit) :
    d.find (readBack p.names) = .ok n := by
  have hfolded := find_folded hr hf
  have hslashed : n = .directory →
      (ofNames (foldedNames p.names)).slashed.bytes.length < pathLimit →
        d.find (ofNames (foldedNames p.names)).slashed = .ok n := fun hn hlen =>
    (find_slashed FilePath.ofNames_ne_nil).2 ⟨hfolded, hn, hlen⟩
  by_cases hup : p.names.getLast? = some FilePath.up ∧ foldedNames p.names ≠ []
  · rw [Url.readBack_slashed (Or.inl hup)]
    apply hslashed (directory_of_last_up hr hf hup.1)
    obtain ⟨l, hl, -⟩ := find_eq_ok.1 hf
    exact (FilePath.length_slashed_ofNames_le hr hup.1 hup.2).trans_lt (resolve_eq_ok.1 hl).2.2.1
  · by_cases hdrive : (ofNames (foldedNames p.names)).EndsInDrive
    · rw [Url.readBack_slashed (Or.inr hdrive)]
      exact hslashed (hend hdrive).1 (hend hdrive).2
    · rw [Url.readBack_plain (not_or.2 ⟨hup, hdrive⟩)]
      exact hfolded

/-! ### There and back -/

/-- The same is there, and reads as the same. -/
structure Resource.SameReading (r r' : Resource) (w : World) : Prop where
  present : (r.present w).1 = (r'.present w).1
  reads (b : Bytes) : (r.readBytes w).1 = .ok b ↔ (r'.readBytes w).1 = .ok b

theorem Resource.SameReading.symm {r r' : Resource} (h : r.SameReading r' w) :
    r'.SameReading r w :=
  ⟨h.present.symm, fun b => (h.reads b).symm⟩

theorem FileHandle.sameReading {h h' : FileHandle} (hh : w.disk.holds h.path = w.disk.holds h'.path)
    (hc : w.disk.content? h.path = w.disk.content? h'.path) :
    h.resource.SameReading h'.resource w := by
  constructor
  · exact hh
  · intro b
    rw [(reads h).reads, (reads h').reads, hc]

/-- Files with one slash more are read alike just where there is a directory or nothing. -/
theorem FileHandle.sameReading_slashed {h g : FileHandle} (hne : h.path.bytes ≠ [])
    (hs : g.path = h.path.slashed) :
    h.resource.SameReading g.resource w ↔ w.disk.BearsSlash h.path := by
  constructor
  · intro hsame
    have hpresent : w.disk.holds h.path = w.disk.holds g.path := hsame.present
    rw [hs] at hpresent
    exact (Disk.bearsSlash_iff hne).2 hpresent.symm
  · intro hbears
    apply sameReading
    · rw [hs, (Disk.bearsSlash_iff hne).1 hbears]
    · rw [hs, Disk.content?_of_bearsSlash hne hbears]

/-- The URL of a rooted path leads to its names, with a slash behind them where they end like a
drive. -/
theorem FileHandle.loaded_by_url {h : FileHandle} (hr : h.path.isRooted = true)
    (hn : ∀ name ∈ h.path.names, PlainName name) (l : Loader) (w : World) :
    ∃ u q, (h.resource.url w).1 = .ok u ∧ l.handle u.text = .file (.of q) ∧
      (FileHandle.of q).path = q ∧ q.isRooted = true ∧ q.names = h.path.names ∧
      (((ofNames h.path.names).EndsInDrive ∧ q = (ofNames h.path.names).slashed) ∨
        (¬ (ofNames h.path.names).EndsInDrive ∧ q = ofNames h.path.names)) := by
  have hup := FilePath.up_not_mem_of_plain hn
  have hends := Url.readBack_of_no_up hup
  have hnames := FilePath.names_ofNames fun name hname =>
    ⟨(hn name hname).ne_nil, (hn name hname).ne_here, (hn name hname).no_slash⟩
  have hload := l.handle_ofNames
    (fun name hname => ⟨(hn name hname).ne_nil, (hn name hname).ne_here⟩)
    (Url.undisturbed_of_no_up hup)
  refine ⟨.ofNames h.path.names, readBack h.path.names, ?_, hload, path_of_plain hn, ?_, ?_, hends⟩
  · change h.url w.disk = _
    simp only [url, FilePath.absoluteNames_of_isRooted hr]
  · rcases hends with ⟨-, hq⟩ | ⟨-, hq⟩
    · rw [hq, FilePath.isRooted_slashed_ofNames]
    · rw [hq, FilePath.isRooted_ofNames]
  · rcases hends with ⟨-, hq⟩ | ⟨-, hq⟩
    · rw [hq, hnames.2]
    · rw [hq, hnames.1]

/-- A file is the one its URL leads to just where the slashes at their ends agree, and otherwise it is
read as that one just where there is a directory or nothing. -/
theorem FileHandle.sameReading_ends {h g : FileHandle} {base : FilePath} {drive : Prop}
    (hne : base.bytes ≠ []) (hp : h.path = base ∨ h.path = base.slashed)
    (hq : drive ∧ g.path = base.slashed ∨ ¬ drive ∧ g.path = base) :
    (g.path = h.path ↔ (h.path = base.slashed ↔ drive)) ∧
      (h.resource.SameReading g.resource w ↔
        (h.path = base.slashed ↔ drive) ∨ w.disk.BearsSlash base) := by
  have hslash : base ≠ base.slashed := by
    intro he
    have hlength := congrArg (fun p => p.bytes.length) he
    simp [FilePath.slashed] at hlength
  have hagree : g.path = h.path ↔ (h.path = base.slashed ↔ drive) := by
    rcases hq with ⟨hdrive, hq⟩ | ⟨hdrive, hq⟩
    · rw [hq, iff_true_right hdrive, eq_comm]
    · rw [hq, iff_false_right hdrive]
      exact ⟨fun he => he ▸ hslash, fun hnot => (hp.resolve_right hnot).symm⟩
  refine ⟨hagree, ?_⟩
  by_cases hiff : h.path = base.slashed ↔ drive
  · refine iff_of_true ?_ (Or.inl hiff)
    have he := hagree.2 hiff
    exact sameReading (by rw [he]) (by rw [he])
  · rw [or_iff_right hiff]
    rcases hp with hp | hp
    · have hdrive : drive := by
        by_contra hnot
        exact hiff (iff_of_false (hp ▸ hslash) hnot)
      have hq : g.path = h.path.slashed := by
        rw [hp]
        exact (hq.resolve_right fun hc => hc.1 hdrive).2
      rw [sameReading_slashed (hp ▸ hne) hq, hp]
    · have hdrive : ¬ drive := fun hd => hiff (iff_of_true hp hd)
      have hq : g.path = base := (hq.resolve_left fun hc => hdrive hc.1).2
      have hback := sameReading_slashed (w := w) (h := g) (g := h) (hq ▸ hne) (hq ▸ hp)
      rw [hq] at hback
      rw [← hback]
      exact ⟨Resource.SameReading.symm, Resource.SameReading.symm⟩

/-- Does a slash end the path just where its names end like a drive? -/
def FilePath.EndsAsRead (p : FilePath) : Prop :=
  p = (ofNames p.names).slashed ↔ (ofNames p.names).EndsInDrive

/-- What a file has in common with the file its URL leads to: the names, and the end of the path,
unless a slash comes or goes there. -/
structure FileHandle.LeadsTo (h h' : FileHandle) (w : World) : Prop where
  alike : (Handle.file h).Alike (.file h')
  same : h' = h ↔ h.path.EndsAsRead
  reads : h.resource.SameReading h'.resource w ↔
    h.path.EndsAsRead ∨ w.disk.BearsSlash (ofNames h.path.names)

theorem FileHandle.leadsTo_of_clean {t : String} (ht : t.toList.head? = some '/') (l : Loader)
    (w : World) : ∃ u h', ((FileHandle.of (.ofString t)).resource.url w).1 = .ok u ∧
      l.handle u.text = .file h' ∧ (FileHandle.of (.ofString t)).LeadsTo h' w := by
  have hpath : (FileHandle.of (.ofString t)).path = .ofText (Path.cleanText t.toList) := by
    rw [of_ofString, FilePath.ofString_eq, Path.toList_clean]
  have hplain := FilePath.plainName_of_clean ht
  have hcases := FilePath.ofText_clean_cases ht
  rw [← hpath] at hplain hcases
  have hr : (FileHandle.of (.ofString t)).path.isRooted = true := by
    rcases hcases with ⟨hp, -⟩ | ⟨hp, -⟩
    · rw [hp, FilePath.isRooted_ofNames]
    · rw [hp, FilePath.isRooted_slashed_ofNames]
  obtain ⟨u, q, hu, hl, hq, hqr, hqn, hends⟩ := loaded_by_url hr hplain l w
  rw [← hq] at hqr hqn hends
  have hreads := sameReading_ends (w := w) FilePath.ofNames_ne_nil (hcases.imp And.left And.left) hends
  refine ⟨u, .of q, hu, hl, ?_⟩
  constructor
  · exact ⟨hr.trans hqr.symm, hqn.symm⟩
  · exact ⟨fun he => hreads.1.1 (congrArg path he), fun hend => of_eq_of_path (hreads.1.2 hend)⟩
  · exact hreads.2

/-- Does the path come back from its URL? No drive may be climbed over, there is no backslash in what
is text, and what ends like a drive is a directory. -/
structure FilePath.ComesBack (p : FilePath) (d : Disk) : Prop where
  undisturbed : undisturbed [] p.names = true
  no_backslash : (readBack p.names).text? ≠ none → 0x5C ∉ (readBack p.names).bytes
  ends : (ofNames (foldedNames p.names)).EndsInDrive → d.find p = .ok .directory ∧
    (ofNames (foldedNames p.names)).slashed.bytes.length < Disk.pathLimit

/-- A hit on the disk is found again by its URL. -/
theorem ClassPathHandle.same_by_url {h : ClassPathHandle} (hl : h.lookup w.disk = some (.file p))
    (hh : w.disk.holds p = true) (hr : p.isRooted = true) (hp : p.ComesBack w.disk) (l : Loader) :
    ∃ u h', (h.resource.url w).1 = .ok u ∧ l.handle u.text = .file h' ∧
      h.resource.SameReading h'.resource w := by
  obtain ⟨n, hf⟩ := Disk.holds_iff.1 hh
  have hnames := FilePath.names_of_isRooted hr
  have hback := FileHandle.path_of_readBack hnames hp.no_backslash
  have hfind : w.disk.find (readBack p.names) = .ok n := by
    apply Disk.find_readBack hr hf
    intro hdrive
    obtain ⟨hdir, hlen⟩ := hp.ends hdrive
    exact ⟨Except.ok.inj (hf.symm.trans hdir), hlen⟩
  refine ⟨.ofNames p.names, .of (readBack p.names), ?_, ?_, ?_⟩
  · change h.url w.disk = _
    simp only [ClassPathHandle.url, hl, FilePath.absoluteNames_of_isRooted hr]
  · exact l.handle_ofNames (fun name hname => ⟨(hnames name hname).1, (hnames name hname).2.1⟩)
      hp.undisturbed
  · have hcontent : h.content? w.disk = w.disk.content? p := by rw [content?, hl]
    have hreads : h.resource.Reads w (h.content? w.disk) := reads h
    have hreads' := FileHandle.reads (w := w) (.of (readBack p.names))
    constructor
    · rw [(onDisk_of_lookup hl hh).present, FileHandle.present_of_find (hback.symm ▸ hfind)]
    · intro b
      rw [hreads.reads, hreads'.reads, hcontent, hback, Disk.content?, Disk.content?, hf, hfind]

theorem Root.isRooted_candidate {dir : FilePath} (hr : dir.isRooted = true) (name : String) :
    (candidate dir name).isRooted = true := by
  unfold candidate
  split
  · exact hr
  · cases hn : (FilePath.ofString name).isRooted with
    | true => rwa [FilePath.join, if_pos hn]
    | false =>
      rcases FilePath.join_cases (f := dir) hn with ⟨rfl, -⟩ | ⟨hjoin, -⟩
      · exact absurd hr (by decide)
      · rw [hjoin, hr]

namespace Loader

/-- Files in the root, and directories with names like drives and with a backslash. -/
def cupboardWorld : World where
  disk :=
    { entries := [([Utf8.encode "f".toList], .file 0), ([Utf8.encode "notes:".toList], .file 0),
        ([Utf8.encode "x".toList], .directory), ([Utf8.encode "C:".toList], .directory),
        ([Utf8.encode "a\\b".toList], .directory),
        ([Utf8.encode "w".toList, Utf8.encode "a\\b".toList], .file 0)]
      bodies := [⟨[0x61], .epoch⟩]
      home := [] }
  web := ⟨[], false⟩
  sent := []
  built := []
  taken := []
  next := 1

def cupboardLoader : Loader := ⟨none, ⟨0, .empty⟩, ⟨0, Settings.defaultTimeout⟩⟩

/-- A name on a class path of one directory. -/
def cupboardName (dir name : String) : ClassPathHandle := .of name ⟨0, ⟨[.directory (.ofString dir)]⟩⟩

/-- Does the URL of the resource lead to a file that is there when the resource is not, or the other
way round? -/
def Mislays (r : Resource) : Prop :=
  ∃ u h', (r.url cupboardWorld).1 = .ok u ∧ cupboardLoader.handle u.text = .file h' ∧
    (h'.resource.present cupboardWorld).1 = !(r.present cupboardWorld).1

end Loader

end Resources
