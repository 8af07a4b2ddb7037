import Resources.Handle.All
import Resources.Proofs.ClassPath.FirstRoot
import Resources.Proofs.Handle.File
import Resources.Proofs.Handle.Url

/-! What can be read is there. Files, class path names and bytes in memory have a content or none,
and all that is asked about the content is answered from it. -/
namespace Resources

variable {w w' : World}

namespace Resource

variable {r : Resource} {s : Stream} {b : Bytes} {f : Failure} {content : Option Bytes}

/-- A resource that answers as another does, and leaves it to the default whether it is readable. -/
def leavingReadable (r : Resource) : Resource where
  kind := r.kind
  description := r.description
  present := r.present
  url := r.url
  openStream := r.openStream
  lastModified := r.lastModified
  isOpen := r.isOpen
  isFile := r.isFile
  uri := r.uri
  file := r.file
  openChannel := r.openChannel
  contentLength := r.contentLength
  relative := r.relative
  fileName := r.fileName

/-- The answers about a content, or about none. -/
structure Reads (r : Resource) (w : World) (content : Option Bytes) : Prop where
  readable : (r.readable w).1 = content.isSome
  opens : (∃ s, (r.openStream w).1 = .ok s) ↔ content.isSome = true
  reads (b : Bytes) : (r.readBytes w).1 = .ok b ↔ content = some b
  length (b : Bytes) : content = some b → (r.contentLength w).1 = .ok b.length

theorem reads_some (hr : (r.readable w).1 = true) (ho : r.openStream w = (.ok s, w'))
    (hs : s.Flows) (hb : s.whole w'.disk = .ok b) (hl : (r.contentLength w).1 = .ok b.length) :
    r.Reads w (some b) := by
  have hread : (r.readBytes w).1 = .ok b := by
    rw [readBytes_of_open ho, Stream.take_none hs, hb]
    rfl
  constructor
  · exact hr
  · simp [ho]
  · simp [hread]
  · rintro _ ⟨⟩
    exact hl

theorem reads_none (hr : (r.readable w).1 = false) (ho : r.openStream w = (.error f, w')) :
    r.Reads w none := by
  constructor
  · exact hr
  · simp [ho]
  · simp [readBytes_of_open_error ho]
  · simp

/-- A resource whose content is that of the file at a path. -/
theorem reads_file {p : FilePath} (hr : (r.readable w).1 = w.disk.holdsFile p)
    (ho : ∀ n, w.disk.find p = .ok (.file n) → r.openStream w = (.ok (.file n 0), w))
    (hf : w.disk.content? p = none → ∃ f, r.openStream w = (.error f, w))
    (hl : ∀ n, w.disk.find p = .ok (.file n) →
      (r.contentLength w).1 = .ok (w.disk.body n).content.length) :
    r.Reads w (w.disk.content? p) := by
  rw [← Disk.isSome_content?] at hr
  cases hc : w.disk.content? p with
  | none =>
    obtain ⟨f, hopen⟩ := hf hc
    exact reads_none (by rw [hr, hc]; rfl) hopen
  | some b =>
    obtain ⟨n, hn, rfl⟩ := Disk.content?_eq_some.1 hc
    exact reads_some (by rw [hr, hc]; rfl) (ho n hn) trivial rfl (hl n hn)

end Resource

/-! ### Content by kind -/

theorem Stream.flows_ofBytes {b : Bytes} : (Stream.ofBytes b).Flows := by
  simp [Flows, ofBytes, Source.ofBytes]

theorem FileHandle.reads (h : FileHandle) : h.resource.Reads w (w.disk.content? h.path) := by
  apply Resource.reads_file
  · rfl
  · intro n hn
    change (h.openStream w.disk, w) = _
    rw [openStream, hn]
  · intro hc
    change ∃ f, (h.openStream w.disk, w) = _
    rcases Disk.content?_eq_none.1 hc with ⟨f, hf⟩ | hf
    · exact ⟨h.failed "open" f, by rw [openStream, hf]⟩
    · exact ⟨.io "open" h.description isDirectory, by rw [openStream, hf]⟩
  · intro n hn
    change h.contentLength w.disk = _
    rw [contentLength, metadata, Disk.metadata_of_file hn]
    rfl

/-- The content that a name leads to. -/
def ClassPathHandle.content? (h : ClassPathHandle) (d : Disk) : Option Bytes :=
  match h.lookup d with
  | some (.file p) => d.content? p
  | some (.bundled b) => some b
  | none => none

theorem ClassPathHandle.reads (h : ClassPathHandle) :
    h.resource.Reads w (h.content? w.disk) := by
  unfold content?
  cases hl : h.lookup w.disk with
  | none =>
    have ho := (absent_of_lookup hl).openStream
    exact Resource.reads_none (absent_of_lookup hl).readable (congrArg (·, w) ho)
  | some x =>
    cases x with
    | bundled b =>
      have hb := bundled_of_lookup hl
      exact Resource.reads_some hb.readable (congrArg (·, w) hb.openStream) Stream.flows_ofBytes rfl
        hb.contentLength
    | file p =>
      have hh : h.hit w.disk = .ok (.file p) := by rw [hit, hl]
      apply Resource.reads_file
      · change h.readable w.disk = _
        rw [readable, hl]
      · intro n hn
        change (h.openStream w.disk, w) = _
        simp only [openStream, hh, bind, Except.bind, hn]
      · intro hc
        change ∃ f, (h.openStream w.disk, w) = _
        simp only [openStream, hh, bind, Except.bind]
        rcases Disk.content?_eq_none.1 hc with ⟨f, hf⟩ | hf
        · exact ⟨h.failed "open" f, by rw [hf]⟩
        · exact ⟨.io "open" h.description FileHandle.isDirectory, by rw [hf]⟩
      · intro n hn
        change h.contentLength w.disk = _
        simp only [contentLength, hh, bind, Except.bind, metadata, Disk.metadata_of_file hn]
        rfl

theorem BytesHandle.reads (h : BytesHandle) : h.resource.Reads w (some h.data) :=
  Resource.reads_some rfl rfl Stream.flows_ofBytes rfl rfl

namespace Handle

variable {h : Handle}

/-- The content of a file, of what a name leads to, or in memory. -/
def content? (d : Disk) : Handle → Option Bytes
  | file h => d.content? h.path
  | classPath h => h.content? d
  | bytes h => some h.data
  | url _ | stream _ => none

theorem reads (hk : h.kind ∈ [.file, .classPath, .byteArray]) :
    h.resource.Reads w (h.content? w.disk) := by
  cases h with
  | file h => exact h.reads
  | classPath h => exact h.reads
  | bytes h => exact h.reads
  | url h => simp [kind, resource, UrlHandle.resource] at hk
  | stream h => simp [kind, resource, StreamHandle.resource] at hk

theorem present_of_readable (hd : w.disk = w'.disk) (hw : w.web = w'.web)
    (hr : (h.resource.readable w).1 = true) : (h.resource.present w').1 = true := by
  cases h with
  | file h =>
    change w.disk.holdsFile h.path = true at hr
    change w'.disk.holds h.path = true
    rw [← hd]
    exact Disk.holds_of_holdsFile hr
  | classPath h =>
    change h.readable w.disk = true at hr
    change h.present w'.disk = true
    rw [← hd, ClassPathHandle.present]
    unfold ClassPathHandle.readable at hr
    cases hl : h.lookup w.disk with
    | none => simp [hl] at hr
    | some x => rfl
  | url h => exact UrlHandle.present_of_readable hd hw hr
  | bytes h => rfl
  | stream h => rfl

/-- What can be read is there, whoever is asked, as long as the disk and the web stay as they are.
What is no stream and at no URL can be read, opened and read to its end or none of these, and it is
as long as its content. -/
theorem readable_contract :
    (∀ (h : Handle) (w w' : World), w.disk = w'.disk → w.web = w'.web →
      (h.resource.readable w).1 = true → (h.resource.present w').1 = true) ∧
    (∀ (r : Resource) (w : World), (r.leavingReadable.readable w).1 = true →
      (r.leavingReadable.present w).1 = true) ∧
    ∀ (h : Handle) (w w' : World), h.kind ∈ [.file, .classPath, .byteArray] → w.disk = w'.disk →
      ((h.resource.readable w).1 = true ↔ ∃ s, (h.resource.openStream w').1 = .ok s) ∧
      ((∃ s, (h.resource.openStream w').1 = .ok s) ↔ ∃ b, (h.resource.readBytes w).1 = .ok b) ∧
      ∀ b, (h.resource.readBytes w).1 = .ok b →
        (h.resource.contentLength w').1 = .ok b.length := by
  refine ⟨fun h w w' hd hw hr => present_of_readable hd hw hr, fun r w hr => hr, ?_⟩
  intro h w w' hk hd
  have hr : h.resource.Reads w (h.content? w.disk) := reads hk
  have hr' : h.resource.Reads w' (h.content? w.disk) := hd ▸ reads hk
  refine ⟨?_, ?_, ?_⟩
  · rw [hr.readable, hr'.opens]
  · simp only [hr'.opens, hr.reads, Option.isSome_iff_exists]
  · intro b hb
    exact hr'.length b ((hr.reads b).1 hb)

/-- A file is read before and after a stream was taken, and its length is that of what is read. -/
theorem readable_contract_file :
    ((file (.of (.ofString "C:a/in.txt"))).resource.readable FileHandle.drivesWorld).1 = true ∧
    ((file (.of (.ofString "C:a/in.txt"))).resource.present
      { FileHandle.drivesWorld with taken := [0] }).1 = true ∧
    ((file (.of (.ofString "C:a/in.txt"))).resource.contentLength
      { FileHandle.drivesWorld with taken := [0] }).1 = .ok 1 := by
  have hr : ((file (.of (.ofString "C:a/in.txt"))).resource.readable
      FileHandle.drivesWorld).1 = true := by decide
  have hb : ((file (.of (.ofString "C:a/in.txt"))).resource.readBytes
      FileHandle.drivesWorld).1 = .ok [0x61] := by decide
  obtain ⟨hpresent, -, hwhole⟩ := readable_contract
  obtain ⟨-, -, hlength⟩ := hwhole (file (.of (.ofString "C:a/in.txt"))) FileHandle.drivesWorld
    { FileHandle.drivesWorld with taken := [0] } (by decide) rfl
  exact ⟨hr, hpresent _ _ _ rfl rfl hr, hlength _ hb⟩

end Handle

end Resources
