import Resources.Proofs.Client.Use
import Resources.Proofs.Resource.Failures

/-! Calls that meet a fault of the outside world. Where the fault is that something is absent, they
fail with the resource as absent. -/
namespace Resources

variable {α : Type} {e : Failure} {w : World}

/-- The failures of a resource that is absent. -/
structure Resource.Missing (r : Resource) (w : World) : Prop where
  openStream : r.openStream w = (.error (.notFound r.description), w)
  contentLength : (r.contentLength w).1 = .error (.notFound r.description)
  lastModified : (r.lastModified w).1 = .error (.notFound r.description)

theorem Resource.Missing.failure {r : Resource} (hr : r.Missing w) (hc : r.StreamsChannels)
    {k : Call α} (hk : k.fetches = true) (he : k.failure? (r.call k w).1 = some e) :
    e = .notFound r.description := by
  cases k with
  | take t =>
    have ht : (r.take t w).1 = .error e := failureIn_eq_some.1 he
    rw [take_of_open_error hc hr.openStream] at ht
    exact (Except.error.inj ht).symm
  | relative path => cases hk
  | ask q =>
    cases q with
    | contentLength => exact Except.error.inj ((failureIn_eq_some.1 he).symm.trans hr.contentLength)
    | lastModified => exact Except.error.inj ((failureIn_eq_some.1 he).symm.trans hr.lastModified)
    | present | readable => cases he
    | _ => cases hk

/-- The path on the disk that is looked at for a handle. -/
def Handle.place? (disk : Disk) : Handle → Option FilePath
  | file h => some h.path
  | classPath h =>
    match h.lookup disk with
    | some (.file p) => some p
    | _ => none
  | url h => h.localPath?
  | _ => none

theorem FileHandle.missing {h : FileHandle} {f : Fault} (hp : w.disk.find h.path = .error f)
    (hf : f.kind = .notFound) : h.resource.Missing w := by
  have hm (operation : String) : h.metadata operation w.disk = .error (.notFound h.description) := by
    rw [metadata, Disk.metadata_of_fault hp]
    exact congrArg Except.error (Failure.ofFault_of_absent hf)
  exact {
    openStream := by
      change (h.openStream w.disk, w) = _
      simp only [openStream, hp, failed, Failure.ofFault_of_absent hf]
      rfl
    contentLength := by
      change h.contentLength w.disk = _
      rw [contentLength, hm]
      rfl
    lastModified := by
      change h.lastModified w.disk = _
      rw [lastModified, hm]
      rfl }

theorem UrlHandle.missing {h : UrlHandle} {p : FilePath} {f : Fault} (hl : h.localPath? = some p)
    (hp : w.disk.find p = .error f) (hf : f.kind = .notFound) : h.resource.Missing w := by
  have hh : h.isHttp = false := isHttp_of_localPath hl
  have hm (operation : String) : Attempt.onDisk (h.metadata p operation) w =
      (.error (.notFound h.description), w) := by
    change (h.metadata p operation w.disk, w) = _
    rw [metadata, Disk.metadata_of_fault hp]
    exact congrArg (fun e => (Except.error e, w)) (Failure.ofFault_of_absent hf)
  exact {
    openStream := by
      change h.openStream w = _
      rw [openStream_eq_onDisk hl]
      change (h.openLocal p w.disk, w) = _
      simp only [openLocal, hp, failed, Failure.ofFault_of_absent hf]
      rfl
    contentLength := by
      change (h.contentLength w).1 = _
      simp only [contentLength, hh, hl, Bool.false_eq_true, if_false]
      rw [Attempt.bind_of_error _ (hm _)]
      rfl
    lastModified := by
      change (h.lastModified w).1 = _
      simp only [lastModified, hh, hl, Bool.false_eq_true, if_false]
      rw [Attempt.bind_of_error _ (hm _)]
      rfl }

/-- The faults of the outside world that a call on a handle meets: in looking for the resource on
the disk, or behind the last byte of what is read. -/
inductive Handle.Meets (h : Handle) (w : World) : {α : Type} → Call α → Fault → Prop
  | looking {α : Type} {k : Call α} {p : FilePath} {f : Fault} : k.fetches = true →
      h.place? w.disk = some p → w.disk.find p = .error f → Meets h w k f
  | reading {α : Type} {t : Taking α} {s : Stream} {w' : World} {b : Bytes} {f : Fault} :
      t.drains = true → h.resource.openStream w = (.ok s, w') → s.Flows →
      s.remaining w'.disk = (b, some f) → Meets h w (.take t) f

namespace Handle

theorem failure_of_missing {h : Handle} {k : Call α} {p : FilePath} {f : Fault}
    (hk : k.fetches = true) (hp : h.place? w.disk = some p) (hf : w.disk.find p = .error f)
    (hn : f.kind = .notFound) (he : k.failure? (h.resource.call k w).1 = some e) :
    e = .notFound h.description := by
  cases h with
  | file h =>
    have hc : h.resource.StreamsChannels := rfl
    obtain rfl := Option.some.inj hp
    exact (FileHandle.missing hf hn).failure hc hk he
  | classPath h =>
    -- A name that leads to a path leads to something that is there.
    have hl : h.lookup w.disk = some (.file p) := by
      simp only [place?] at hp
      split at hp
      · obtain rfl := Option.some.inj hp
        assumption
      · cases hp
    have hh := ClassPath.holds_of_lookup hl
    simp [Disk.holds, hf, Except.isOk, Except.toBool] at hh
  | url h => exact (UrlHandle.missing hp hf hn).failure UrlHandle.streamsChannels hk he
  | bytes h => cases hp
  | stream h => cases hp

theorem failure_of_meets {h : Handle} {k : Call α} {f : Fault} (hm : h.Meets w k f)
    (hn : f.kind = .notFound) (he : k.failure? (h.resource.call k w).1 = some e) :
    e = .notFound h.description := by
  cases hm with
  | looking hk hp hf => exact failure_of_missing hk hp hf hn he
  | reading ht ho hs hr =>
    have hr := Resource.failure_of_drained ho hs hr hn ht
    exact (Except.error.inj (hr.symm.trans (failureIn_eq_some.1 he))).symm

end Handle

end Resources
