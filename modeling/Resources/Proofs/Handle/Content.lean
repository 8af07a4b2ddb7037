import Resources.Proofs.Client.Use
import Resources.Proofs.Resource.Readings

/-! The content of what can be read again. However it is read, it is the same as read at once. -/
namespace Resources

variable {α : Type} {w w' w'' : World} {r : Resource} {c : Bytes}

/-! ### Openings that give the same again -/

/-- As long as the disk and the web stay, the answer is the same, and so they do stay. -/
def Act.Steady (x : Act α) : Prop := ∀ w w', w.SameBacking w' →
  (x w').1 = (x w).1 ∧ w.SameBacking (x w').2

namespace Stream

theorem holds_of_take {d : Disk} {s : Stream} (hs : s.Flows) (h : (s.take d none).1 = .ok c) :
    s.Holds d c := by
  rw [take_none hs, whole] at h
  refine ⟨hs, ?_⟩
  split at h
  · rename_i hr
    rw [hr, Except.ok.inj h]
  · cases h

theorem take_of_holds {d : Disk} {s : Stream} (h : s.Holds d c) : (s.take d none).1 = .ok c := by
  obtain ⟨s', ht, -⟩ := h.take none
  rw [ht]
  exact congrArg Except.ok List.take_length

end Stream

namespace Resource

/-- What is read as a whole is the content of the stream that was opened for it. -/
theorem opened_of_readBytes (hf : ∀ s, (r.openStream w).1 = .ok s → s.Flows)
    (hc : (r.readBytes w).1 = .ok c) :
    ∃ s w', r.openStream w = (.ok s, w') ∧ s.Holds w'.disk c := by
  rcases ho : r.openStream w with ⟨outcome, w'⟩
  cases outcome with
  | error e =>
    rw [readBytes_of_open_error ho] at hc
    cases hc
  | ok s =>
    rw [readBytes_of_open ho] at hc
    refine ⟨s, w', rfl, Stream.holds_of_take (hf s (congrArg Prod.fst ho)) ?_⟩
    cases ht : (s.take w'.disk none).1 with
    | ok b =>
      rw [ht] at hc
      exact congrArg Except.ok (Except.ok.inj hc)
    | error f =>
      rw [ht] at hc
      cases hc

/-- Channels over streams that hold a content hold it too. -/
theorem handsOut_of_streams (hc : r.StreamsChannels)
    (hs : ∀ w', w.SameBacking w' → ∃ s w'', r.openStream w' = (.ok s, w'') ∧
      w.SameBacking w'' ∧ s.Holds w.disk c) : r.HandsOut w c where
  stream := hs
  channel := by
    intro w' hw
    obtain ⟨s, w'', ho, hw'', hh⟩ := hs w' hw
    exact ⟨.ofStream s, w'', by rw [hc]; exact Attempt.map_of_ok _ ho, hw'',
      Channel.holds_ofStream hh⟩

theorem handsOut_of_steady (hc : r.StreamsChannels) (ho : r.openStream.run.Steady)
    (hf : ∀ s, (r.openStream w).1 = .ok s → s.Flows) (hb : (r.readBytes w).1 = .ok c) :
    r.HandsOut w c := by
  obtain ⟨s, w₁, hs, hh⟩ := opened_of_readBytes hf hb
  refine handsOut_of_streams hc fun w' hw => ?_
  obtain ⟨hsame, hback⟩ := ho w w' hw
  have hd : w₁.disk = w.disk := by
    have hw₁ := (ho w w (.refl w)).2.disk
    rwa [show r.openStream.run w = _ from hs] at hw₁
  have hs : (r.openStream w).1 = .ok s := congrArg Prod.fst hs
  exact ⟨s, (r.openStream w').2, Prod.ext (hsame.trans hs) rfl, hback, hd ▸ hh⟩

end Resource

/-! ### Handles -/

theorem Attempt.steady_onDisk (f : Disk → Except Failure α) : (Attempt.onDisk f).run.Steady :=
  fun _ _ hw => ⟨congrArg f hw.disk, hw⟩

theorem FileHandle.handsOut {h : FileHandle} (hb : (h.resource.readBytes w).1 = .ok c) :
    h.resource.HandsOut w c := by
  refine Resource.handsOut_of_steady rfl (Attempt.steady_onDisk h.openStream) (fun s hs => ?_) hb
  have hs : h.openStream w.disk = .ok s := hs
  unfold openStream at hs
  split at hs
  · cases hs
  · cases hs
  · obtain rfl := Except.ok.inj hs
    trivial

theorem ClassPathHandle.handsOut {h : ClassPathHandle} (hb : (h.resource.readBytes w).1 = .ok c) :
    h.resource.HandsOut w c := by
  refine Resource.handsOut_of_steady rfl (Attempt.steady_onDisk h.openStream) (fun s hs => ?_) hb
  have hs : h.openStream w.disk = .ok s := hs
  unfold openStream at hs
  cases hh : h.hit w.disk with
  | error e =>
    rw [hh] at hs
    cases hs
  | ok x =>
    rw [hh] at hs
    cases x with
    | bundled data =>
      obtain rfl := Except.ok.inj hs
      exact nofun
    | file p =>
      simp only [bind, Except.bind] at hs
      split at hs
      · cases hs
      · cases hs
      · obtain rfl := Except.ok.inj hs
        trivial

/-- Channels over bytes in memory are there whole from the start. -/
theorem BytesHandle.handsOut {h : BytesHandle} (hb : (h.resource.readBytes w).1 = .ok c) :
    h.resource.HandsOut w c := by
  have hs : Stream.Flows (.ofBytes h.data) := nofun
  have ht : ((Stream.ofBytes h.data).take w.disk none).1 = .ok h.data :=
    Stream.take_of_holds ⟨hs, rfl⟩
  have hc : h.data = c := by
    rw [Resource.readBytes_of_open (show h.resource.openStream w = (.ok (.ofBytes h.data), w) from rfl),
      ht] at hb
    exact Except.ok.inj hb
  subst hc
  exact {
    stream := fun w' hw => ⟨.ofBytes h.data, w', rfl, hw, hs, rfl⟩
    channel := fun w' hw => ⟨.ofBytes h.data, w', rfl, hw, Channel.holds_ofBytes h.data⟩ }

theorem Client.Used.sameBacking {cl : Client} (h : cl.Used w w') : w.SameBacking w' := by
  obtain ⟨sent, rfl⟩ := h
  simp only [Client.build_world]
  split <;> exact ⟨rfl, rfl⟩

namespace UrlHandle

variable {h : UrlHandle}

theorem steady_openStream : h.openStream.run.Steady := by
  intro w w' hw
  cases hh : h.isHttp with
  | true =>
    have hget : h.openStream.run.OfWeb := by
      rw [openStream_eq_get hh]
      exact Attempt.ofWeb_bind ofWeb_get fun r => Act.ofWeb_pure _
    exact ⟨(hget w').2 w hw.web, hw.trans (uses_openStream hh w').sameBacking⟩
  | false =>
    cases hp : h.localPath? with
    | some p =>
      rw [openStream_eq_onDisk hp]
      exact Attempt.steady_onDisk _ w w' hw
    | none =>
      rw [openStream_eq_throw hh hp]
      exact ⟨rfl, hw⟩

theorem flows_of_openStream {s : Stream} (hs : (h.openStream w).1 = .ok s) : s.Flows := by
  cases hh : h.isHttp with
  | true =>
    rw [openStream_eq_get hh] at hs
    rcases hg : h.get w with ⟨outcome, w₁⟩
    cases outcome with
    | error e =>
      rw [Attempt.bind_of_error _ hg] at hs
      cases hs
    | ok r =>
      rw [Attempt.bind_of_ok _ hg] at hs
      obtain rfl := Except.ok.inj hs
      exact nofun
  | false =>
    cases hp : h.localPath? with
    | some p =>
      rw [openStream_eq_onDisk hp] at hs
      have hs : h.openLocal p w.disk = .ok s := hs
      unfold openLocal at hs
      split at hs
      · cases hs
      · obtain rfl := Except.ok.inj hs
        trivial
      · obtain rfl := Except.ok.inj hs
        trivial
    | none =>
      rw [openStream_eq_throw hh hp] at hs
      cases hs

theorem handsOut (hb : (h.resource.readBytes w).1 = .ok c) : h.resource.HandsOut w c :=
  Resource.handsOut_of_steady rfl steady_openStream (fun _ hs => flows_of_openStream hs) hb

end UrlHandle

theorem Handle.handsOut {h : Handle} (hk : h.kind.isRereadable = true)
    (hb : (h.resource.readBytes w).1 = .ok c) : h.resource.HandsOut w c := by
  cases h with
  | file h => exact FileHandle.handsOut hb
  | classPath h => exact ClassPathHandle.handsOut hb
  | url h => exact UrlHandle.handsOut hb
  | bytes h => exact BytesHandle.handsOut hb
  | stream h => cases hk

/-! ### Resources that answer no more than they must -/

/-- What every resource has to answer itself. All else is left to the defaults. -/
structure Foreign where
  kind : Kind
  description : String
  present : Act Bool
  url : Attempt Url
  openStream : Attempt Stream
  lastModified : Attempt Instant

namespace Foreign

variable {f : Foreign}

def resource (f : Foreign) : Resource where
  kind := f.kind
  description := f.description
  present := f.present
  url := f.url
  openStream := f.openStream
  lastModified := f.lastModified

/-- As long as the disk and the web stay, each stream that is opened is a new one over the same
bytes. It may give them in portions of any size. -/
def GivesAfresh (f : Foreign) (w : World) : Prop := ∃ b ending, ∀ w', w.SameBacking w' →
  ∃ s w'', f.openStream w' = (.ok s, w'') ∧ w.SameBacking w'' ∧ s.Flows ∧
    s.remaining w.disk = (b, ending)

theorem handsOut (hf : f.GivesAfresh w) (hb : (f.resource.readBytes w).1 = .ok c) :
    f.resource.HandsOut w c := by
  obtain ⟨b, ending, hf⟩ := hf
  refine Resource.handsOut_of_streams rfl fun w' hw => ?_
  have hflows : ∀ s, (f.resource.openStream w).1 = .ok s → s.Flows := by
    intro s hs
    obtain ⟨s', w', ho, -, hfl, -⟩ := hf w (.refl w)
    have ho : (f.resource.openStream w).1 = .ok s' := congrArg Prod.fst ho
    obtain rfl := Except.ok.inj (hs.symm.trans ho)
    exact hfl
  obtain ⟨s₀, w₀, ho₀, hw₀, -, hr₀⟩ := hf w (.refl w)
  obtain ⟨s₁, w₁, ho₁, hh₁⟩ := Resource.opened_of_readBytes hflows hb
  obtain ⟨hs, rfl⟩ := Prod.mk.inj (ho₀.symm.trans ho₁)
  obtain rfl := Except.ok.inj hs
  have hbc : (b, ending) = (c, none) := by rw [← hr₀, ← hh₁.2, hw₀.disk]
  obtain ⟨s, w'', ho, hw'', hfl, hr⟩ := hf w' hw
  exact ⟨s, w'', ho, hw'', hfl, hr.trans hbc⟩

/-- The default counts the bytes of a stream of its own. -/
theorem contentLength_of_handsOut (h : f.resource.HandsOut w c) (hw : w.SameBacking w') :
    (f.resource.contentLength w').1 = .ok c.length := by
  obtain ⟨s, w'', ho, hw'', hs⟩ := h.stream w' hw
  change ((f.resource.openStream >>= fun s => drain "content_length" f.description s >>=
    fun b => pure b.length : Attempt Nat) w').1 = _
  have hd : drain "content_length" f.description s w'' = (.ok c, w'') := by
    change ((s.take w''.disk none).1.mapError _, w'') = _
    rw [hw''.disk, Stream.take_of_holds hs]
    rfl
  rw [Attempt.bind_of_ok _ ho, Attempt.bind_of_ok _ hd]
  rfl

end Foreign

/-! ### One content -/

/-- What can be read again is a handle of any kind but a stream, or a resource of another make that
opens a new stream each time. -/
inductive Resource.Rereadable (w : World) : Resource → Prop
  | handle (h : Handle) : h.kind.isRereadable = true → Rereadable w h.resource
  | foreign (f : Foreign) : f.GivesAfresh w → Rereadable w f.resource

theorem Resource.Rereadable.handsOut (hr : r.Rereadable w) (hc : (r.readBytes w).1 = .ok c) :
    r.HandsOut w c := by
  cases hr with
  | handle h hk => exact Handle.handsOut hk hc
  | foreign f hf => exact Foreign.handsOut hf hc

/-- Whatever can be read again has one content as long as the disk and the web stay: all streams and
channels on it, drawn from in any order, in portions of any size and line by line, give what is read
at once. Where the length is left to the default, it is the length of that. -/
theorem Resource.one_content (r : Resource) (w : World) (c : Bytes) (hr : r.Rereadable w)
    (hc : (r.readBytes w).1 = .ok c) : r.OneContent w c ∧
      ∀ f : Foreign, r = f.resource → ∀ w', w.SameBacking w' →
        (r.contentLength w').1 = .ok c.length := by
  have hout := hr.handsOut hc
  refine ⟨hout.oneContent, ?_⟩
  rintro f rfl w' hw
  exact Foreign.contentLength_of_handsOut hout hw

/-- Two lines, in portions of two bytes. -/
def Foreign.pairs : Foreign where
  kind := .byteArray
  description := "pairs"
  present := pure true
  url := throw (.unresolvableLocator "pairs" "URL")
  openStream := pure (.source ⟨[0x61, 0x62, 0x0A, 0x63, 0x64], some 2, none⟩)
  lastModified := throw (.resolution "pairs" "no time")

/-- A stream and a channel on it, drawn from in turn. -/
def Foreign.pairsRun : List Readings.Step :=
  [.stream, .channel, .draw 0 (.once 3), .draw 1 .line, .draw 0 (.fully none), .draw 1 (.once 1),
    .draw 1 .line]

theorem Resource.one_content_pairs :
    (Foreign.pairs.resource.readBytes StreamHandle.uploadWorld).1 =
      .ok [0x61, 0x62, 0x0A, 0x63, 0x64] ∧
    Foreign.pairs.resource.OneContent StreamHandle.uploadWorld [0x61, 0x62, 0x0A, 0x63, 0x64] ∧
    (Foreign.pairs.resource.contentLength StreamHandle.uploadWorld).1 = .ok 5 ∧
    (Readings.run Foreign.pairs.resource StreamHandle.uploadWorld Foreign.pairsRun).map
        (fun k => k.taps.map (·.drawn)) =
      some [[(.once 3, [0x61, 0x62]), (.fully none, [0x0A, 0x63, 0x64])],
        [(.line, [0x61, 0x62, 0x0A]), (.once 1, [0x63]), (.line, [0x64])]] := by
  have hf : Foreign.pairs.GivesAfresh StreamHandle.uploadWorld :=
    ⟨_, _, fun w' hw => ⟨_, w', rfl, hw, by simp [Stream.Flows], rfl⟩⟩
  have hc : (Foreign.pairs.resource.readBytes StreamHandle.uploadWorld).1 =
      .ok [0x61, 0x62, 0x0A, 0x63, 0x64] := rfl
  obtain ⟨hone, hlength⟩ := one_content _ _ _ (.foreign Foreign.pairs hf) hc
  exact ⟨hc, hone, hlength _ rfl _ (.refl _), by decide⟩

end Resources
