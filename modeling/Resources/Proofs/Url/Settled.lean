import Resources.Proofs.Url.Read

/-! Paths of URLs of the web. They are segments, of which none stays or climbs: dots are walked when a
URL is read, and what is read against it begins at a place without any. -/
namespace Resources.Url

variable {c : Char} {s : Segment} {ss stack : List Segment} {t r : List Char} {u b : Url}
  {base : Option Url} {scheme : List Char}

/-- A segment that neither stays nor climbs. -/
def Firm (s : Segment) : Prop := ¬ isUp s = true ∧ ¬ isHere s = true

def Path.Settled : Path → Prop
  | .segments ss => ss ≠ [] ∧ ∀ s ∈ ss, Firm s
  | .plain _ => False

/-- The dots in the path of a web URL have been walked. -/
def Settled (u : Url) : Prop := family u.scheme = .web → u.path.Settled

theorem firm_nil : Firm [] := ⟨by decide, by decide⟩

/-- The segments of a path of the web. -/
theorem pathFrom_web (stack : List Segment) (t : List Char) : pathFrom .web stack t =
    (.segments (walk false stack
      ((splitPath true t).1.map (Percent.encode Percent.pathSet))).reverse, (splitPath true t).2) := by
  rfl

theorem settled_pathFrom (hst : ∀ s ∈ stack, Firm s) (t : List Char) :
    (pathFrom .web stack t).1.Settled := by
  have hne : (splitPath true t).1.map (Percent.encode Percent.pathSet) ≠ [] := by
    simpa using splitPath_ne_nil true t
  rw [pathFrom_web]
  refine ⟨by simpa using walk_ne_nil false hne, fun s hs => ?_⟩
  refine forall_mem_walk false firm_nil hst (fun s _ stack hup hhere => ?_) s (List.mem_reverse.1 hs)
  rw [driveForm_false]
  exact ⟨hup, hhere⟩

theorem settled_pathStart (t : List Char) : (pathStart .web t).1.Settled := by
  have hroot (t) : (pathFrom .web [] t).1.Settled := settled_pathFrom (by simp) t
  unfold pathStart
  split
  · exact ⟨by simp, by simpa using firm_nil⟩
  · split
    · exact hroot _
    split
    · rename_i hplain
      exact absurd rfl hplain.1
    · exact hroot _

theorem firm_parentStack {p : Path} (hp : p.Settled) : ∀ s ∈ parentStack false p, Firm s := by
  intro s hs
  cases p with
  | segments ss => exact hp.2 s (mem_parentStack hs)
  | plain t => cases hs

/-! ### Reading -/

theorem settled_assemble {authority : Option Authority} {p : Path × List Char}
    (hp : family scheme = .web → p.1.Settled) : (assemble scheme authority p).Settled := hp

theorem Settled.withFragment (hu : u.Settled) (f : Option (List Char)) :
    ({ u with fragment := f } : Url).Settled := hu

theorem settled_afterSlashes (hu : afterSlashes scheme t = .ok u) : u.Settled := by
  obtain ⟨a, rest, -, rfl⟩ := afterSlashes_eq_ok.1 hu
  refine settled_assemble fun hweb => ?_
  rw [hweb]
  exact settled_pathStart rest

theorem settled_relativeUrl (hb : b.Settled) (hu : relativeUrl b t = .ok u) : u.Settled := by
  rcases relativeUrl_cases hu with ⟨f, rfl⟩ | ⟨q, hq⟩ | ⟨p, rfl, hp | ⟨stack, q, hstack, rfl⟩⟩
  · exact hb.withFragment f
  · exact settled_afterSlashes hq
  · exact settled_assemble (hp ▸ hb)
  · refine settled_assemble fun hweb => ?_
    rw [hweb]
    rcases hstack with rfl | rfl
    · exact settled_pathFrom (by simp) q
    · exact settled_pathFrom (firm_parentStack (hb hweb)) q

/-- A local URL is none of the web. -/
theorem settled_of_file (hu : u.scheme = fileScheme) : u.Settled := by
  intro hweb
  rw [hu] at hweb
  exact absurd hweb (by decide)

theorem scheme_fromRoot (base : Option Url) (r : List Char) : (fromRoot base r).scheme = fileScheme := by
  unfold fromRoot
  split
  · rfl
  · simp only
    split <;> rfl

theorem scheme_fromBase (hb : ∀ b, base = some b → b.scheme = fileScheme) (t : List Char) :
    (fromBase base t).scheme = fileScheme := by
  unfold fromBase
  split
  · rfl
  · rename_i b
    have hscheme := hb b rfl
    split
    · exact hscheme
    · rfl
    · exact hscheme
    · split <;> rfl

theorem scheme_fileUrl (hb : ∀ b, base = some b → b.scheme = fileScheme)
    (hu : fileUrl base t = .ok u) : u.scheme = fileScheme := by
  rcases fileUrl_cases t with ⟨r, h⟩ | ⟨r, h⟩ | h
  · rw [h] at hu
    obtain ⟨o, p, -, -, rfl⟩ := hosted_fileAfterSlashes hu
    rfl
  · rw [h] at hu
    obtain rfl := Except.ok.inj hu
    exact scheme_fromRoot base r
  · rw [h] at hu
    obtain rfl := Except.ok.inj hu
    exact scheme_fromBase hb t

theorem settled_other {p : Path × List Char} (hf : family scheme = .other) :
    (assemble scheme none p).Settled := by
  intro hweb
  exact absurd (hf.symm.trans hweb) (by decide)

theorem settled_read (hb : ∀ b, base = some b → b.Settled) (hu : read base t = .ok u) : u.Settled := by
  cases reading_of_read hu with
  | same h => exact (hb _ h).withFragment _
  | inFiles h hu => exact settled_of_file (scheme_fileUrl (fun b hn => isFile_iff.1 (h b hn).2) hu)
  | against h hfile hu => exact settled_relativeUrl (hb _ h) hu
  | asked hs hf hu => exact settled_afterSlashes hu
  | rooted hs hf => exact settled_other hf
  | plain hs hf ht => exact settled_other hf

theorem Made.settled (h : u.Made) : u.Settled := by
  induction h with
  | parsed hu => exact settled_read (by simp) hu
  | joined _ hv ih => exact settled_read (by rintro _ ⟨⟩; exact ih) hv
  | named names => exact settled_of_file rfl

theorem Made.segments (h : u.Made) (hf : family u.scheme = .web) :
    ∃ ss, u.path = .segments ss ∧ ss ≠ [] ∧ ∀ s ∈ ss, Firm s := by
  have hsettled := h.settled hf
  cases hp : u.path with
  | plain t =>
    rw [hp] at hsettled
    exact hsettled.elim
  | segments ss =>
    rw [hp] at hsettled
    exact ⟨ss, rfl, hsettled⟩

end Resources.Url
