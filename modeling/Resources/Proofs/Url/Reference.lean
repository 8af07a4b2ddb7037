import Resources.Proofs.Path.Unclimbed
import Resources.Proofs.Url.ReadBack
import Resources.Proofs.Url.Settled

/-! References without a scheme against a URL of the web. Over characters that a URL leaves as they are,
its path is walked as a path of files is. -/
namespace Resources.Url

open Resources.Path (segments step)

variable {c : Char} {s last : Segment} {ss init stack : List Segment} {q t : List Char} {u b : Url}

/-! ### Characters that mean themselves -/

/-- A character that a URL leaves as it is, and that ends nothing. -/
def Unreserved (c : Char) : Prop := c.isAlphanum = true ∨ c ∈ ['-', '.', '_', '~']

instance : DecidablePred Unreserved := fun _ => inferInstanceAs (Decidable (_ ∨ _))

theorem Unreserved.ascii (hc : Unreserved c) : c.toNat < 0x80 := by
  rcases hc with hc | hc
  · have hranges : (decide ('A'.val ≤ c.val ∧ c.val ≤ 'Z'.val) ||
        decide ('a'.val ≤ c.val) && decide (c.val ≤ 'z'.val) ||
        (decide ('0'.val ≤ c.val) && decide (c.val ≤ '9'.val))) = true := hc
    simp only [Bool.or_eq_true, Bool.and_eq_true, decide_eq_true_eq,
      UInt32.le_iff_toNat_le] at hranges
    have hcode : c.toNat = c.val.toNat := rfl
    have hupper : 'Z'.val.toNat = 0x5A := rfl
    have hlower : 'z'.val.toNat = 0x7A := rfl
    have hdigit : '9'.val.toNat = 0x39 := rfl
    omega
  · have hall : ∀ c ∈ ['-', '.', '_', '~'], c.toNat < 0x80 := List.all_iff_forall_prop.1 (by decide)
    exact hall c hc

theorem Unreserved.unmarked (hc : Unreserved c) : Unmarked c := by
  have hall : ∀ m ∈ List.range 0x80, Unreserved (Char.ofNat m) →
      0x20 < (Char.ofNat m).toNat ∧ Percent.pathSet (Char.ofNat m).toNat.toUInt8 = false ∧
        endsAuthority true (Char.ofNat m) = false := by decide +kernel
  have hself := hall c.toNat (List.mem_range.2 hc.ascii)
  rw [Char.ofNat_toNat] at hself
  obtain ⟨hvisible, hkept, hend⟩ := hself hc
  exact ⟨hc.ascii, hvisible, hkept, hend⟩

theorem Unreserved.ne (hc : Unreserved c) : c ≠ '%' ∧ c ≠ ':' ∧ c ≠ '|' ∧ c ≠ '\\' ∧ c ≠ '/' := by
  refine ⟨?_, ?_, ?_, ?_, ?_⟩ <;> rintro rfl <;> exact absurd hc (by decide)

/-! ### Dots and drives -/

theorem plainDots_eq_self (hs : ∀ c ∈ s, Unreserved c) : plainDots s = s := by
  induction s with
  | nil => rfl
  | cons c s ih =>
    rw [List.forall_mem_cons] at hs
    rw [plainDots_cons hs.1.ne.1, ih hs.2]

theorem isUp_iff (hs : ∀ c ∈ s, Unreserved c) : isUp s = true ↔ s = Resources.Path.up := by
  rw [isUp, plainDots_eq_self hs]
  exact decide_eq_true_iff

theorem isHere_iff (hs : ∀ c ∈ s, Unreserved c) : isHere s = true ↔ s = Resources.Path.here := by
  rw [isHere, plainDots_eq_self hs]
  exact decide_eq_true_iff

theorem not_isDrive (hs : ∀ c ∈ s, Unreserved c) : isDrive s = false := by
  unfold isDrive
  split
  · rename_i c m
    have hm := (hs m (by simp)).ne
    simp [hm.2.1, hm.2.2.1]
  · rfl

/-! ### Walks -/

/-- A segment that stands inside a path: it is there, and all its characters mean themselves. -/
def Inner (s : Segment) : Prop := s ≠ [] ∧ ∀ c ∈ s, Unreserved c

theorem climb_of_no_drive (hst : ∀ s ∈ stack, isDrive s = false) : climb stack = stack.tail := by
  cases stack with
  | nil => rfl
  | cons top above => simp [climb, hst top]

theorem descend_eq_step (hs : Inner s) (hst : ∀ s ∈ stack, isDrive s = false) :
    descend false stack s = step stack s := by
  obtain ⟨hne, hs⟩ := hs
  unfold descend step
  simp only [isUp_iff hs, isHere_iff hs, driveForm_false, climb_of_no_drive hst, hne, false_or]
  by_cases hup : s = Resources.Path.up
  · simp [hup]
  · simp [hup]

theorem settle_eq_cons (hs : ∀ c ∈ last, Unreserved c)
    (hl : last ≠ Resources.Path.here ∧ last ≠ Resources.Path.up) :
    settle false stack last = last :: stack := by
  unfold settle
  simp [isUp_iff hs, isHere_iff hs, driveForm_false, hl]

theorem walk_cons (hne : ss ≠ []) :
    walk false stack (s :: ss) = walk false (descend false stack s) ss := by
  obtain ⟨next, ss, rfl⟩ := List.exists_cons_of_ne_nil hne
  rfl

/-- Up to its last segment a path is walked as a path of files is, and the last segment stays. -/
theorem walk_concat (hinit : ∀ s ∈ init, Inner s) (hlast : ∀ c ∈ last, Unreserved c)
    (hl : last ≠ Resources.Path.here ∧ last ≠ Resources.Path.up)
    (hst : ∀ s ∈ stack, isDrive s = false) :
    walk false stack (init ++ [last]) = last :: init.foldl step stack := by
  induction init generalizing stack with
  | nil => exact settle_eq_cons hlast hl
  | cons s init ih =>
    rw [List.forall_mem_cons] at hinit
    have hdescend : ∀ s' ∈ descend false stack s, isDrive s' = false := by
      refine forall_mem_descend false hst fun _ _ => ?_
      rw [driveForm_false]
      exact not_isDrive hinit.1.2
    rw [List.cons_append, walk_cons (by simp), ih hinit.2 hdescend, descend_eq_step hinit.1 hst,
      List.foldl_cons]

/-! ### Paths -/

theorem unreserved_of_mem_segments (hq : ∀ c ∈ q, Unreserved c ∨ c = '/') :
    ∀ s ∈ segments q, ∀ c ∈ s, Unreserved c := by
  intro s hs c hc
  have hne : c ≠ '/' := by
    rintro rfl
    exact Resources.Path.slash_not_mem_segment hs hc
  have hmem : c ∈ q := (Resources.Path.mem_iff_mem_segment hne).2 ⟨s, hs, hc⟩
  exact (hq c hmem).resolve_right hne

theorem colon_not_mem (hq : ∀ c ∈ q, Unreserved c ∨ c = '/') : ':' ∉ q := fun hmem =>
  (hq ':' hmem).elim (fun hc => hc.ne.2.1 rfl) (by decide)

theorem strip_of_unreserved (hq : ∀ c ∈ q, Unreserved c ∨ c = '/') : strip q = q := by
  apply strip_eq_self
  intro c hc
  rcases hq c hc with hc | rfl
  · exact hc.unmarked.visible
  · decide

theorem pathFrom_concat (hq : ∀ c ∈ q, Unreserved c ∨ c = '/') (hs : segments q = init ++ [last])
    (hinit : [] ∉ init) (hl : last ≠ Resources.Path.here ∧ last ≠ Resources.Path.up)
    (hst : ∀ s ∈ stack, isDrive s = false) :
    pathFrom .web stack q = (.segments ((init.foldl step stack).reverse ++ [last]), []) := by
  have hchars := unreserved_of_mem_segments hq
  have hsplit : splitPath true q = (segments q, []) := by
    have hjoined := splitPath_intercalate Resources.Path.segments_ne_nil
      fun s hs c hc => (hchars s hs c hc).unmarked
    rwa [Resources.Path.intercalate_segments] at hjoined
  have hkept : (segments q).map (Percent.encode Percent.pathSet) = segments q := by
    rw [List.map_congr_left (g := id), List.map_id]
    intro s hs
    exact encode_eq_self fun c hc => (hchars s hs c hc).unmarked
  have hinner : ∀ s ∈ init, Inner s := by
    intro s hmem
    have hmem' : s ∈ segments q := by
      rw [hs]
      exact List.mem_append_left _ hmem
    refine ⟨?_, hchars s hmem'⟩
    rintro rfl
    exact hinit hmem
  have hlast : ∀ c ∈ last, Unreserved c := hchars last (by simp [hs])
  have hwalk := walk_concat hinner hlast hl hst
  rw [← hs, ← hkept] at hwalk
  simp only [pathFrom_web, hsplit, hwalk, List.reverse_cons]

/-- The text of a path is a rooted path of the same segments. -/
theorem text_of_segments (ht : segments t = [] :: ss) (hne : ss ≠ []) :
    (Path.segments ss).text = t := by
  rw [Path.text, flatMap_slash hne, ← Resources.Path.intercalate_segments (p := t), ht]
  obtain ⟨s, ss, rfl⟩ := List.exists_cons_of_ne_nil hne
  rw [List.intercalate_cons_cons]
  rfl

theorem segments_text (hne : ss ≠ []) (hs : ∀ s ∈ ss, '/' ∉ s) :
    segments (Path.segments ss).text = [] :: ss := by
  rw [Path.text, flatMap_slash hne, Resources.Path.segments_slash_cons,
    Resources.Path.segments_intercalate hs hne]

/-! ### References -/

theorem family_of_isHttp (hu : u.isHttp = true) : family u.scheme = .web := by
  have hname : String.ofList u.scheme = "http" ∨ String.ofList u.scheme = "https" := by
    simpa [isHttp, hasScheme] using hu
  unfold family defaultPort
  rcases hname with hname | hname <;> rw [hname] <;> rfl

/-- A reference without a scheme is read against the base. -/
theorem join_of_no_scheme (hp : b.path = .segments ss) (hf : family b.scheme = .web)
    (ht : scheme? (strip t) = none) : b.join (.ofList t) = relativeUrl b (strip t) := by
  have hfile : b.isFile = false := by
    rw [Bool.eq_false_iff, Ne, isFile_iff]
    exact ne_fileScheme_of_family (by simp [hf])
  rw [join, String.toList_ofList]
  unfold read
  simp only [ht, hp, hfile, Bool.false_eq_true, if_false]

theorem join_of_no_colon (hp : b.path = .segments ss) (hf : family b.scheme = .web) (ht : ':' ∉ t) :
    b.join (.ofList t) = relativeUrl b (strip t) :=
  join_of_no_scheme hp hf (scheme?_of_no_colon (mt mem_of_mem_strip ht))

theorem relativeUrl_root (hf : family b.scheme = .web) (hq : ∀ c ∈ q.head?, isSlash c = false) :
    relativeUrl b ('/' :: q) = .ok (assemble b.scheme b.authority (pathFrom .web [] q)) := by
  have hslash : isSlash '/' = true := rfl
  cases q with
  | nil => simp [relativeUrl, hslash, hf, pure, Except.pure]
  | cons c q => simp [relativeUrl, hslash, hq c rfl, hf, pure, Except.pure]

theorem relativeUrl_slashes : relativeUrl b ('/' :: '/' :: q) = afterSlashes b.scheme q := by
  have hslash : isSlash '/' = true := rfl
  simp [relativeUrl, hslash]

theorem relativeUrl_path (hf : family b.scheme = .web) (hne : q ≠ [])
    (hq : ∀ c ∈ q.head?, endsAuthority true c = false) : relativeUrl b q =
      .ok (assemble b.scheme b.authority (pathFrom .web (parentStack false b.path) q)) := by
  obtain ⟨c, q, rfl⟩ := List.exists_cons_of_ne_nil hne
  have hend := hq c rfl
  simp only [endsAuthority, Bool.or_eq_false_iff, decide_eq_false_iff_not, Bool.true_and] at hend
  obtain ⟨⟨⟨hslash, hquery⟩, hfragment⟩, hback⟩ := hend
  have hno : isSlash c = false := by simp [isSlash, hslash, hback]
  unfold relativeUrl
  split
  · simp_all
  · simp_all
  · simp_all
  · simp_all [pure, Except.pure]

theorem parentStack_segments (ss : List Segment) :
    parentStack false (.segments ss) = ss.dropLast.reverse := by
  rcases ss.eq_nil_or_concat' with rfl | ⟨ss, s, rfl⟩
  · rfl
  · simp [parentStack]

theorem not_isSlash_head (hq : ∀ c ∈ q, Unreserved c ∨ c = '/') (hroot : q.head? ≠ some '/') :
    ∀ c ∈ q.head?, Unreserved c ∧ isSlash c = false := by
  intro c hc
  have hne : c ≠ '/' := by
    rintro rfl
    exact hroot hc
  have hun := (hq c (List.mem_of_mem_head? hc)).resolve_right hne
  exact ⟨hun, by simp [isSlash, hun.ne]⟩

/-- What a reference leads to that begins at the root. -/
theorem join_root (hp : b.path = .segments ss) (hf : family b.scheme = .web)
    (hq : ∀ c ∈ q, Unreserved c ∨ c = '/') (hroot : q.head? ≠ some '/')
    (hs : segments q = init ++ [last]) (hinit : [] ∉ init)
    (hl : last ≠ Resources.Path.here ∧ last ≠ Resources.Path.up) :
    b.join (.ofList ('/' :: q)) = .ok ⟨b.scheme, b.authority,
      .segments ((init.foldl step []).reverse ++ [last]), none, none⟩ := by
  have hq' : ∀ c ∈ '/' :: q, Unreserved c ∨ c = '/' := by
    rw [List.forall_mem_cons]
    exact ⟨Or.inr rfl, hq⟩
  have hnone : ∀ s ∈ ([] : List Segment), isDrive s = false := by simp
  have hpath := pathFrom_concat hq hs hinit hl hnone
  rw [join_of_no_colon hp hf (colon_not_mem hq'), strip_of_unreserved hq',
    relativeUrl_root hf fun c hc => (not_isSlash_head hq hroot c hc).2, hpath]
  rfl

/-- What a reference leads to that goes on from the place of the base. -/
theorem join_path (hp : b.path = .segments ss) (hf : family b.scheme = .web)
    (hss : ∀ s ∈ ss.dropLast, isDrive s = false) (hq : ∀ c ∈ q, Unreserved c ∨ c = '/')
    (hroot : q.head? ≠ some '/') (hne : q ≠ []) (hs : segments q = init ++ [last])
    (hinit : [] ∉ init) (hl : last ≠ Resources.Path.here ∧ last ≠ Resources.Path.up) :
    b.join (.ofList q) = .ok ⟨b.scheme, b.authority,
      .segments ((init.foldl step ss.dropLast.reverse).reverse ++ [last]), none, none⟩ := by
  have hpath := pathFrom_concat hq hs hinit hl fun s hs => hss s (List.mem_reverse.1 hs)
  rw [join_of_no_colon hp hf (colon_not_mem hq), strip_of_unreserved hq,
    relativeUrl_path hf hne fun c hc => (not_isSlash_head hq hroot c hc).1.unmarked.no_end, hp,
    parentStack_segments, hpath]
  rfl

end Resources.Url
