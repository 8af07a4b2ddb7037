import Resources.Path.FilePath
import Resources.Proofs.Path.Relative
import Resources.Proofs.Text.Utf8

/-! Paths that are text, as bytes. Their segments are the encoded segments of the text. -/
namespace Resources.FilePath

open Resources.Path (Segment)

variable {p q : List Char} {s t : Segment}

@[simp] theorem bytes_ofText : (ofText p).bytes = Utf8.encode p := rfl

theorem ofString_eq (t : String) : ofString t = ofText t.toList := rfl

@[simp] theorem encode_here : Utf8.encode Path.here = here := rfl

@[simp] theorem encode_up : Utf8.encode Path.up = up := rfl

@[simp] theorem up_ne_nil : up ≠ [] := List.cons_ne_nil _ _

@[simp] theorem up_ne_here : up ≠ here := by simp [up, here]

theorem encode_eq_nil : Utf8.encode s = [] ↔ s = [] := Utf8.encode_inj (b := [])

theorem encode_eq_here : Utf8.encode s = here ↔ s = Path.here := Utf8.encode_inj (b := Path.here)

theorem encode_eq_up : Utf8.encode s = up ↔ s = Path.up := Utf8.encode_inj (b := Path.up)

theorem slash_mem_encode : slash ∈ Utf8.encode p ↔ '/' ∈ p :=
  Utf8.toUInt8_mem_encode (a := '/') (by decide)

theorem nul_mem_encode : 0 ∈ Utf8.encode p ↔ '\x00' ∈ p :=
  Utf8.toUInt8_mem_encode (a := '\x00') (by decide)

@[simp] theorem text?_ofText : (ofText p).text? = some (.ofList p) := by simp [text?]

theorem encode_intercalate (ss : List Segment) : Utf8.encode (List.intercalate ['/'] ss) =
    List.intercalate [slash] (ss.map Utf8.encode) := by
  induction ss with
  | nil => rfl
  | cons s ss ih =>
    cases ss with
    | nil => simp
    | cons t ss =>
      rw [List.intercalate_cons_cons, List.map_cons, List.map_cons, List.intercalate_cons_cons,
        ← List.map_cons, ← ih]
      simp only [Utf8.encode_append]
      rfl

theorem segments_ofText : (ofText p).segments = (Path.segments p).map Utf8.encode := by
  unfold segments
  rw [bytes_ofText]
  conv_lhs => rw [← Path.intercalate_segments (p := p)]
  rw [encode_intercalate]
  apply List.splitOn_intercalate
  · simp only [List.mem_map, forall_exists_index, and_imp, forall_apply_eq_imp_iff₂]
    intro s hs
    rw [slash_mem_encode]
    exact Path.slash_not_mem_segment hs
  · simp [Path.segments_ne_nil]

@[simp] theorem isRooted_ofText : (ofText p).isRooted = (p.head? == some '/') := by
  cases p with
  | nil => rfl
  | cons c p =>
    obtain ⟨b, bs, hb⟩ := List.exists_cons_of_ne_nil (Utf8.encodeChar_ne_nil c)
    have hs : b = slash ↔ c = '/' := by
      constructor
      · rintro rfl
        have hm : slash ∈ Utf8.encodeChar c := by simp [hb]
        exact Char.toNat_inj.1 (Utf8.mem_encodeChar hm (by decide)).1
      · rintro rfl
        exact (List.cons.inj hb).1.symm
    rw [Bool.eq_iff_iff]
    simp [isRooted, Utf8.encode_cons, hb, hs]

theorem segments_ne_nil {f : FilePath} : f.segments ≠ [] := by simp [segments]

/-- The path with a slash behind it. -/
def slashed (f : FilePath) : FilePath := ⟨f.bytes ++ [slash]⟩

theorem segments_slashed {f : FilePath} : f.slashed.segments = f.segments ++ [[]] :=
  List.splitOn_append_cons_self f.bytes []

theorem isRooted_slashed {f : FilePath} (hf : f.bytes ≠ []) : f.slashed.isRooted = f.isRooted := by
  obtain ⟨b, bs, hb⟩ := List.exists_cons_of_ne_nil hf
  simp [isRooted, slashed, hb]

/-- A joined path has the segments of both, but for the empty one behind a slash at the end of the
first. Under the empty path the second stays as it is. -/
theorem join_cases {f g : FilePath} (hg : g.isRooted = false) :
    f = ⟨[]⟩ ∧ f.join g = g ∨ (f.join g).isRooted = f.isRooted ∧
      ∃ ss gap, f.segments = ss ++ gap ∧ (gap = [] ∨ gap = [[]]) ∧
        (f.join g).segments = ss ++ g.segments := by
  obtain ⟨bs⟩ := f
  unfold join
  rw [hg]
  simp only [Bool.false_eq_true, if_false]
  cases bs with
  | nil => simp
  | cons b bs =>
    right
    split
    · rename_i h
      obtain ⟨as, ha⟩ := List.getLast?_eq_some_iff.1 (h.resolve_left (by simp))
      simp only [ha]
      refine ⟨?_, as.splitOn slash, [[]], ?_, Or.inr rfl, ?_⟩
      · cases as <;> simp [isRooted]
      · simpa [segments] using List.splitOn_append_cons_self as []
      · simpa [segments] using List.splitOn_append_cons_self as g.bytes
    · refine ⟨by simp [isRooted], (b :: bs).splitOn slash, [], by simp [segments], Or.inl rfl, ?_⟩
      exact List.splitOn_append_cons_self _ _

theorem getLast?_encode : (Utf8.encode p).getLast? = some slash ↔ p.getLast? = some '/' := by
  rcases p.eq_nil_or_concat' with rfl | ⟨p, c, rfl⟩
  · simp
  · have hc : Utf8.encode [c] = Utf8.encodeChar c := by simp [Utf8.encode]
    rw [List.getLast?_concat, Utf8.encode_append, hc,
      List.getLast?_append_of_ne_nil _ (Utf8.encodeChar_ne_nil c), Option.some_inj]
    constructor
    · intro h
      exact Char.toNat_inj.1 (Utf8.mem_encodeChar (List.mem_of_getLast? h) (by decide)).1
    · rintro rfl
      rfl

theorem join_ofText (hq : q.head? ≠ some '/') :
    (ofText p).join (ofText q) = ofText (Path.asDirectory p ++ q) := by
  have hr : (ofText q).isRooted = false := by simpa using hq
  rw [join, hr, if_neg Bool.false_ne_true]
  simp only [bytes_ofText, encode_eq_nil, getLast?_encode, Path.asDirectory]
  split
  · simp [ofText]
  · simp only [ofText, Utf8.encode_append, List.append_assoc]
    rfl

theorem filter_names {ss : List Segment} (h : ∀ s ∈ ss, s ≠ [] ∧ s ≠ Path.here) (p : List Char) :
    ((ss ++ Path.gap p).map Utf8.encode).filter (fun s => s ≠ [] && s ≠ here) =
      ss.map Utf8.encode := by
  have hs : (ss.map Utf8.encode).filter (fun s => s ≠ [] && s ≠ here) = ss.map Utf8.encode := by
    rw [List.filter_eq_self]
    simp only [List.mem_map, forall_exists_index, and_imp, forall_apply_eq_imp_iff₂]
    intro s hm
    simp [encode_eq_nil, encode_eq_here, h s hm]
  rw [List.map_append, List.filter_append, hs]
  rcases Path.gap_cases p with ⟨-, hg⟩ | ⟨-, hg⟩ <;> simp [hg]

/-- A cleaned path without a drive has the names that it was cleaned to. -/
theorem names_ofText_clean_of_no_drive (hd : Path.drive p = []) :
    (ofText (Path.cleanText p)).names = (Path.names p).map Utf8.encode := by
  have hn {s : Segment} : s ∈ Path.names p → s ≠ [] ∧ s ≠ Path.here := Path.names_ne
  rw [names, segments_ofText, Path.cleanText_eq, hd, List.nil_append, Path.segments_plain]
  cases hr : Path.rooted p with
  | true =>
    rw [Path.lead_of_rooted hr]
    exact filter_names (fun s => hn) p
  | false =>
    rw [Path.lead_of_relative hr]
    cases hs : Path.names p with
    | nil => simp [Path.gap, hs]
    | cons n ns =>
      rw [hs] at hn
      have hne : Utf8.encode n ≠ [] := encode_eq_nil.not.2 (hn List.mem_cons_self).1
      simp only [List.nil_append, List.cons_append, List.map_cons, if_neg hne]
      rw [filter_names fun s hs => hn (List.mem_cons_of_mem n hs)]

theorem names_ofText_clean (hc : ':' ∉ p) :
    (ofText (Path.cleanText p)).names = (Path.names p).map Utf8.encode :=
  names_ofText_clean_of_no_drive (Path.drive_of_no_colon hc)

/-- Cleaned paths are spellings of one path when their roots and names agree. -/
theorem same_ofText_clean (hp : ':' ∉ p) (hq : ':' ∉ q) :
    (ofText (Path.cleanText p)).Same (ofText (Path.cleanText q)) ↔
      Path.rooted p = Path.rooted q ∧ Path.names p = Path.names q := by
  have hrooted {p : List Char} (h : ':' ∉ p) :
      (ofText (Path.cleanText p)).isRooted = Path.rooted p := by
    rw [Bool.eq_iff_iff, isRooted_ofText, beq_iff_eq, Path.head?_cleanText h, Path.rooted_eq,
      Path.rest_of_no_colon h, beq_iff_eq]
  have hinj : Function.Injective Utf8.encode := fun _ _ => Utf8.encode_inj.1
  rw [Same, hrooted hp, hrooted hq, names_ofText_clean hp, names_ofText_clean hq,
    (List.map_injective_iff.2 hinj).eq_iff]

end Resources.FilePath
