import Mathlib.Data.List.Flatten
import Resources.Proofs.Disk.Walk
import Resources.Proofs.Path.Drive

/-! Cleaned paths on a disk. A path that leads somewhere is cleaned to one that leads there too, if
something is left of it and of its drive. -/
namespace Resources.Disk

open Resources.Path

variable {d : Disk} {l l' m : Location} {p : List Char} {first : Segment} {after : List Segment}
  {a : Char} {n : Node}

/-- A walk over the segments of a text. -/
def trace (d : Disk) (l : Location) (ss : List Segment) : Except Fault Location :=
  d.follow l (ss.map Utf8.encode)

theorem resolve_ofText : d.resolve (.ofText p) = .ok l ↔ '\x00' ∉ p ∧ p ≠ [] ∧
    (Utf8.encode p).length < pathLimit ∧ d.trace (d.start (.ofText p)) (segments p) = .ok l := by
  rw [resolve_eq_ok, FilePath.bytes_ofText, FilePath.nul_mem_encode, FilePath.segments_ofText, Ne,
    FilePath.encode_eq_nil]
  rfl

theorem directory_of_trailing (hp : p.getLast? = some '/') (h : d.trace l (segments p) = .ok l') :
    d.node? l' = some .directory := by
  obtain ⟨mid, rfl⟩ := List.getLast?_eq_some_iff.1 hp
  rw [segments_append_end, trace, List.map_append] at h
  obtain ⟨k, -, hk⟩ := follow_append.1 h
  obtain ⟨rfl, hd⟩ := enter_segment_idle (Or.inl rfl) (follow_singleton.1 hk)
  exact hd

theorem trace_append {ss ts : List Segment} (h : d.trace l ss = .ok m)
    (ht : d.trace m ts = .ok l') : d.trace l (ss ++ ts) = .ok l' := by
  rw [trace, List.map_append]
  exact follow_append.2 ⟨m, h, ht⟩

/-- A slash that cleaning leaves at the end asks for a directory that is there. -/
theorem trace_gap (hp : '\\' ∉ p) (h : d.trace m (segments p) = .ok l)
    (hn : names p = [] → d.node? l = some .directory) : d.trace l (gap p) = .ok l := by
  rcases gap_cases p with ⟨hc, hg⟩ | ⟨-, hg⟩ <;> rw [hg]
  · refine follow_singleton.2 (enter_idle ?_ (Or.inl rfl))
    rcases hc with ht | hc
    · refine directory_of_trailing ?_ h
      obtain ⟨mid, hmid⟩ := List.getLast?_eq_some_iff.1 (getLast?_of_trailing ht)
      rw [← unify_eq_self hp, ← drive_append_rest, hmid, ← List.append_assoc]
      exact List.getLast?_concat
    · exact hn hc
  · rfl

/-- Without a drive, the cleaned path leads where the path leads. -/
theorem trace_clean (hp : '\\' ∉ p) (hd : drive p = []) (hc : cleanText p ≠ [])
    (h : d.trace (d.start (.ofText p)) (segments p) = .ok l) :
    d.trace (d.start (.ofText (cleanText p))) (segments (cleanText p)) = .ok l := by
  have hr : rest p = p := by simpa [hd, unify_eq_self hp] using drive_append_rest (p := p)
  have hclean : cleanText p = plain p := by rw [cleanText_eq, hd, List.nil_append]
  have hrooted : rooted p = (FilePath.ofText p).isRooted := by simp [rooted_eq, hr]
  have hstart : d.start (.ofText (cleanText p)) = d.start (.ofText p) := by
    have : (FilePath.ofText (plain p)).isRooted = (FilePath.ofText p).isRooted := by
      rw [← hrooted, Bool.eq_iff_iff, ← rooted_plain, FilePath.isRooted_ofText, beq_iff_eq]
    rw [start, start, hclean, this]
  have hroot (hrt : rooted p = true) : d.start (.ofText p) = [] := by
    rw [start, ← hrooted, hrt, if_pos rfl]
  have hnames : d.trace (d.start (.ofText p)) (names p) = .ok l := by
    rw [names_eq, hr]
    exact follow_foldl_push folded_nil hroot follow_nil h
  rw [hstart, hclean, segments_plain]
  refine trace_append (trace_append ?_ hnames) (trace_gap hp h fun hn => ?_)
  · cases hrt : rooted p with
    | false =>
      rw [lead_of_relative hrt]
      rfl
    | true =>
      rw [lead_of_rooted hrt, hroot hrt]
      rfl
  · rw [hn] at hnames
    obtain rfl : d.start (.ofText p) = l := by simpa [trace] using hnames
    cases hrt : rooted p with
    | true =>
      rw [hroot hrt]
      rfl
    | false =>
      have hempty : cleanText p = [] := by
        simp [hclean, plain, Lexical.plain, ofText_eq, hrt, hn]
      exact absurd hempty hc

theorem start_drive (hd : drive p = [a, ':']) {q : List Char} :
    d.start (.ofText (a :: q)) = d.home := by
  simp [start, ne_slash_of_alpha (alpha_of_drive hd)]

/-- Behind a drive that is kept, the cleaned path leads where the path leads. -/
theorem trace_clean_drive (hp : '\\' ∉ p) (hd : drive p = [a, ':']) (hk : KeepsDrive p)
    (h : d.trace (d.start (.ofText p)) (segments p) = .ok l) :
    d.trace (d.start (.ofText (cleanText p))) (segments (cleanText p)) = .ok l := by
  have hpe : a :: ':' :: rest p = p := by
    simpa [hd, unify_eq_self hp] using drive_append_rest (p := p)
  have hce : cleanText p = a :: ':' :: plain p := by simp [cleanText_eq, hd]
  by_cases hr : rest p = []
  · have hplain : plain p = [] := by simpa [hr] using plain_sublist (p := p)
    rwa [hce, hplain, ← hr, hpe]
  obtain ⟨first, after, hs⟩ := List.exists_cons_of_ne_nil (segments_ne_nil (p := rest p))
  have hsp : segments p = (a :: ':' :: first) :: after := by
    rw [← segments_unify_drive hd hs, unify_eq_self hp]
  have hstart : d.start (.ofText p) = d.home := by
    rw [← hpe]
    exact start_drive hd
  have hcons := h
  rw [hsp, hstart] at hcons
  obtain ⟨m, hm, hafter⟩ := follow_cons.1 hcons
  have hfold : d.trace m (after.foldl (push false) []).reverse = .ok l :=
    follow_foldl_push folded_nil (by simp) follow_nil hafter
  rw [segments_cleanText_drive hd hs hr hk, hce, start_drive hd]
  refine follow_cons.2 ⟨m, hm, trace_append hfold (trace_gap hp h fun hn => ?_)⟩
  -- Without names there is only the root behind the drive, and the path goes on from there.
  have hlead := lead_append_names hs hr ((keepsDrive_iff hd hs).1 hk)
  rw [hn] at hlead
  cases hrt : rooted p with
  | false => simp [lead_of_relative hrt] at hlead
  | true =>
    have hnil : (after.foldl (push false) []).reverse = [] := by
      rw [lead_of_rooted hrt] at hlead
      exact (List.cons.inj hlead).2.symm
    rw [hnil] at hfold
    obtain rfl : m = l := by simpa [trace] using hfold
    obtain ⟨y, hy⟩ := List.head?_eq_some_iff.1 (by simpa [rooted_eq] using hrt)
    have hne : after ≠ [] := by
      rw [hy, segments_slash_cons] at hs
      rw [← (List.cons.inj hs).2]
      exact segments_ne_nil
    exact directory_of_follow (by simpa using hne) hafter

/-- Cleaning makes no path longer, and puts nothing in that was not there. -/
theorem encode_cleanText_sublist (hp : '\\' ∉ p) :
    (Utf8.encode (cleanText p)).Sublist (Utf8.encode p) := by
  have hs := cleanText_sublist p
  rw [unify_eq_self hp] at hs
  exact hs.flatMap _

theorem resolve_clean (hp : '\\' ∉ p) (hc : cleanText p ≠ []) (hk : KeepsDrive p)
    (h : d.resolve (.ofText p) = .ok l) : d.resolve (.ofText (cleanText p)) = .ok l := by
  obtain ⟨hnul, -, hlen, htrace⟩ := resolve_ofText.1 h
  have hs := encode_cleanText_sublist hp
  refine resolve_ofText.2 ⟨?_, hc, hs.length_le.trans_lt hlen, ?_⟩
  · rw [← FilePath.nul_mem_encode] at hnul ⊢
    exact fun hm => hnul (hs.subset hm)
  · rcases drive_cases p with hd | ⟨a, -, hd⟩
    · exact trace_clean hp hd hc htrace
    · exact trace_clean_drive hp hd hk htrace

theorem find_clean {t : String} (ht : '\\' ∉ t.toList) (hc : clean t ≠ "")
    (hk : KeepsDrive t.toList) (h : d.find (.ofString t) = .ok n) :
    d.find (.ofString (clean t)) = .ok n := by
  have hne : cleanText t.toList ≠ [] := by
    rwa [← toList_clean, Ne, String.toList_eq_nil_iff]
  obtain ⟨l, hl, hn⟩ := find_eq_ok.1 h
  refine find_eq_ok.2 ⟨l, ?_, hn⟩
  rw [FilePath.ofString_eq, toList_clean]
  exact resolve_clean ht hne hk hl

end Resources.Disk
