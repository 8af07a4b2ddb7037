import Resources.Proofs.Path.Names
import Resources.Proofs.Text.Lossy

/-! Spellings of one path. Empty segments and dots inside it make no difference, neither to a path
that is read relative to it nor to its names. At its end they do: what ends in one is a directory. -/
namespace Resources

namespace Path

variable {p q t u : List Char} {s : Segment} {ss : List Segment} {place : List Segment}

/-- Does a segment lead anywhere? -/
def moves (s : Segment) : Bool := s ≠ [] && s ≠ here

theorem foldl_step_filter (ss : List Segment) :
    (ss.filter moves).foldl step place = ss.foldl step place := by
  induction ss generalizing place with
  | nil => rfl
  | cons s ss ih =>
    cases hs : moves s with
    | true => rw [List.filter_cons_of_pos hs, List.foldl_cons, List.foldl_cons, ih]
    | false =>
      have hidle : s = [] ∨ s = here := by
        rw [moves, Bool.and_eq_false_iff] at hs
        simpa using hs
      have hstep : step place s = place := by rcases hidle with rfl | rfl <;> simp
      rw [List.filter_cons_of_neg (by simp [hs]), List.foldl_cons, hstep, ih]

theorem splitDrive_append_slash (p u : List Char) :
    splitDrive (p ++ '/' :: u) = ((splitDrive p).1, (splitDrive p).2 ++ '/' :: u) := by
  rcases splitDrive_cases p with hp | ⟨c, r, hc, rfl, hp⟩
  · rcases splitDrive_cases (p ++ '/' :: u) with hs | ⟨c, r, hc, he, -⟩
    · rw [hs, hp]
    · exfalso
      cases p with
      | nil => exact ne_slash_of_alpha hc (List.cons.inj he).1.symm
      | cons a p =>
        obtain ⟨rfl, he⟩ := List.cons.inj he
        cases p with
        | nil => simp at he
        | cons b p =>
          obtain ⟨rfl, -⟩ : b = ':' ∧ p ++ '/' :: u = r := by simpa using he
          simp [splitDrive, hc] at hp
  · simp [splitDrive, hc]

/-- A text of more segments than one is the first of them and a text of the others. -/
theorem eq_append_slash (hs : segments t = s :: ss) (hne : ss ≠ []) :
    ∃ u, t = s ++ '/' :: u ∧ segments u = ss := by
  obtain ⟨next, ss, rfl⟩ := List.exists_cons_of_ne_nil hne
  have ht := intercalate_segments (p := t)
  rw [hs, List.intercalate_cons_cons] at ht
  refine ⟨List.intercalate ['/'] (next :: ss), by simpa using ht.symm, ?_⟩
  apply segments_intercalate
  · intro seg hseg
    exact slash_not_mem_segment (hs ▸ List.mem_cons_of_mem _ hseg)
  · exact List.cons_ne_nil _ _

/-- Cleaning looks at the first segment, at those behind it that lead anywhere, and at the last. -/
theorem cleanText_congr {ss' : List Segment} (ht : unify t = t) (hu : unify u = u)
    (hs : segments t = s :: ss) (hs' : segments u = s :: ss') (hne : ss ≠ []) (hne' : ss' ≠ [])
    (hmoves : ss.filter moves = ss'.filter moves) (hlast : ss.getLast? = ss'.getLast?) :
    cleanText t = cleanText u := by
  obtain ⟨x, rfl, hx⟩ := eq_append_slash hs hne
  obtain ⟨y, rfl, hy⟩ := eq_append_slash hs' hne'
  have hsplit (z : List Char) := splitDrive_append_slash s z
  have hrest {z : List Char} (hz : unify (s ++ '/' :: z) = s ++ '/' :: z) :
      rest (s ++ '/' :: z) = (splitDrive s).2 ++ '/' :: z := by rw [rest, hz, hsplit]
  have hd : drive (s ++ '/' :: x) = drive (s ++ '/' :: y) := by
    rw [drive, drive, ht, hu, hsplit, hsplit]
  rw [cleanText_eq_iff hd, hrest ht, hrest hu]
  generalize (splitDrive s).2 = front
  have hhead : (front ++ '/' :: x).head? = some '/' ↔ (front ++ '/' :: y).head? = some '/' := by
    cases front <;> simp
  refine ⟨hhead, fun place => ?_, Or.inl ?_⟩
  · rw [walk, walk, segments_append_slash, segments_append_slash, hx, hy, List.foldl_append,
      List.foldl_append, ← foldl_step_filter ss, ← foldl_step_filter ss', hmoves]
    simp only [hhead]
  · have hend {z : List Char} {zs : List Segment} (hz : segments z = zs) (hzs : zs ≠ []) :
        (front ++ '/' :: z).getLast? = some '/' ↔ zs.getLast? = some [] := by
      have hback := getLast?_segments_eq_nil (p := front ++ '/' :: z)
      rw [segments_append_slash, hz, List.getLast?_append_of_ne_nil _ hzs] at hback
      simpa using hback.symm
    rw [hend hx hne, hend hy hne', hlast]

end Path

namespace FilePath

variable {p q : FilePath} {first name : Bytes} {ss ss' : List Bytes}

/-! ### Segments of two spellings -/

/-- Does a segment lead anywhere? -/
def moves (name : Bytes) : Bool := name ≠ [] && name ≠ here

/-- Does the path end in a segment that leads nowhere? -/
def EndsOpen (p : FilePath) : Prop := ∃ name, p.segments.getLast? = some name ∧ moves name = false

instance (p : FilePath) : Decidable p.EndsOpen :=
  decidable_of_iff (p.segments.getLast?.any (!moves ·) = true) <| by
    simp [EndsOpen, Option.any_eq_true]

theorem moves_eq_false : moves name = false ↔ name = [] ∨ name = here := by
  rw [moves, Bool.and_eq_false_iff]
  simp

theorem names_of_segments (hs : p.segments = first :: ss) :
    p.names = if first = [] then ss.filter moves else first :: ss.filter moves := by
  rw [names, hs]
  rfl

theorem isRooted_iff_segments (hs : p.segments = first :: ss) :
    p.isRooted = true ↔ first = [] ∧ ss ≠ [] := by
  obtain ⟨bs⟩ := p
  unfold segments at hs
  cases bs with
  | nil =>
    obtain ⟨rfl, rfl⟩ : [] = first ∧ [] = ss := by simpa using hs
    decide
  | cons b bs =>
    have hne : bs.splitOn slash ≠ [] := by simp
    obtain ⟨next, rest, hrest⟩ := List.exists_cons_of_ne_nil hne
    rw [List.splitOn_cons_eq_if_modifyHead, hrest] at hs
    by_cases hb : b = slash
    · rw [if_pos (by simp [hb])] at hs
      obtain ⟨rfl, rfl⟩ := List.cons.inj hs
      simp [isRooted, hb]
    · rw [if_neg (by simp [hb])] at hs
      obtain ⟨rfl, -⟩ := List.cons.inj hs
      simp [isRooted, hb]

/-- Two spellings begin alike and lead over the same names behind that. -/
theorem Same.segments (h : p.Same q) : ∃ first ss ss', p.segments = first :: ss ∧
    q.segments = first :: ss' ∧ ss.filter moves = ss'.filter moves ∧
    (first = [] → (ss = [] ↔ ss' = [])) := by
  obtain ⟨first, ss, hs⟩ := List.exists_cons_of_ne_nil (segments_ne_nil (f := p))
  obtain ⟨first', ss', hs'⟩ := List.exists_cons_of_ne_nil (segments_ne_nil (f := q))
  obtain ⟨hroot, hnames⟩ := h
  have hiff : first = [] ∧ ss ≠ [] ↔ first' = [] ∧ ss' ≠ [] := by
    rw [← isRooted_iff_segments hs, ← isRooted_iff_segments hs', hroot]
  rw [names_of_segments hs, names_of_segments hs'] at hnames
  by_cases hf : first = []
  · by_cases hf' : first' = []
    · subst hf hf'
      refine ⟨[], ss, ss', hs, hs', by simpa using hnames, fun _ => ?_⟩
      simpa [not_iff_not] using hiff
    · have hnil : ss = [] := by
        by_contra hne
        exact hf' (hiff.1 ⟨hf, hne⟩).1
      simp [hf, hf', hnil] at hnames
  · by_cases hf' : first' = []
    · have hnil : ss' = [] := by
        by_contra hne
        exact hf (hiff.2 ⟨hf', hne⟩).1
      simp [hf, hf', hnil] at hnames
    · obtain ⟨rfl, hmoves⟩ : first = first' ∧ ss.filter moves = ss'.filter moves := by
        simpa [hf, hf'] using hnames
      exact ⟨first, ss, ss', hs, hs', hmoves, fun h => absurd h hf⟩

/-- More slashes at its end do not change what is on a path. -/
theorem same_append_slashes (hp : p.bytes ≠ []) (n : Nat) :
    Same ⟨p.bytes ++ List.replicate n slash⟩ p := by
  induction n with
  | zero => simp [Same]
  | succ n ih =>
    have hmore : (⟨p.bytes ++ List.replicate (n + 1) slash⟩ : FilePath) =
        slashed ⟨p.bytes ++ List.replicate n slash⟩ := by
      rw [slashed, List.replicate_succ', List.append_assoc]
    have hne : p.bytes ++ List.replicate n slash ≠ [] := by simp [hp]
    obtain ⟨first, ss, hs⟩ := List.exists_cons_of_ne_nil
      (segments_ne_nil (f := ⟨p.bytes ++ List.replicate n slash⟩))
    rw [hmore]
    constructor
    · rw [isRooted_slashed hne, ih.1]
    · have hs' : (slashed ⟨p.bytes ++ List.replicate n slash⟩).segments = first :: (ss ++ [[]]) := by
        rw [segments_slashed, hs, List.cons_append]
      rw [← ih.2, names_of_segments hs', names_of_segments hs, List.filter_append]
      simp [moves]

theorem eq_of_segments (h : p.segments = q.segments) : p = q := by
  have hp : p.bytes = List.intercalate [slash] p.segments := by simp [FilePath.segments]
  have hq : q.bytes = List.intercalate [slash] q.segments := by simp [FilePath.segments]
  obtain ⟨b⟩ := p
  obtain ⟨b'⟩ := q
  exact congrArg FilePath.mk (hp.trans ((congrArg _ h).trans hq.symm))

theorem endsOpen_iff (hs : p.segments = first :: ss) (hne : ss ≠ []) :
    p.EndsOpen ↔ ∃ name, ss.getLast? = some name ∧ moves name = false := by
  rw [EndsOpen, hs, List.getLast?_cons_of_ne_nil hne]

/-- Behind one segment that is all of a path, another spelling has at most segments that lead
nowhere. -/
theorem tail_eq_nil (hs : p.segments = [first]) (hs' : q.segments = first :: ss)
    (hmoves : ss.filter moves = []) (hfirst : first = [] → ss = []) (hp : p.bytes ≠ here)
    (hopen : q.EndsOpen → p.EndsOpen) : ss = [] := by
  by_contra hne
  have hq : q.EndsOpen := by
    rw [endsOpen_iff hs' hne]
    have hlast := List.getLast?_eq_some_getLast hne
    refine ⟨_, hlast, ?_⟩
    have hall := List.filter_eq_nil_iff.1 hmoves _ (List.mem_of_getLast? hlast)
    simpa using hall
  obtain ⟨name, hlast, hidle⟩ := hopen hq
  obtain rfl : first = name := by simpa [hs] using hlast
  rcases moves_eq_false.1 hidle with rfl | rfl
  · exact hne (hfirst rfl)
  · have hb : p.bytes = List.intercalate [slash] p.segments := by simp [FilePath.segments]
    rw [hs] at hb
    exact hp (by simpa using hb)

/-- Two spellings that end alike are the same path, or both have more than one segment. -/
theorem Same.tails (h : p.Same q) (hopen : p.EndsOpen ↔ q.EndsOpen) (hp : p.bytes ≠ here)
    (hq : q.bytes ≠ here) : p = q ∨ ∃ first ss ss', p.segments = first :: ss ∧
      q.segments = first :: ss' ∧ ss ≠ [] ∧ ss' ≠ [] ∧ ss.filter moves = ss'.filter moves := by
  obtain ⟨first, ss, ss', hs, hs', hmoves, hfirst⟩ := h.segments
  by_cases hnil : ss = []
  · subst hnil
    have hnil' : ss' = [] := tail_eq_nil hs hs' hmoves.symm (fun hf => (hfirst hf).1 rfl) hp hopen.2
    exact Or.inl (eq_of_segments (by rw [hs, hs', hnil']))
  · by_cases hnil' : ss' = []
    · subst hnil'
      exact absurd (tail_eq_nil hs' hs hmoves (fun hf => (hfirst hf).2 rfl) hq hopen.1) hnil
    · exact Or.inr ⟨first, ss, ss', hs, hs', hnil, hnil', hmoves⟩

/-! ### Read relative to a spelling -/

/-- The segments that one segment is shown as. A backslash in it separates. -/
def shownSegments (name : Bytes) : List Path.Segment :=
  Path.segments (Path.unify (Utf8.decodeLossy name))

theorem shownSegments_ne_nil : shownSegments name ≠ [] := Path.segments_ne_nil

theorem segments_lossy (p : FilePath) :
    Path.segments (Path.unify p.lossy.toList) = p.segments.flatMap shownSegments := by
  have hlist : ∀ names : List Bytes, names ≠ [] →
      Path.segments (Path.unify (Utf8.decodeLossy (List.intercalate [slash] names))) =
        names.flatMap shownSegments := by
    intro names hne
    induction names with
    | nil => exact absurd rfl hne
    | cons name names ih =>
      cases names with
      | nil => simp [shownSegments]
      | cons next names =>
        have hslash : Path.unify ('/' :: Utf8.decodeLossy (List.intercalate [slash] (next :: names))) =
            '/' :: Path.unify (Utf8.decodeLossy (List.intercalate [slash] (next :: names))) := rfl
        rw [List.intercalate_cons_cons, List.append_assoc, List.singleton_append,
          Utf8.decodeLossy_append (by decide), show Char.ofNat slash.toNat = '/' from rfl,
          Path.unify_append, hslash, Path.segments_append_slash, ih (by simp), List.flatMap_cons]
        rfl
  have hb : p.bytes = List.intercalate [slash] p.segments := by simp [FilePath.segments]
  rw [lossy, String.toList_ofList, hb, hlist p.segments segments_ne_nil]

theorem shownSegments_idle (h : moves name = false) :
    (shownSegments name).filter Path.moves = [] ∧ (shownSegments name).dropLast = [] := by
  rcases moves_eq_false.1 h with rfl | rfl <;> decide

theorem filter_shownSegments (ss : List Bytes) : (ss.flatMap shownSegments).filter Path.moves =
    ((ss.filter moves).flatMap shownSegments).filter Path.moves := by
  induction ss with
  | nil => rfl
  | cons name ss ih =>
    cases hn : moves name with
    | true => simp [List.filter_cons_of_pos hn, ih]
    | false => simp [List.filter_cons_of_neg (Bool.eq_false_iff.1 hn), ih, (shownSegments_idle hn).1]

theorem dropLast_shownSegments (init : List Bytes) (last : Bytes) :
    ((init ++ [last]).flatMap shownSegments).dropLast =
      init.flatMap shownSegments ++ (shownSegments last).dropLast := by
  rw [List.flatMap_append, List.flatMap_singleton,
    List.dropLast_append_of_ne_nil shownSegments_ne_nil]

/-- Without what is shown last, two spellings that end alike are shown to lead over the same. -/
theorem filter_dropLast_shownSegments (hne : ss ≠ []) (hne' : ss' ≠ [])
    (hmoves : ss.filter moves = ss'.filter moves)
    (hopen : (∃ name, ss.getLast? = some name ∧ moves name = false) ↔
      ∃ name, ss'.getLast? = some name ∧ moves name = false) :
    ((ss.flatMap shownSegments).dropLast).filter Path.moves =
      ((ss'.flatMap shownSegments).dropLast).filter Path.moves := by
  obtain ⟨init, last, rfl⟩ := (List.eq_nil_or_concat' ss).resolve_left hne
  obtain ⟨init', last', rfl⟩ := (List.eq_nil_or_concat' ss').resolve_left hne'
  simp only [List.getLast?_concat, Option.some_inj, exists_eq_left'] at hopen
  rw [dropLast_shownSegments, dropLast_shownSegments, List.filter_append, List.filter_append,
    filter_shownSegments init, filter_shownSegments init']
  rw [List.filter_append, List.filter_append] at hmoves
  cases hlast : moves last with
  | false =>
    have hlast' := hopen.1 hlast
    rw [(shownSegments_idle hlast).2, (shownSegments_idle hlast').2]
    rw [List.filter_cons_of_neg (Bool.eq_false_iff.1 hlast),
      List.filter_cons_of_neg (Bool.eq_false_iff.1 hlast')] at hmoves
    simpa using congrArg (fun ns => (ns.flatMap shownSegments).filter Path.moves) hmoves
  | true =>
    have hlast' : moves last' = true := by
      rw [← Bool.not_eq_false, ← hopen, hlast]
      simp
    rw [List.filter_cons_of_pos hlast, List.filter_cons_of_pos hlast'] at hmoves
    obtain ⟨hinit, hsame⟩ := List.append_inj' hmoves rfl
    rw [hinit, (List.cons.inj hsame).1]

theorem segments_directory_lossy {t : Path.Segment} {ts : List Path.Segment}
    (hs : p.segments = first :: ss) (hne : ss ≠ []) (ht : shownSegments first = t :: ts)
    (r : List Char) : Path.segments (Path.directory (Path.unify p.lossy.toList) ++ r) =
      t :: (ts ++ ((ss.flatMap shownSegments).dropLast ++ Path.segments r)) := by
  have hflat : ss.flatMap shownSegments ≠ [] := by
    obtain ⟨name, ss, rfl⟩ := List.exists_cons_of_ne_nil hne
    simp [shownSegments_ne_nil]
  rw [Path.segments_directory_append, segments_lossy, hs, List.flatMap_cons,
    List.dropLast_append_of_ne_nil hflat, ht]
  simp

theorem cleanText_directory_congr (h : p.Same q) (hopen : p.EndsOpen ↔ q.EndsOpen)
    (hp : p.bytes ≠ here) (hq : q.bytes ≠ here) (r : List Char) :
    Path.cleanText (Path.directory (Path.unify p.lossy.toList) ++ Path.unify r) =
      Path.cleanText (Path.directory (Path.unify q.lossy.toList) ++ Path.unify r) := by
  -- A name can show as several segments where its bytes hold a backslash. What is shown of the last
  -- one is cut off, unless it leads nowhere.
  rcases h.tails hopen hp hq with rfl | ⟨first, ss, ss', hs, hs', hne, hne', hmoves⟩
  · rfl
  rw [endsOpen_iff hs hne, endsOpen_iff hs' hne'] at hopen
  have hfilter := filter_dropLast_shownSegments hne hne' hmoves hopen
  have hfirst : shownSegments first ≠ [] := shownSegments_ne_nil
  obtain ⟨t, ts, ht⟩ := List.exists_cons_of_ne_nil hfirst
  have hr : Path.segments (Path.unify r) ≠ [] := Path.segments_ne_nil
  refine Path.cleanText_congr (Path.unify_relative Path.unify_unify)
    (Path.unify_relative Path.unify_unify) (segments_directory_lossy hs hne ht _)
    (segments_directory_lossy hs' hne' ht _) (by simp [hr]) (by simp [hr]) ?_ ?_
  · simp only [List.filter_append, hfilter]
  · rw [← List.append_assoc, ← List.append_assoc, List.getLast?_append_of_ne_nil _ hr,
      List.getLast?_append_of_ne_nil _ hr]

/-- What is read relative to a path does not depend on how the path is spelled, as long as spellings
end alike. -/
theorem relative_congr (h : p.Same q) (hopen : p.EndsOpen ↔ q.EndsOpen) (hp : p.bytes ≠ here)
    (hq : q.bytes ≠ here) (r : String) : Path.relative p.lossy r = Path.relative q.lossy r := by
  have hclean := cleanText_directory_congr h hopen hp hq r.toList
  unfold Path.relative Path.relativeText
  rw [hclean]

end FilePath

end Resources
