import Mathlib.Logic.Relation
import Resources.Proofs.Path.Spellings

/-! Spellings of one path, one step at a time. A path sheds slashes and dots that say nothing, and two
paths are the same just when such steps lead from one to the other. A pass over the bytes of a path
finds what they have in common. -/
namespace Resources.FilePath

open Relation (EqvGen)

variable {p q : FilePath} {first first' name chunk b r : Bytes} {ss ss' : List Bytes}

/-- Sheds one slash or dot. The slash at the end of a path is not that of the root. -/
inductive Sheds : FilePath → FilePath → Prop
  | slash (front back : Bytes) : Sheds ⟨front ++ slash :: slash :: back⟩ ⟨front ++ slash :: back⟩
  | dot (front back : Bytes) : Sheds ⟨front ++ slash :: 0x2E :: slash :: back⟩ ⟨front ++ slash :: back⟩
  | lastDot (front : Bytes) : Sheds ⟨front ++ [slash, 0x2E]⟩ ⟨front ++ [slash]⟩
  | lastSlash {front : Bytes} (below : front ≠ []) : Sheds ⟨front ++ [slash]⟩ ⟨front⟩

/-! ### What is kept -/

theorem equivalence_same : Equivalence Same :=
  ⟨fun _ => ⟨rfl, rfl⟩, fun h => ⟨h.1.symm, h.2.symm⟩, fun h h' => ⟨h.1.trans h'.1, h.2.trans h'.2⟩⟩

theorem same_iff_segments (hs : p.segments = first :: ss) (hs' : q.segments = first' :: ss') :
    p.Same q ↔ p.isRooted = q.isRooted ∧ first = first' ∧ ss.filter moves = ss'.filter moves := by
  constructor
  · intro h
    obtain ⟨first₀, ss₀, ss₀', h₀, h₀', hmoves, -⟩ := h.segments
    rw [hs] at h₀
    rw [hs'] at h₀'
    obtain ⟨rfl, rfl⟩ := List.cons.inj h₀
    obtain ⟨rfl, rfl⟩ := List.cons.inj h₀'
    exact ⟨h.1, rfl, hmoves⟩
  · rintro ⟨hroot, rfl, hmoves⟩
    refine ⟨hroot, ?_⟩
    rw [names_of_segments hs, names_of_segments hs', hmoves]

theorem segments_append (b r : Bytes) :
    segments ⟨b ++ slash :: r⟩ = segments ⟨b⟩ ++ segments ⟨r⟩ :=
  List.splitOn_append_cons_self b r

/-- Behind a slash only the segments that lead anywhere count. -/
theorem same_behind (front : Bytes)
    (h : (segments ⟨b⟩).filter moves = (segments ⟨r⟩).filter moves) :
    Same ⟨front ++ slash :: b⟩ ⟨front ++ slash :: r⟩ := by
  obtain ⟨first, ss, hs⟩ := List.exists_cons_of_ne_nil (segments_ne_nil (f := ⟨front⟩))
  have hsegments (back : Bytes) :
      segments ⟨front ++ slash :: back⟩ = first :: (ss ++ segments ⟨back⟩) := by
    rw [segments_append, hs, List.cons_append]
  refine (same_iff_segments (hsegments b) (hsegments r)).2 ⟨?_, rfl, ?_⟩
  · cases front <;> rfl
  · rw [List.filter_append, List.filter_append, h]

theorem Sheds.same (h : Sheds p q) : p.Same q := by
  cases h with
  | slash front back =>
    have hback : segments ⟨FilePath.slash :: back⟩ = [] :: segments ⟨back⟩ := segments_append [] back
    refine same_behind front ?_
    rw [hback]
    rfl
  | dot front back =>
    have hback : segments ⟨0x2E :: FilePath.slash :: back⟩ = here :: segments ⟨back⟩ :=
      segments_append here back
    refine same_behind front ?_
    rw [hback]
    rfl
  | lastDot front => exact same_behind front rfl
  | lastSlash below => exact same_append_slashes below 1

/-! ### What is left -/

/-- A path is its first segment and the others, each with a slash in front. -/
theorem bytes_of_segments (hs : p.segments = first :: ss) :
    p.bytes = first ++ ss.flatMap (slash :: ·) := by
  have hb : p.bytes = List.intercalate [slash] p.segments := by simp [segments]
  rw [hb, hs]
  cases ss with
  | nil => simp
  | cons s ss =>
    rw [List.intercalate_cons_cons, flatMap_slash (List.cons_ne_nil s ss)]
    simp

/-- A segment that leads nowhere is shed when it is not the last. -/
theorem eqvGen_idle (hname : moves name = false) (front back : Bytes) :
    EqvGen Sheds ⟨front ++ slash :: name ++ slash :: back⟩ ⟨front ++ slash :: back⟩ := by
  rcases moves_eq_false.1 hname with rfl | rfl
  · simpa using EqvGen.rel _ _ (Sheds.slash front back)
  · simpa [here] using EqvGen.rel _ _ (Sheds.dot front back)

theorem eqvGen_last (hname : moves name = false) (front : Bytes) :
    EqvGen Sheds ⟨front ++ slash :: name⟩ ⟨front ++ [slash]⟩ := by
  rcases moves_eq_false.1 hname with rfl | rfl
  · exact EqvGen.refl _
  · exact EqvGen.rel _ _ (Sheds.lastDot front)

/-- Behind a first segment that is not empty, only the segments that lead anywhere are left. -/
theorem eqvGen_below {front : Bytes} (hfront : front ≠ []) (ss : List Bytes) :
    EqvGen Sheds ⟨front ++ ss.flatMap (slash :: ·)⟩
      ⟨front ++ (ss.filter moves).flatMap (slash :: ·)⟩ := by
  induction ss generalizing front with
  | nil => exact EqvGen.refl _
  | cons s ss ih =>
    cases hs : moves s with
    | true =>
      have hne : front ++ slash :: s ≠ [] := by simp [hfront]
      have hnext := ih hne
      simpa [List.filter_cons_of_pos hs] using hnext
    | false =>
      rw [List.filter_cons_of_neg (by simp [hs])]
      refine EqvGen.trans _ _ _ ?_ (ih hfront)
      cases ss with
      | nil =>
        have hlast := eqvGen_last hs front
        simpa using hlast.trans _ _ _ (.rel _ _ (.lastSlash hfront))
      | cons t ss =>
        have hidle := eqvGen_idle hs front (t ++ ss.flatMap (slash :: ·))
        simpa using hidle

/-- Of a rooted path the root and the segments that lead anywhere are left. -/
theorem eqvGen_rooted (hne : ss ≠ []) :
    EqvGen Sheds ⟨ss.flatMap (slash :: ·)⟩ (ofNames (ss.filter moves)) := by
  induction ss with
  | nil => exact absurd rfl hne
  | cons s ss ih =>
    cases hs : moves s with
    | true =>
      have hbelow := eqvGen_below (List.cons_ne_nil slash s) ss
      rw [List.filter_cons_of_pos hs, ofNames, if_neg (List.cons_ne_nil _ _)]
      exact hbelow
    | false =>
      rw [List.filter_cons_of_neg (by simp [hs])]
      cases ss with
      | nil => simpa [ofNames] using eqvGen_last hs []
      | cons t ss =>
        have hidle := eqvGen_idle hs [] (t ++ ss.flatMap (slash :: ·))
        refine EqvGen.trans _ _ _ ?_ (ih (List.cons_ne_nil t ss))
        simpa using hidle

/-- Two paths are the same just when they differ by slashes and dots that are shed one by one. -/
theorem same_iff_sheds : p.Same q ↔ EqvGen Sheds p q := by
  constructor
  · intro h
    obtain ⟨first, ss, ss', hs, hs', hmoves, hfirst⟩ := h.segments
    have hp : p = ⟨first ++ ss.flatMap (slash :: ·)⟩ := congrArg mk (bytes_of_segments hs)
    have hq : q = ⟨first ++ ss'.flatMap (slash :: ·)⟩ := congrArg mk (bytes_of_segments hs')
    by_cases hnil : first = []
    · subst hnil
      by_cases hss : ss = []
      · rw [hp, hq, hss, (hfirst rfl).1 hss]
        exact EqvGen.refl _
      · have hss' : ss' ≠ [] := fun h => hss ((hfirst rfl).2 h)
        rw [hp, hq]
        refine (eqvGen_rooted hss).trans _ _ _ (EqvGen.symm _ _ ?_)
        rw [hmoves]
        exact eqvGen_rooted hss'
    · rw [hp, hq]
      refine (eqvGen_below hnil ss).trans _ _ _ (EqvGen.symm _ _ ?_)
      rw [hmoves]
      exact eqvGen_below hnil ss'
  · intro h
    rw [← equivalence_same.eqvGen_iff]
    exact h.mono fun _ _ => Sheds.same

/-! ### One pass over the bytes -/

/-- Is a dot next, and nothing of its segment behind it? -/
def dotAhead (r : Bytes) : Bool := r = [0x2E] || [0x2E, slash].isPrefixOf r

/-- The chunks that a pass over the bytes finds between slashes, behind the chunk it has begun. It
passes over a dot that is a segment behind a slash. -/
def chunks (overDot : Bool) (chunk : Bytes) : Bytes → List Bytes
  | [] => if chunk = [] then [] else [chunk]
  | b :: r =>
    if b = slash then (if chunk = [] then [] else [chunk]) ++ chunks (dotAhead r) [] r
    else if overDot then chunks false chunk r
    else chunks false (chunk ++ [b]) r

theorem segments_cons (x : UInt8) (r : Bytes) : segments ⟨x :: r⟩ =
    if x = slash then [] :: segments ⟨r⟩ else (segments ⟨r⟩).modifyHead (x :: ·) := by
  simp [segments, List.splitOn_cons_eq_if_modifyHead]

theorem segments_eq_cons (hs : segments ⟨r⟩ = name :: ss) :
    name = [] ∧ (r = [] ∧ ss = [] ∨ ∃ r', r = slash :: r' ∧ segments ⟨r'⟩ = ss) ∨
      ∃ x name' r', name = x :: name' ∧ x ≠ slash ∧ r = x :: r' ∧ segments ⟨r'⟩ = name' :: ss := by
  cases r with
  | nil =>
    obtain ⟨rfl, rfl⟩ := List.cons.inj hs
    exact Or.inl ⟨rfl, Or.inl ⟨rfl, rfl⟩⟩
  | cons x r =>
    rw [segments_cons] at hs
    by_cases hx : x = slash
    · rw [if_pos hx] at hs
      obtain ⟨rfl, rfl⟩ := List.cons.inj hs
      exact Or.inl ⟨rfl, Or.inr ⟨r, by rw [hx], rfl⟩⟩
    · obtain ⟨t, ts, ht⟩ := List.exists_cons_of_ne_nil (segments_ne_nil (f := ⟨r⟩))
      rw [if_neg hx, ht] at hs
      obtain ⟨rfl, rfl⟩ := List.cons.inj hs
      exact Or.inr ⟨x, t, r, rfl, hx, rfl, ht⟩

/-- A dot is ahead where the next segment is one. -/
theorem dotAhead_iff (hs : segments ⟨r⟩ = name :: ss) : dotAhead r = true ↔ name = here := by
  rcases segments_eq_cons hs with ⟨rfl, ⟨rfl, -⟩ | ⟨r, rfl, -⟩⟩ | ⟨x, name, r, rfl, hx, rfl, hr⟩
  · decide
  · simp [dotAhead, here, slash]
  · have hdot : (x :: r : Bytes) = [0x2E] ∨ [0x2E, slash] <+: x :: r ↔
        x = 0x2E ∧ (r = [] ∨ r.head? = some slash) := by
      cases r <;> simp [eq_comm]
    rw [dotAhead, Bool.or_eq_true, decide_eq_true_eq, List.isPrefixOf_iff_prefix, hdot, here,
      List.cons.injEq]
    refine and_congr_right fun _ => ?_
    rcases segments_eq_cons hr with ⟨rfl, ⟨rfl, -⟩ | ⟨r, rfl, -⟩⟩ | ⟨y, name, r, rfl, hy, rfl, -⟩
    · simp
    · simp
    · simp [hy]

/-- What a pass finds: the first segment if it is not empty, and the others that lead anywhere. -/
theorem chunks_eq (hs : segments ⟨r⟩ = name :: ss) : chunks false chunk r =
    (if chunk ++ name = [] then [] else [chunk ++ name]) ++ ss.filter moves := by
  -- A dot that is passed over takes its byte with it, so the induction is on the length.
  induction hlength : r.length using Nat.strong_induction_on generalizing r chunk name ss with
  | _ length ih =>
    rcases segments_eq_cons hs with ⟨rfl, ⟨rfl, rfl⟩ | ⟨r, rfl, rfl⟩⟩ | ⟨x, name, r, rfl, hx, rfl, hr⟩
    · simp [chunks]
    · obtain ⟨t, ts, ht⟩ := List.exists_cons_of_ne_nil (segments_ne_nil (f := ⟨r⟩))
      have hnext : chunks (dotAhead r) [] r = (t :: ts).filter moves := by
        cases hdot : dotAhead r with
        | false =>
          have hne : t ≠ here := fun h => by simp [(dotAhead_iff ht).2 h] at hdot
          rw [ih r.length (by simp [← hlength]) ht rfl, List.nil_append]
          by_cases hnil : t = []
          · simp [hnil, moves]
          · simp [hnil, hne, moves]
        | true =>
          obtain rfl := (dotAhead_iff ht).1 hdot
          rcases segments_eq_cons ht with ⟨h, -⟩ | ⟨x, name, r, h, hx, rfl, hr⟩
          · simp [here] at h
          · obtain ⟨rfl, rfl⟩ := List.cons.inj h
            have hover : chunks true [] (0x2E :: r) = chunks false [] r := by
              rw [chunks, if_neg hx, if_pos rfl]
            rw [hover, ih r.length (by simp only [List.length_cons] at hlength; omega) hr rfl]
            rfl
      rw [chunks, if_pos rfl, hnext, ht, List.append_nil]
    · rw [chunks, if_neg hx, if_neg Bool.false_ne_true, ih r.length (by simp [← hlength]) hr rfl,
        List.append_assoc, List.singleton_append]

/-- A pass over the bytes of a path finds its names. -/
theorem chunks_bytes (p : FilePath) : chunks false [] p.bytes = p.names := by
  obtain ⟨first, ss, hs⟩ := List.exists_cons_of_ne_nil (segments_ne_nil (f := p))
  rw [chunks_eq hs, names_of_segments hs, List.nil_append]
  split <;> rfl

end Resources.FilePath
