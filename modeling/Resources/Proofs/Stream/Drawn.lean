import Resources.Proofs.Stream.Whole

/-! Bytes drawn from open streams and buffered channels, in portions of any size or line by line.
Whatever is drawn comes off the front of what is there, and what is read ahead is not lost. -/
namespace Resources

variable {d : Disk} {b out rest : Bytes} {n fuel : Nat}

/-- A number of bytes that is asked for, or that of all there are, counted past the first of them. -/
theorem getD_length_append {n : Option Nat} (h : ∀ k, n = some k → out.length ≤ k) :
    n.getD (out ++ rest).length = out.length + (n.map (· - out.length)).getD rest.length := by
  cases n with
  | none => exact List.length_append
  | some k =>
    have hk := h k rfl
    simp only [Option.map_some, Option.getD_some]
    omega

theorem drop_length_take (b : Bytes) (n : Nat) : b.drop (b.take n).length = b.drop n :=
  List.append_cancel_left
    ((Stream.take_append_drop_length b n).trans (List.take_append_drop n b).symm)

theorem getD_pos {n : Option Nat} {size : Nat} (hn : n ≠ some 0) (hs : 0 < size) :
    0 < n.getD size := by
  cases n with
  | none => exact hs
  | some k =>
    have hk : k ≠ 0 := by
      rintro rfl
      exact hn rfl
    exact Nat.pos_of_ne_zero hk

/-- What is still asked for once the bytes at hand are taken. -/
theorem map_sub_length (n : Option Nat) (b : Bytes) :
    n.map (· - b.length) = n.map (· - (b.take (n.getD b.length)).length) := by
  cases n with
  | none => rfl
  | some k =>
    simp only [Option.map_some, Option.getD_some, List.length_take]
    congr 1
    omega

/-! ### Streams -/

/-- The stream gives these bytes, and then the end. -/
def Stream.Holds (d : Disk) (s : Stream) (b : Bytes) : Prop := s.Flows ∧ s.remaining d = (b, none)

theorem Source.read_of_ending {s : Source} (h : s.ending = none) (n : Nat) :
    s.read n = .ok (s.rest.take (min n (s.limit.getD n)),
      { s with rest := s.rest.drop (min n (s.limit.getD n)) }) := by
  obtain ⟨rest, limit, ending⟩ := s
  obtain rfl : ending = none := h
  cases rest <;> rfl

namespace Stream

variable {s : Stream}

/-- One read takes bytes off the front, and some as long as there are any. -/
theorem Holds.read (h : s.Holds d b) (n : Nat) :
    ∃ out s' rest, s.read d n = .ok (out, s') ∧ s'.Holds d rest ∧ b = out ++ rest ∧
      out.length ≤ n ∧ (0 < n → out = [] → b = []) := by
  obtain ⟨hs, hr⟩ := h
  cases s with
  | directory => cases hr
  | file body offset =>
    obtain rfl : (d.body body).content.drop offset = b := congrArg Prod.fst hr
    refine ⟨_, _, ((d.body body).content.drop offset).drop n, rfl, ⟨trivial, ?_⟩,
      (List.take_append_drop n _).symm, List.length_take_le _ _, fun hn ho => ?_⟩
    · rw [remaining, ← List.drop_drop, drop_length_take]
    · rcases List.take_eq_nil_iff.1 ho with hz | hz
      · omega
      · exact hz
  | source s =>
    obtain rfl : s.rest = b := congrArg Prod.fst hr
    have he : s.ending = none := congrArg Prod.snd hr
    refine ⟨_, .source { s with rest := s.rest.drop (min n (s.limit.getD n)) }, _,
      by rw [Stream.read, Source.read_of_ending he]; rfl, ⟨hs, by rw [remaining, he]⟩,
      (List.take_append_drop _ _).symm, ?_, fun hn ho => ?_⟩
    · exact Nat.le_trans (List.length_take_le _ _) (Nat.min_le_left _ _)
    · rcases List.take_eq_nil_iff.1 ho with hz | hz
      · cases hl : s.limit with
        | none =>
          rw [hl, Option.getD_none] at hz
          omega
        | some k =>
          have hk : k ≠ 0 := by
            rintro rfl
            exact hs hl
          rw [hl, Option.getD_some] at hz
          omega
      · exact hz

/-- What is asked for comes, or all there is if that is less or no number is given. -/
theorem Holds.gather (h : s.Holds d b) (hf : b.length < fuel) (n : Option Nat) :
    ∃ s', Stream.gather d fuel n s = (.ok (b.take (n.getD b.length)), s') ∧
      s'.Holds d (b.drop (n.getD b.length)) := by
  induction fuel generalizing s b n with
  | zero => omega
  | succ fuel ih =>
    unfold Stream.gather
    by_cases hn : n = some 0
    · subst hn
      exact ⟨s, by simp, by simpa using h⟩
    have hpos : 0 < n.getD portion := getD_pos hn (by decide)
    obtain ⟨out, s', rest, hr, hs', rfl, hle, hend⟩ := h.read (n.getD portion)
    simp only [hn, if_false, hr]
    cases out with
    | nil =>
      obtain rfl : rest = [] := hend hpos rfl
      exact ⟨s', by simp, by simpa using hs'⟩
    | cons x out =>
      have hlen : rest.length < fuel := by
        simp at hf
        omega
      obtain ⟨s'', hg, hs''⟩ := ih hs' hlen (n.map (· - (x :: out).length))
      have hn : n.getD (x :: out ++ rest).length =
          (x :: out).length + (n.map (· - (x :: out).length)).getD rest.length :=
        getD_length_append fun k hk => by simpa [hk] using hle
      refine ⟨s'', ?_, ?_⟩
      · simp only [hg, hn, List.take_length_add_append]
        rfl
      · rw [hn, List.drop_length_add_append]
        exact hs''

theorem Holds.take (h : s.Holds d b) (n : Option Nat) :
    ∃ s', s.take d n = (.ok (b.take (n.getD b.length)), s') ∧
      s'.Holds d (b.drop (n.getD b.length)) :=
  h.gather (by rw [h.2]; exact Nat.lt_succ_self _) n

end Stream

/-! ### Channels -/

namespace Channel

variable {c : Channel}

/-- The channel gives these bytes, and then the end. -/
def Holds (d : Disk) (c : Channel) (b : Bytes) : Prop :=
  c.stream.Flows ∧ c.remaining d = (b, none)

theorem holds_iff : c.Holds d b ↔ ∃ rest, c.stream.Holds d rest ∧ b = c.buffer ++ rest := by
  constructor
  · rintro ⟨hs, hr⟩
    have he : (c.stream.remaining d).2 = none := congrArg Prod.snd hr
    exact ⟨(c.stream.remaining d).1, ⟨hs, Prod.ext rfl he⟩, (congrArg Prod.fst hr).symm⟩
  · rintro ⟨rest, ⟨hs, hr⟩, rfl⟩
    exact ⟨hs, by rw [remaining, hr]⟩

theorem holds_ofStream {s : Stream} (h : s.Holds d b) : (ofStream s).Holds d b :=
  holds_iff.2 ⟨b, h, rfl⟩

theorem holds_ofBytes (b : Bytes) : (ofBytes b).Holds d b :=
  holds_iff.2 ⟨[], ⟨nofun, rfl⟩, (List.append_nil b).symm⟩

/-- Filling an empty buffer loses nothing, and leaves it empty only at the end. -/
theorem Holds.fill (h : c.Holds d b) :
    ∃ c' rest, c.fill d = .ok c' ∧ c'.stream.Holds d rest ∧ b = c'.buffer ++ rest ∧
      (c'.buffer = [] → rest = []) := by
  obtain ⟨rest, hs, rfl⟩ := holds_iff.1 h
  unfold Channel.fill
  split
  · rename_i he
    obtain ⟨out, s', rest', hr, hs', rfl, -, hend⟩ := hs.read Stream.portion
    refine ⟨⟨out, s'⟩, rest', by rw [hr]; rfl, hs', by rw [he]; rfl, fun ho => ?_⟩
    exact (List.append_eq_nil_iff.1 (hend (by decide) ho)).2
  · exact ⟨c, rest, rfl, hs, rfl, fun he => absurd he ‹_›⟩

theorem Holds.read (h : c.Holds d b) (n : Nat) :
    ∃ out c' rest, c.read d n = .ok (out, c') ∧ c'.Holds d rest ∧ b = out ++ rest ∧
      out.length ≤ n ∧ (0 < n → out = [] → b = []) := by
  unfold Channel.read
  split
  · rename_i he
    obtain ⟨rest, hs, rfl⟩ := holds_iff.1 h
    obtain ⟨out, s', rest', hr, hs', rfl, hle, hend⟩ := hs.read n
    refine ⟨out, ofStream s', rest', by rw [hr]; rfl, holds_ofStream hs', by rw [he.1]; rfl, hle,
      fun hn ho => ?_⟩
    rw [he.1]
    exact hend hn ho
  · obtain ⟨c', rest, hf, hs, rfl, hend⟩ := h.fill
    refine ⟨c'.buffer.take n, { c' with buffer := c'.buffer.drop n }, c'.buffer.drop n ++ rest,
      by rw [hf]; rfl, holds_iff.2 ⟨rest, hs, rfl⟩, ?_, List.length_take_le _ _, fun hn ho => ?_⟩
    · rw [← List.append_assoc, List.take_append_drop]
    · have hb : c'.buffer = [] := by
        rcases List.take_eq_nil_iff.1 ho with hz | hz
        · omega
        · exact hz
      rw [hb, hend hb, List.append_nil]

/-- What is asked for comes, or all there is if that is less or no number is given. -/
theorem Holds.gather (h : c.Holds d b) (hf : b.length < fuel) (n : Option Nat) :
    ∃ c', Channel.gather d fuel n c = (.ok (b.take (n.getD b.length)), c') ∧
      c'.Holds d (b.drop (n.getD b.length)) := by
  induction fuel generalizing c b n with
  | zero => omega
  | succ fuel ih =>
    unfold Channel.gather
    by_cases hn : n = some 0
    · subst hn
      exact ⟨c, by simp, by simpa using h⟩
    obtain ⟨⟨buffer, s⟩, rest, hr, hs, rfl, hend⟩ := h.fill
    simp only [hn, if_false, hr]
    cases buffer with
    | nil =>
      obtain rfl : rest = [] := hend rfl
      have hc : Channel.Holds d ⟨[], s⟩ [] := holds_ofStream hs
      exact ⟨⟨[], s⟩, by simp, by simpa using hc⟩
    | cons x buffer =>
      -- Of the bytes at hand some are taken, and those behind them stay.
      have hpos : 0 < n.getD (x :: buffer).length := getD_pos hn (Nat.succ_pos _)
      have hle (k : Nat) (hk : n = some k) :
          ((x :: buffer).take (n.getD (x :: buffer).length)).length ≤ k := by
        rw [hk]
        exact List.length_take_le _ _
      have hleft := map_sub_length n (x :: buffer)
      generalize hm : n.getD (x :: buffer).length = m at hpos hle hleft
      have hsplit : (x :: buffer) ++ rest =
          (x :: buffer).take m ++ ((x :: buffer).drop m ++ rest) := by
        rw [← List.append_assoc, List.take_append_drop]
      have hlen : ((x :: buffer).drop m ++ rest).length < fuel := by
        simp only [List.length_append, List.length_drop, List.length_cons] at hf ⊢
        omega
      have hc : Channel.Holds d ⟨(x :: buffer).drop m, s⟩ ((x :: buffer).drop m ++ rest) :=
        holds_iff.2 ⟨rest, hs, rfl⟩
      obtain ⟨c', hg, hc'⟩ := ih hc hlen (n.map (· - ((x :: buffer).take m).length))
      rw [hsplit, getD_length_append hle, List.take_length_add_append, List.drop_length_add_append]
      exact ⟨c', by simp only [hm, hleft, hg]; rfl, hc'⟩

theorem Holds.take (h : c.Holds d b) (n : Option Nat) :
    ∃ c', c.take d n = (.ok (b.take (n.getD b.length)), c') ∧
      c'.Holds d (b.drop (n.getD b.length)) :=
  h.gather (by rw [h.2]; exact Nat.lt_succ_self _) n

/-! ### Lines -/

/-- The bytes of one line among those there are: through the next newline, or to the end where there
is none. -/
inductive IsLine : Bytes → Bytes → Prop
  | through (front rest : Bytes) : newline ∉ front →
      IsLine (front ++ newline :: rest) (front ++ [newline])
  | toEnd (b : Bytes) : newline ∉ b → IsLine b b

theorem cutLine_eq_some {line : Bytes} (h : cutLine b = some (line, rest)) :
    ∃ front, newline ∉ front ∧ line = front ++ [newline] ∧ b = front ++ newline :: rest := by
  induction b generalizing line with
  | nil => cases h
  | cons x b ih =>
    unfold cutLine at h
    split at h
    · obtain ⟨rfl, rfl⟩ := Prod.mk.inj (Option.some.inj h)
      exact ⟨[], List.not_mem_nil, by simp [*], by simp [*]⟩
    · rename_i hx
      obtain ⟨⟨line', rest'⟩, hc, he⟩ := Option.map_eq_some_iff.1 h
      obtain ⟨rfl, rfl⟩ := Prod.mk.inj he
      obtain ⟨front, hf, rfl, rfl⟩ := ih hc
      exact ⟨x :: front, by simp [hf, Ne.symm hx], rfl, rfl⟩

theorem cutLine_eq_none (h : cutLine b = none) : newline ∉ b := by
  induction b with
  | nil => exact List.not_mem_nil
  | cons x b ih =>
    unfold cutLine at h
    split at h
    · cases h
    · rename_i hx
      exact List.not_mem_cons_of_ne_of_not_mem (Ne.symm hx) (ih (Option.map_eq_none_iff.1 h))

/-- A line behind bytes without a newline goes on with them. -/
theorem IsLine.append (h : IsLine b out) {front : Bytes} (hf : newline ∉ front) :
    IsLine (front ++ b) (front ++ out) := by
  cases h with
  | through front' rest h =>
    rw [← List.append_assoc, ← List.append_assoc]
    exact .through _ _ (by simp [hf, h])
  | toEnd _ h => exact .toEnd _ (by simp [hf, h])

theorem Holds.gatherLine (h : c.Holds d b) (hf : b.length < fuel) :
    ∃ out c' rest, Channel.gatherLine d fuel c = (.ok out, c') ∧ c'.Holds d rest ∧
      b = out ++ rest ∧ IsLine b out := by
  induction fuel generalizing c b with
  | zero => omega
  | succ fuel ih =>
    unfold Channel.gatherLine
    obtain ⟨⟨buffer, s⟩, rest, hr, hs, rfl, hend⟩ := h.fill
    simp only [hr]
    cases buffer with
    | nil =>
      obtain rfl : rest = [] := hend rfl
      exact ⟨[], ⟨[], s⟩, [], rfl, holds_ofStream hs, rfl, .toEnd [] List.not_mem_nil⟩
    | cons x buffer =>
      cases hcut : cutLine (x :: buffer) with
      | some parts =>
        obtain ⟨line, behind⟩ := parts
        obtain ⟨front, hf, rfl, hb⟩ := cutLine_eq_some hcut
        refine ⟨front ++ [newline], ⟨behind, s⟩, behind ++ rest, by simp [hcut],
          holds_iff.2 ⟨rest, hs, rfl⟩, by simp [hb], ?_⟩
        simp only [hb, List.append_assoc, List.cons_append]
        exact .through front _ hf
      | none =>
        have hn := cutLine_eq_none hcut
        have hlen : rest.length < fuel := by
          simp at hf
          omega
        have hc : Channel.Holds d ⟨[], s⟩ rest := holds_ofStream hs
        obtain ⟨out, c', rest', hg, hc', rfl, hline⟩ := ih hc hlen
        exact ⟨x :: buffer ++ out, c', rest', by simp only [hcut, hg]; rfl, hc',
          (List.append_assoc _ _ _).symm, hline.append hn⟩

theorem Holds.takeLine (h : c.Holds d b) :
    ∃ out c' rest, c.takeLine d = (.ok out, c') ∧ c'.Holds d rest ∧ b = out ++ rest ∧
      IsLine b out :=
  h.gatherLine (by rw [h.2]; exact Nat.lt_succ_self _)

end Channel

/-! ### Drawing -/

/-- The ways to draw bytes: one read of at most so many, reads until so many are there or the end is,
or one line. -/
inductive Draw where
  | once (n : Nat)
  | fully (n : Option Nat)
  | line
  deriving DecidableEq, Repr

/-- What bytes are drawn from. -/
inductive Outlet where
  | stream (s : Stream)
  | channel (c : Channel)
  deriving DecidableEq, Repr

namespace Draw

/-- What one drawing makes of the bytes that are left. -/
def Gives (b out : Bytes) : Draw → Prop
  | once n => out <+: b ∧ out.length ≤ n ∧ (0 < n → out = [] → b = [])
  | fully n => out = b.take (n.getD b.length)
  | line => Channel.IsLine b out

/-- Does what was drawn tell that the end is reached? -/
def TellsEnd (out : Bytes) : Draw → Prop
  | once n => 0 < n ∧ out = []
  | fully none => True
  | fully (some n) => out.length < n
  | line => out.getLast? ≠ some Channel.newline

theorem Gives.front {how : Draw} (h : how.Gives b out) : out <+: b := by
  cases how with
  | once n => exact h.1
  | fully n =>
    obtain rfl : out = b.take (n.getD b.length) := h
    exact List.take_prefix _ _
  | line =>
    cases h with
    | through front rest hf => exact ⟨rest, by simp⟩
    | toEnd b hb => exact List.prefix_rfl

theorem Gives.whole {how : Draw} (h : how.Gives b out) (he : how.TellsEnd out) : out = b := by
  cases how with
  | once n => exact he.2.trans (h.2.2 he.1 he.2).symm
  | fully n =>
    obtain rfl : out = b.take (n.getD b.length) := h
    cases n with
    | none => exact List.take_length
    | some k =>
      have hk : (b.take k).length < k := he
      rw [List.length_take] at hk
      exact List.take_of_length_le (by simp only [Option.getD_some]; omega)
  | line =>
    cases h with
    | through front rest hf => exact absurd List.getLast?_concat he
    | toEnd b hb => rfl

end Draw

namespace Outlet

def Holds (d : Disk) (b : Bytes) : Outlet → Prop
  | stream s => s.Holds d b
  | channel c => c.Holds d b

/-- The bytes drawn, or the fault met. A plain stream has no lines. -/
def draw (d : Disk) : Outlet → Draw → Option (Except Fault (Bytes × Outlet))
  | stream s, .once n => some ((s.read d n).map fun (b, s) => (b, stream s))
  | stream s, .fully n => some ((s.take d n).1.map fun b => (b, stream (s.take d n).2))
  | stream _, .line => none
  | channel c, .once n => some ((c.read d n).map fun (b, c) => (b, channel c))
  | channel c, .fully n => some ((c.take d n).1.map fun b => (b, channel (c.take d n).2))
  | channel c, .line => some ((c.takeLine d).1.map fun b => (b, channel (c.takeLine d).2))

/-- A drawing takes bytes off the front, as its way has it, and leaves those behind them. -/
theorem Holds.draw {o : Outlet} (h : o.Holds d b) (how : Draw) : o.draw d how = none ∨
    ∃ out o', o.draw d how = some (.ok (out, o')) ∧ how.Gives b out ∧
      o'.Holds d (b.drop out.length) := by
  cases o with
  | stream s =>
    have h : s.Holds d b := h
    cases how with
    | once n =>
      obtain ⟨out, s', rest, hr, hs', rfl, hle, hend⟩ := h.read n
      refine Or.inr ⟨out, stream s', by simp only [Outlet.draw, hr]; rfl,
        ⟨List.prefix_append _ _, hle, hend⟩, ?_⟩
      rw [List.drop_left]
      exact hs'
    | fully n =>
      obtain ⟨s', ht, hs'⟩ := h.take n
      refine Or.inr ⟨_, stream s', by simp only [Outlet.draw, ht]; rfl, rfl, ?_⟩
      rw [drop_length_take]
      exact hs'
    | line => exact Or.inl rfl
  | channel c =>
    have h : c.Holds d b := h
    cases how with
    | once n =>
      obtain ⟨out, c', rest, hr, hc', rfl, hle, hend⟩ := h.read n
      refine Or.inr ⟨out, channel c', by simp only [Outlet.draw, hr]; rfl,
        ⟨List.prefix_append _ _, hle, hend⟩, ?_⟩
      rw [List.drop_left]
      exact hc'
    | fully n =>
      obtain ⟨c', ht, hc'⟩ := h.take n
      refine Or.inr ⟨_, channel c', by simp only [Outlet.draw, ht]; rfl, rfl, ?_⟩
      rw [drop_length_take]
      exact hc'
    | line =>
      obtain ⟨out, c', rest, ht, hc', rfl, hline⟩ := h.takeLine
      refine Or.inr ⟨out, channel c', by simp only [Outlet.draw, ht]; rfl, hline, ?_⟩
      rw [List.drop_left]
      exact hc'

end Outlet

end Resources
