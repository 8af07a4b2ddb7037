import Resources.Handle.All
import Resources.Proofs.Handle.Beside
import Resources.Proofs.Path.Unslashed

/-! Equality of handles. It is one on handles of any kind but streams, a hash agrees with it, and files
are equal just when their paths are spellings of one path. -/
namespace Resources

open FilePath (IsText Sheds)
open Resources.Path (clean unslashed)
open Relation (EqvGen)

/-! ### Files -/

namespace FileHandle

variable {p q : FilePath}

theorem path_of_not_text (hp : ¬ IsText p.bytes) : (FileHandle.of p).path = p := by
  rcases path_of_cases p with h | ⟨t, rfl, -⟩
  · exact h
  · exact absurd ⟨t, rfl⟩ hp

/-- Spellings of one path make handles of one path. -/
theorem same_of (h : p.Same q) : (FileHandle.of p).path.Same (FileHandle.of q).path := by
  by_cases hp : IsText p.bytes
  · obtain ⟨u, hu⟩ := h.isText hp
    obtain ⟨t, ht⟩ := hp
    obtain rfl : p = .ofText t := congrArg FilePath.mk ht
    obtain rfl : q = .ofText u := congrArg FilePath.mk hu
    rw [of_ofText, of_ofText]
    exact h.cleanText
  · have hq : ¬ IsText q.bytes := fun hq => hp ((FilePath.equivalence_same.symm h).isText hq)
    rwa [path_of_not_text hp, path_of_not_text hq]

/-- A path that is no text is not cleaned, and nothing that is text is a spelling of it. -/
theorem same_of_iff (hp : ¬ IsText p.bytes) :
    (FileHandle.of p).path.Same (FileHandle.of q).path ↔ p.Same q := by
  refine ⟨fun h => ?_, same_of⟩
  rw [path_of_not_text hp] at h
  rcases path_of_cases q with hq | ⟨u, -, hq⟩
  · rwa [hq] at h
  · rw [hq] at h
    exact absurd ((FilePath.equivalence_same.symm h).isText ⟨_, rfl⟩) hp

theorem same_of_text (t u : String) :
    (FileHandle.of (.ofString t)).path.Same (FileHandle.of (.ofString u)).path ↔
      ((clean t).toList.head? = some '/' ↔ (clean u).toList.head? = some '/') ∧
        unslashed (clean t).toList = unslashed (clean u).toList := by
  rw [of_ofString, of_ofString]
  simp only [FilePath.ofString_eq, Path.toList_clean]
  exact FilePath.same_ofText_iff (Path.tidy_cleanText _) (Path.tidy_cleanText _)

end FileHandle

/-! ### Handles -/

namespace Handle

variable {a b : Handle} {k : Locator}

/-- All that tells a handle from others: of a file its root and its names, of the others what they
are compared by. -/
inductive Locator where
  | file (rooted : Bool) (names : List Bytes)
  | classPath (h : ClassPathHandle)
  | url (text : String)
  | bytes (data : Bytes)

def locator? : Handle → Option Locator
  | file h => some (.file h.path.isRooted h.path.names)
  | classPath h => some (.classPath h)
  | url h => some (.url h.url.text)
  | bytes h => some (.bytes h.data)
  | stream _ => none

/-- Handles are equal when they have a locator, and it is the same one. -/
theorem alike_iff_locator : a.Alike b ↔ ∃ k, a.locator? = some k ∧ b.locator? = some k := by
  cases a <;> cases b <;> simp [Alike, locator?, FilePath.Same, eq_comm]

theorem locator?_eq_none_iff : a.locator? = none ↔ a.kind = .inputStream := by
  cases a <;> simp [locator?, kind, resource, FileHandle.resource, ClassPathHandle.resource,
    UrlHandle.resource, BytesHandle.resource, StreamHandle.resource]

def Locator.kind : Locator → Kind
  | file .. => .file
  | classPath _ => .classPath
  | url _ => .url
  | bytes _ => .byteArray

def Locator.hashKey : Locator → HashKey
  | file _ names => .names names
  | classPath h => .name h.name
  | url text => .url text
  | bytes data => .content data

theorem kind_of_locator (h : a.locator? = some k) : a.kind = k.kind := by
  cases a <;> cases h <;> rfl

theorem hashKey_of_locator (h : a.locator? = some k) : a.hashKey? = some k.hashKey := by
  cases a <;> cases h <;> rfl

/-- Equality is an equivalence on the handles that are no streams and relates only handles of one
kind. A hash agrees with it, also that of a file, which is one pass over the bytes of its path. Paths
that are text make equal files when they are cleaned to texts that agree on the root and on all but
the slash at their end. Any paths do that differ by slashes and dots that can be shed, and no others
that are no text. -/
theorem alike_hashed :
    Equivalence (fun a b : {a : Handle // a.kind ≠ .inputStream} => a.1.Alike b.1) ∧
    (∀ a b : Handle, a.Alike b → a.kind = b.kind ∧ a.kind ≠ .inputStream) ∧
    (∀ a b : Handle, a.Alike b → ∃ k, a.hashKey? = some k ∧ b.hashKey? = some k) ∧
    (∀ h : FileHandle, (file h).hashKey? = some (.names (FilePath.chunks false [] h.path.bytes))) ∧
    (∀ t u : String, (file (.of (.ofString t))).Alike (file (.of (.ofString u))) ↔
      ((clean t).toList.head? = some '/' ↔ (clean u).toList.head? = some '/') ∧
        unslashed (clean t).toList = unslashed (clean u).toList) ∧
    (∀ p q : FilePath, EqvGen Sheds p q → (file (.of p)).Alike (file (.of q))) ∧
    ∀ p q : FilePath, ¬ IsText p.bytes →
      ((file (.of p)).Alike (file (.of q)) ↔ EqvGen Sheds p q) := by
  refine ⟨⟨fun a => ?_, fun h => ?_, fun h h' => ?_⟩, fun a b h => ?_, fun a b h => ?_, fun h => ?_,
    FileHandle.same_of_text, fun p q h => ?_, fun p q hp => ?_⟩
  · obtain ⟨k, hk⟩ := Option.ne_none_iff_exists'.1 (locator?_eq_none_iff.not.2 a.2)
    exact alike_iff_locator.2 ⟨k, hk, hk⟩
  · obtain ⟨k, ha, hb⟩ := alike_iff_locator.1 h
    exact alike_iff_locator.2 ⟨k, hb, ha⟩
  · obtain ⟨k, ha, hb⟩ := alike_iff_locator.1 h
    obtain ⟨k', hb', hc⟩ := alike_iff_locator.1 h'
    obtain rfl : k = k' := Option.some.inj (hb.symm.trans hb')
    exact alike_iff_locator.2 ⟨k, ha, hc⟩
  · obtain ⟨k, ha, hb⟩ := alike_iff_locator.1 h
    refine ⟨(kind_of_locator ha).trans (kind_of_locator hb).symm, ?_⟩
    rw [Ne, ← locator?_eq_none_iff, ha]
    exact nofun
  · obtain ⟨k, ha, hb⟩ := alike_iff_locator.1 h
    exact ⟨k.hashKey, hashKey_of_locator ha, hashKey_of_locator hb⟩
  · rw [FilePath.chunks_bytes]
    rfl
  · exact FileHandle.same_of (FilePath.same_iff_sheds.2 h)
  · exact (FileHandle.same_of_iff hp).trans FilePath.same_iff_sheds

/-- A name that is no text, with a dot and slashes around it. -/
theorem alike_hashed_spelled :
    EqvGen Sheds ⟨[0x80, 0x2F, 0x2E, 0x2F, 0x61, 0x2F]⟩ ⟨[0x80, 0x2F, 0x61]⟩ ∧
    ¬ IsText [0x80, 0x2F, 0x2E, 0x2F, 0x61, 0x2F] ∧
    (file (.of ⟨[0x80, 0x2F, 0x2E, 0x2F, 0x61, 0x2F]⟩)).Alike (file (.of ⟨[0x80, 0x2F, 0x61]⟩)) ∧
    ∃ k, (file (.of ⟨[0x80, 0x2F, 0x2E, 0x2F, 0x61, 0x2F]⟩)).hashKey? = some k ∧
      (file (.of ⟨[0x80, 0x2F, 0x61]⟩)).hashKey? = some k := by
  obtain ⟨-, -, hhash, -, -, -, hiff⟩ := alike_hashed
  have hne : ([0x80, 0x2F, 0x61] : Bytes) ≠ [] := nofun
  have hsheds : EqvGen Sheds ⟨[0x80, 0x2F, 0x2E, 0x2F, 0x61, 0x2F]⟩ ⟨[0x80, 0x2F, 0x61]⟩ :=
    .trans _ _ _ (.rel _ _ (.dot [0x80] [0x61, 0x2F])) (.rel _ _ (.lastSlash hne))
  have htext : ¬ IsText [0x80, 0x2F, 0x2E, 0x2F, 0x61, 0x2F] := by
    rintro ⟨t, ht⟩
    have hdecode := Utf8.decode?_eq_some.2 ht
    cases hdecode
  have halike := (hiff _ _ htext).2 hsheds
  exact ⟨hsheds, htext, halike, hhash _ _ halike⟩

end Handle

end Resources
