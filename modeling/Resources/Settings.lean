import Resources.Json.Reader
import Resources.Path.FilePath
import Resources.Time

/-! The settings of a loader, and their JSON form. -/
namespace Resources

structure Settings where
  baseDir : Option FilePath
  classPath : List FilePath
  timeout : Duration
  deriving DecidableEq, Repr

namespace Settings

def defaultTimeout : Duration := .ofSeconds 30

def standard : Settings := ⟨none, [], defaultTimeout⟩

def withBaseDir (s : Settings) (dir : FilePath) : Settings := { s with baseDir := some dir }

def withClassPathDir (s : Settings) (dir : FilePath) : Settings :=
  { s with classPath := s.classPath ++ [dir] }

def withTimeout (s : Settings) (d : Duration) : Settings := { s with timeout := d }

/-- A path that is no text has no JSON form. The timeout is written in whole seconds. -/
def toJson? (s : Settings) : Option Json.Value := do
  let base ← match s.baseDir with
    | none => pure Json.Value.null
    | some p => Json.Value.text <$> p.text?
  let path ← s.classPath.mapM fun p => Json.Value.text <$> p.text?
  pure (.record [("base_dir", base), ("class_path", .list path),
    ("http_timeout_secs", .number (.whole s.timeout.seconds))])

open Json Scan

/-- The fields read so far. -/
structure Given where
  baseDir : Option (Option FilePath) := none
  classPath : Option (List FilePath) := none
  timeout : Option Duration := none

def Given.settings (g : Given) : Settings :=
  ⟨g.baseDir.getD none, g.classPath.getD [], g.timeout.getD defaultTimeout⟩

def path : Scan FilePath := return .ofString (← textValue "path string")

def base : Scan (Option FilePath) := nullOr path

def paths : Scan (List FilePath) := listValue "a sequence" path

def seconds : Scan Duration := return .ofSeconds (← wholeValue "u64" (Nat.pow 2 64))

def once {α : Type} (key : String) (seen : Option α) : Scan Unit :=
  if seen.isSome then object (.repeatedField key) .taken else pure ()

/-- A field that is not known is passed over. -/
def field (g : Given) (key : String) : Scan Given := do
  if key = "base_dir" then
    once key g.baseDir
    colon
    return { g with baseDir := some (← base) }
  else if key = "class_path" then
    once key g.classPath
    colon
    return { g with classPath := some (← paths) }
  else if key = "http_timeout_secs" then
    once key g.timeout
    colon
    return { g with timeout := some (← seconds) }
  else
    colon
    passValue
    pure g

/-- The items of a list stand for the fields in their order; those at its end may be missing. -/
def positional : Scan Given := do
  skip
  if ← moreItems true then
    let b ← base
    if ← moreItems false then
      let ps ← paths
      if ← moreItems false then
        let t ← seconds
        pure ⟨some b, some ps, some t⟩
      else pure ⟨some b, some ps, none⟩
    else pure ⟨some b, none, none⟩
  else pure ⟨none, none, none⟩

def scan : Scan Settings := do
  match ← upcoming with
  | none => fail .endInValue .next
  | some 0x5B => return (← enclosed positional endList).settings
  | some 0x7B => return (← enclosed (recordBody field {}) endRecord).settings
  | some _ => settle (wrongType "struct LoaderConfig")

def ofJson (s : String) : Except Stop Settings := readText scan s

end Settings

end Resources
