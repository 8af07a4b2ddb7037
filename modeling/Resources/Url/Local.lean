import Resources.Path.FilePath
import Resources.Url.Parser

/-! File paths as URLs, and local URLs as file paths. -/
namespace Resources.Url

/-- The URL of the file below the root with these names. -/
def ofNames (names : List Bytes) : Url :=
  let ss := names.map (Percent.encodeBytes Percent.nameSet)
  ⟨fileScheme, some .unnamed, .segments (if ss = [] then [[]] else ss), none, none⟩

/-- A relative path has no URL. -/
def ofFilePath? (p : FilePath) : Option Url := if p.isRooted then some (ofNames p.names) else none

/-- A path that ends in a drive goes on with a slash. -/
def endDrive (b : Bytes) : Bytes :=
  match b.reverse with
  | m :: c :: _ :: _ =>
    if isDrive [Char.ofNat c.toNat, Char.ofNat m.toNat] then b ++ [FilePath.slash] else b
  | _ => b

/-- The path of a local URL. One with a host has none here. -/
def filePath? (u : Url) : Option FilePath :=
  match u.isFile, u.path, u.host? with
  | true, .segments ss, none =>
    some ⟨endDrive (ss.flatMap fun s => FilePath.slash :: Percent.decode s)⟩
  | _, _, _ => none

end Resources.Url
