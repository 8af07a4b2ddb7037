import Resources.Loader
import Resources.Proofs.Path.Text
import Resources.Proofs.Path.Walk
import Resources.Proofs.Text.Utf8
import Resources.Proofs.Path.Canonical
import Resources.Proofs.Path.FilePath
import Resources.Proofs.Disk.Walk
import Resources.Proofs.ClassPath.Names
import Resources.Proofs.ClassPath.Containment
import Resources.Proofs.Stream.Whole
import Resources.Proofs.Path.Climbs
import Resources.Proofs.Disk.Cleaned
import Resources.Proofs.Handle.File
import Resources.Proofs.Loader.Location
import Resources.Proofs.Resource.Calls
import Resources.Proofs.Handle.Stream
import Resources.Proofs.ClassPath.FirstRoot
import Resources.Proofs.Handle.Url
import Resources.Proofs.Handle.Readable
import Resources.Proofs.Path.Fixed
import Resources.Proofs.ClassPath.Bundle
import Resources.Proofs.Loader.Again
import Resources.Proofs.Disk.Tree
import Resources.Proofs.ClassPath.Snapshot
import Resources.Proofs.ClassPath.Listing
import Resources.Proofs.Url.Percent
import Resources.Proofs.Url.Local
import Resources.Proofs.Handle.Local
import Resources.Proofs.Text.Decode
import Resources.Proofs.Url.Names
import Resources.Proofs.Path.Names
import Resources.Proofs.Url.ReadBack
import Resources.Proofs.Disk.Folded
import Resources.Proofs.Loader.FileUrl
import Resources.Proofs.Disk.Spellings
import Resources.Proofs.Text.Lossy
import Resources.Proofs.Text.Marks
import Resources.Proofs.Path.Spellings
import Resources.Proofs.Url.Outline
import Resources.Proofs.Domain.Characters
import Resources.Proofs.Url.Formed
import Resources.Proofs.Url.Read
import Resources.Proofs.Url.Twins
import Resources.Proofs.Handle.Alike
import Resources.Proofs.Path.Composition
import Resources.Proofs.Client.Use
import Resources.Proofs.Client.Sharing
import Resources.Proofs.Resource.Failures
import Resources.Proofs.Handle.Missing
import Resources.Proofs.Handle.Failures
import Resources.Proofs.Stream.Drawn
import Resources.Proofs.Resource.Readings
import Resources.Proofs.Handle.Content
import Resources.Proofs.Path.Shown
import Resources.Proofs.Handle.Beside
import Resources.Proofs.ClassPath.Relative
import Resources.Proofs.Url.Settled
import Resources.Proofs.Url.Reference
import Resources.Proofs.Handle.Composed
import Resources.Proofs.Handle.Rooted
import Resources.Proofs.Web.Redirects
import Resources.Proofs.Handle.OnWeb
import Resources.Proofs.Json.Grammar
import Resources.Proofs.Json.Abreast
import Resources.Proofs.Json.Number
import Resources.Proofs.Json.Text
import Resources.Proofs.Json.Value
import Resources.Proofs.Resource.Readers
import Resources.Proofs.Loader.Base
import Resources.Proofs.Path.Shed
import Resources.Proofs.Path.Unslashed
import Resources.Proofs.Handle.Equality
import Resources.Proofs.Json.Needed
import Resources.Proofs.Json.Rendered
import Resources.Proofs.Settings
