import Linkage.Align
import Linkage.Main
import Linkage.Proofs.Loader.Precedence
import Linkage.Proofs.Packing.InPlace
import Linkage.Proofs.Loader.Frozen
import Linkage.Proofs.Program.Loading
import Linkage.Proofs.Archive.Truncation
import Linkage.Proofs.Truncation
import Linkage.Proofs.Json.Reading
import Linkage.Proofs.LanguageVersion
import Linkage.Proofs.Text.Decoding
import Linkage.Proofs.Json.Record
import Linkage.Proofs.Metadata
import Linkage.Proofs.Path.Names
import Linkage.Proofs.Layout
import Linkage.Proofs.Resolver.Forms
import Linkage.Proofs.Destination
import Linkage.Proofs.Resolver.Containment
import Linkage.Proofs.Archive.Writing
import Linkage.Proofs.Archive.Buffer
import Linkage.Proofs.Resolver.Stability
import Linkage.Proofs.Archive.Extent
import Linkage.Proofs.FileSystem.Unchanged
import Linkage.Proofs.Json.Members
import Linkage.Proofs.Library.Gate
import Linkage.Proofs.Library.Opening
import Linkage.Proofs.Metadata.Malformed
import Linkage.Proofs.Decimal.Spelling
import Linkage.Proofs.LanguageVersion.Grammar
import Linkage.Proofs.Linking
import Linkage.Proofs.Packing.Frame
import Linkage.Proofs.Toml.Rendering
import Linkage.Proofs.Toml.Scalars
import Linkage.Proofs.Toml.Reading
import Linkage.Proofs.Manifest
import Linkage.Proofs.Align
import Linkage.Proofs.Log
import Linkage.Proofs.Packing.DefaultOutput
