import BindingGen.Files.Store
import BindingGen.Main
import BindingGen.Options.LibraryBuild
import BindingGen.Proofs.Generation.Containment
import BindingGen.Proofs.Source.BindingShape
import BindingGen.Proofs.Text.Offset
import BindingGen.Proofs.Text.Words
import BindingGen.Proofs.Prototype.Grammar
import BindingGen.Proofs.Prototype.Lexing
import BindingGen.Proofs.Prototype.Pieces
import BindingGen.Proofs.Prototype.Head
import BindingGen.Proofs.Prototype.Parameters
import BindingGen.Proofs.Prototype.Derivation
import BindingGen.Proofs.Prototype.Listing
import BindingGen.Proofs.Prototype.Signature
import BindingGen.Proofs.Prototype.FixedPoint
import BindingGen.Proofs.Source.Agreement
import BindingGen.Proofs.Toml.Quoted
import BindingGen.Proofs.Toml.Lines
import BindingGen.Proofs.Platform.RoundTrip
import BindingGen.Proofs.Files.Reading
import BindingGen.Proofs.Files.Standing
import BindingGen.Proofs.Generation.Faults
import BindingGen.Proofs.Generation.Reproduction
import BindingGen.Proofs.Manifest.Resolution
import BindingGen.Proofs.CommandLine.LoadedSettings
import BindingGen.Proofs.Manifest.Search
import BindingGen.Proofs.Source.Conditions
import BindingGen.Proofs.Source.Guards
import BindingGen.Proofs.Generation.ExportsAlone
import BindingGen.Proofs.CommandLine.Outcomes
import BindingGen.Proofs.CommandLine.Descriptions
import BindingGen.Proofs.Source.Calls
import BindingGen.Proofs.Source.Layout
import BindingGen.Proofs.Files.Parents
import BindingGen.Proofs.Manifest.InStore
import BindingGen.Proofs.CommandLine.Discovery
import BindingGen.Proofs.Prototype.Blame
import BindingGen.Proofs.Prototype.Joined
import BindingGen.Proofs.Platform.Issues
import BindingGen.Proofs.Source.Endings
import BindingGen.Proofs.Prototype.Layout
import BindingGen.Proofs.Platform.Requests
import BindingGen.Proofs.Options.Insertion
import BindingGen.Proofs.Options.Native
import BindingGen.Proofs.Files.Lineage
import BindingGen.Proofs.Manifest.Nearest
import BindingGen.Proofs.Manifest.Overlay
import BindingGen.Proofs.Options.Builds
import BindingGen.Proofs.Prototype.Bounds
import BindingGen.Proofs.Prototype.Tokenizing
