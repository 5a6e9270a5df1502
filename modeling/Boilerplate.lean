import Boilerplate.FileSystem.Disk
import Boilerplate.Main
import Boilerplate.Proofs.Archive.RoundTrip
import Boilerplate.Proofs.Catalog.BuiltIn
import Boilerplate.Proofs.Catalog.Listing
import Boilerplate.Proofs.Catalog.Loading
import Boilerplate.Proofs.Catalog.Registration
import Boilerplate.Proofs.CommandLine.Assignments
import Boilerplate.Proofs.CommandLine.Coercion
import Boilerplate.Proofs.CommandLine.IntegerValues
import Boilerplate.Proofs.CommandLine.ValueSources
import Boilerplate.Proofs.Definition.Document
import Boilerplate.Proofs.Export.Containment
import Boilerplate.Proofs.Export.Delivery
import Boilerplate.Proofs.Export.Rollback
import Boilerplate.Proofs.FileSystem.Shape
import Boilerplate.Proofs.Generation.Defaults
import Boilerplate.Proofs.Generation.Independence
import Boilerplate.Proofs.Generation.Refusal
import Boilerplate.Proofs.Number.Nearest
import Boilerplate.Proofs.Number.Rounding
import Boilerplate.Proofs.Path.Spelling
import Boilerplate.Proofs.Template.Comparison
import Boilerplate.Proofs.Template.ControlFlow
import Boilerplate.Proofs.Template.ErrorPlaces
import Boilerplate.Proofs.Template.Escaping
import Boilerplate.Proofs.Template.FieldNames
import Boilerplate.Proofs.Template.TagGrammar
import Boilerplate.Proofs.Text.AsciiWords
import Boilerplate.Proofs.Text.CleanNames
