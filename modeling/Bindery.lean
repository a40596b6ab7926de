import Bindery.Bindings
import Bindery.Buffer
import Bindery.CommandLine.Run
import Bindery.Description.Bindings
import Bindery.Main
import Bindery.Predicate.Attribute
import Bindery.Predicate.Parser
import Bindery.Proofs.Guard.Embedding
import Bindery.Proofs.Import.Exactness
import Bindery.Proofs.Wrapper.Compiled
import Bindery.Proofs.Import.Join
import Bindery.Proofs.Import.Partition
import Bindery.Proofs.Description.Form
import Bindery.Proofs.Import.Labelled
import Bindery.Proofs.Library
import Bindery.Proofs.Description.Lookup
import Bindery.Proofs.Import.Qualified
import Bindery.Proofs.Wrapper.Faults
import Bindery.Proofs.Description.Reading
import Bindery.Proofs.Bindings
import Bindery.Proofs.Description.Generation
import Bindery.Proofs.Agreement
import Bindery.Proofs.Description.Tables
import Bindery.Proofs.Description.Rearranged
import Bindery.Proofs.Predicate.Offsets
import Bindery.Proofs.Predicate.Evaluation
import Bindery.Proofs.Guard.CodeLines
import Bindery.Proofs.Guard.Pair
import Bindery.Proofs.Additions
import Bindery.Proofs.Sink
import Bindery.Proofs.Console
import Bindery.Proofs.Renderer
import Bindery.Proofs.Logging
import Bindery.Proofs.Wrapper.Lifetime
import Bindery.Proofs.Wrapper.Ancestry
import Bindery.Proofs.Wrapper.Refusals
import Bindery.Proofs.Text.Parts
import Bindery.Proofs.Version.Numeral
import Bindery.Proofs.Version.Written
import Bindery.Proofs.Predicate.Literal
import Bindery.Proofs.Version.Feature
import Bindery.Proofs.Import.Normal
import Bindery.Proofs.Guard.Polarity
import Bindery.Proofs.Guard.Deprecation
import Bindery.Proofs.Import.Names
import Bindery.Proofs.Description.Entries
import Bindery.Proofs.Description.Totality
import Bindery.Proofs.Buffer
import Bindery.Proofs.Predicate.Spans
import Bindery.Proofs.DefaultImpl
import Bindery.Proofs.Version.Printing
import Bindery.Proofs.Run
