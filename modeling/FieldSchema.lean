import FieldSchema.Main
import FieldSchema.Session
import FieldSchema.Proofs.NameMap
import FieldSchema.Proofs.Sequencing
import FieldSchema.Proofs.Number.Denoted
import FieldSchema.Proofs.Number.Format
import FieldSchema.Proofs.Number.Reading
import FieldSchema.Proofs.Text.Neat
import FieldSchema.Proofs.Text.Ascii
import FieldSchema.Proofs.Text.Quotation
import FieldSchema.Proofs.Pattern.Passing
import FieldSchema.Proofs.Pattern.Paths
import FieldSchema.Proofs.Pattern.Replacing
import FieldSchema.Proofs.Pattern.Straight
import FieldSchema.Proofs.Inflection.Priority
import FieldSchema.Proofs.Inflection.Ends
import FieldSchema.Proofs.Inflection.LoneEnding
import FieldSchema.Proofs.Inflection.Additions
import FieldSchema.Proofs.Inflection.Irregulars
import FieldSchema.Proofs.Inflection.Endings
import FieldSchema.Proofs.Inflection.RegularNouns
import FieldSchema.Proofs.Inflection.Uncountables
import FieldSchema.Proofs.Yaml.Lines
import FieldSchema.Proofs.Yaml.Scalars
import FieldSchema.Proofs.Yaml.Layout
import FieldSchema.Proofs.Value.Sides
import FieldSchema.Proofs.Value.Built
import FieldSchema.Proofs.Value.Equivalence
import FieldSchema.Proofs.Value.Lookup
import FieldSchema.Proofs.Value.Heritable
import FieldSchema.Proofs.Value.Insertions
import FieldSchema.Proofs.Value.Rendering
import FieldSchema.Proofs.Value.MixedNumbers
import FieldSchema.Proofs.Value.Unambiguous
import FieldSchema.Proofs.Value.Positions
import FieldSchema.Proofs.Value.NumberKeys
import FieldSchema.Proofs.Schema.Declaring
import FieldSchema.Proofs.Schema.InStep
import FieldSchema.Proofs.Schema.Content
import FieldSchema.Proofs.Schema.Stock
import FieldSchema.Proofs.Schema.RightKind
import FieldSchema.Proofs.Schema.Naming
import FieldSchema.Proofs.Schema.Acceptance
import FieldSchema.Proofs.Schema.Refusal
import FieldSchema.Proofs.Code.Footprint
import FieldSchema.Proofs.Code.Keeps
import FieldSchema.Proofs.Code.Calls
import FieldSchema.Proofs.Code.Conveying
import FieldSchema.Proofs.Code.Inheriting
import FieldSchema.Proofs.Accessor.Plan
import FieldSchema.Proofs.Accessor.Decision
import FieldSchema.Proofs.Accessor.AllOrNothing
import FieldSchema.Proofs.Accessor.Blocks
import FieldSchema.Proofs.Host.Admission
import FieldSchema.Proofs.Host.Typed
import FieldSchema.Proofs.Sharing.Recast
import FieldSchema.Proofs.Sharing.Unseen
import FieldSchema.Proofs.Sharing.Confined
import FieldSchema.Proofs.Sharing.Ledger
import FieldSchema.Proofs.Sharing.Made
import FieldSchema.Proofs.Sharing.Agree
import FieldSchema.Proofs.Sharing.Code
import FieldSchema.Proofs.Sharing.Nested
import FieldSchema.Proofs.Sharing.Calls
import FieldSchema.Proofs.Sharing.Timeline
import FieldSchema.Proofs.Sharing.Policies
import FieldSchema.Proofs.Sharing.Clients
import FieldSchema.Proofs.Sharing.Sessions
import FieldSchema.Proofs.Sharing.DeclarationOrder
import FieldSchema.Proofs.Nesting.Births
import FieldSchema.Proofs.Nesting.Confining
import FieldSchema.Proofs.Nesting.Attested
import FieldSchema.Proofs.Nesting.Descent
import FieldSchema.Proofs.Nesting.Rooted
import FieldSchema.Proofs.Nesting.Inheritance
import FieldSchema.Proofs.Nesting.Cells
import FieldSchema.Proofs.Nesting.WriteOnce
import FieldSchema.Proofs.History.Changes
import FieldSchema.Proofs.History.Recording
import FieldSchema.Proofs.History.Lifetime
import FieldSchema.Proofs.History.Inspecting
import FieldSchema.Proofs.History.Arrays
import FieldSchema.Proofs.History.Hashes
import FieldSchema.Proofs.History.Redeclaring
import FieldSchema.Proofs.Command.Checking
import FieldSchema.Proofs.Command.Saving
