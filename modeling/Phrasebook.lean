import Phrasebook.Log.Percent
import Phrasebook.Main
import Phrasebook.Proofs.Expansion.Call
import Phrasebook.Proofs.Expansion.Memo
import Phrasebook.Proofs.Condition.Layers
import Phrasebook.Proofs.Expansion.Termination
import Phrasebook.Proofs.Expansion.Tracing
import Phrasebook.Proofs.Expansion.Draws
import Phrasebook.Proofs.Markup.Grammar
import Phrasebook.Proofs.Pool.Rotation
import Phrasebook.Proofs.Expansion.Holes
import Phrasebook.Proofs.Template.Stretches
import Phrasebook.Proofs.Expansion.Origins
import Phrasebook.Proofs.Catalog.Merging
import Phrasebook.Proofs.Expansion.Fillings
import Phrasebook.Proofs.Expansion.Overrides
import Phrasebook.Proofs.Condition.Composition
import Phrasebook.Proofs.Text.Case
import Phrasebook.Proofs.Condition.Disjunction
import Phrasebook.Proofs.Catalog.History
import Phrasebook.Proofs.Expansion.Depth
import Phrasebook.Proofs.Expansion.SingleRolls
import Phrasebook.Proofs.Expansion.Snapshot
import Phrasebook.Proofs.Package.Loading
import Phrasebook.Proofs.Expansion.Accord
import Phrasebook.Proofs.Expansion.Concatenation
import Phrasebook.Proofs.Expansion.Bindings
import Phrasebook.Proofs.Package.Naming
import Phrasebook.Proofs.Expansion.Turning
import Phrasebook.Proofs.Package.Standing
import Phrasebook.Proofs.Package.Reading
import Phrasebook.Proofs.Markup.Faults
import Phrasebook.Proofs.Color.Translation
import Phrasebook.Proofs.Markup.Coloring
import Phrasebook.Proofs.Template.Directives
import Phrasebook.Proofs.Package.Agreement
import Phrasebook.Proofs.Expansion.Choices
import Phrasebook.Proofs.Condition.Negation
import Phrasebook.Proofs.Expansion.Boundary
import Phrasebook.Proofs.Package.Segments
import Phrasebook.Proofs.Expansion.Silence
import Phrasebook.Proofs.Expansion.Lookups
import Phrasebook.Proofs.Package.Fallback
import Phrasebook.Proofs.Package.Search
import Phrasebook.Proofs.Expansion.Ventures
import Phrasebook.Proofs.Expansion.Rendering
import Phrasebook.Proofs.Catalog.Lines
import Phrasebook.Proofs.Text.Delimiting
import Phrasebook.Proofs.Command.Lines
import Phrasebook.Proofs.Command.Configuration
import Phrasebook.Proofs.Command.Endings
