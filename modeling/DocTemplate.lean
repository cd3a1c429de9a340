import DocTemplate.Edit.Preview
import DocTemplate.Main
import DocTemplate.Proofs.Template.Position
import DocTemplate.Proofs.Template.Visits
import DocTemplate.Proofs.Arena.Growth
import DocTemplate.Proofs.Arena.WellFormed
import DocTemplate.Proofs.Arena.Relink
import DocTemplate.Proofs.Arena.Compaction
import DocTemplate.Proofs.Arena.Reachability
import DocTemplate.Proofs.Edit.OnTree
import DocTemplate.Proofs.Edit.Patch
import DocTemplate.Proofs.Edit.Growth
import DocTemplate.Proofs.Edit.Refinement
import DocTemplate.Proofs.Edit.Outcome
import DocTemplate.Proofs.Edit.Removal
import DocTemplate.Proofs.Edit.Relocation
import DocTemplate.Proofs.History.Trail
import DocTemplate.Proofs.History.Agreement
import DocTemplate.Proofs.History.Operations
import DocTemplate.Proofs.History.Ledger
import DocTemplate.Proofs.Session.Run
import DocTemplate.Proofs.Session.Timeline
import DocTemplate.Proofs.Session.Atomicity
import DocTemplate.Proofs.Session.UndoRedo
import DocTemplate.Proofs.Session.Batch
import DocTemplate.Proofs.Text.Decimal
import DocTemplate.Proofs.Text.Scan
import DocTemplate.Proofs.Text.Blank
import DocTemplate.Proofs.Text.Sequence
import DocTemplate.Proofs.Data.Walk
import DocTemplate.Proofs.Data.Comparison
import DocTemplate.Proofs.Data.Ordering
import DocTemplate.Proofs.Data.Scanner
import DocTemplate.Proofs.Data.Grammar
import DocTemplate.Proofs.Data.WrittenPath
import DocTemplate.Proofs.Template.PathText
import DocTemplate.Proofs.Json.Strings
import DocTemplate.Proofs.Template.PathGrammar
import DocTemplate.Proofs.Preview.Freshness
import DocTemplate.Proofs.Render.PathMemory
import DocTemplate.Proofs.Render.Action
import DocTemplate.Proofs.Render.Instances
import DocTemplate.Proofs.Render.Picture
import DocTemplate.Proofs.Render.Hidden
import DocTemplate.Proofs.Render.Diagnostics
import DocTemplate.Proofs.Check.Findings
import DocTemplate.Proofs.Check.Prediction
import DocTemplate.Proofs.Check.NeverShown
import DocTemplate.Proofs.Check.Duplicates
import DocTemplate.Proofs.Check.Errors
import DocTemplate.Proofs.Check.Exactness
import DocTemplate.Proofs.Render.Reuse
import DocTemplate.Proofs.Render.Scope
import DocTemplate.Proofs.Binary64.Finite
import DocTemplate.Proofs.Json.Numbers
import DocTemplate.Proofs.Json.Record
import DocTemplate.Proofs.Template.Everywhere
import DocTemplate.Proofs.Template.Lossless
import DocTemplate.Proofs.Template.Reading
import DocTemplate.Proofs.Edit.Lossless
import DocTemplate.Proofs.Json.Overlay
import DocTemplate.Proofs.Template.Composed
import DocTemplate.Proofs.Edit.Overlaid
import DocTemplate.Proofs.Edit.Composition
import DocTemplate.Proofs.Session.Saving
import DocTemplate.Proofs.Session.InRange
import DocTemplate.Proofs.Session.Replay
import DocTemplate.Proofs.Session.Refusal
import DocTemplate.Proofs.Session.Inverse
import DocTemplate.Proofs.Session.Commuting
import DocTemplate.Proofs.Render.Figures
import DocTemplate.Proofs.Render.WellFormed
import DocTemplate.Proofs.Render.Presentation
import DocTemplate.Proofs.Render.TableAgreement
import DocTemplate.Proofs.Display.Decimals
import DocTemplate.Proofs.Display.Rounding
import DocTemplate.Proofs.Display.Currency
import DocTemplate.Proofs.Text.Replace
import DocTemplate.Proofs.Display.DatePattern
import DocTemplate.Proofs.Arena.PathCopy
import DocTemplate.Proofs.Arena.Unshared
import DocTemplate.Proofs.Edit.Unshared
import DocTemplate.Proofs.Arena.Traversal
import DocTemplate.Proofs.Session.Storage
import DocTemplate.Proofs.Edit.Codec
import DocTemplate.Proofs.Render.Codec
import DocTemplate.Proofs.Session.Interchange
import DocTemplate.Proofs.Session.Garbage
