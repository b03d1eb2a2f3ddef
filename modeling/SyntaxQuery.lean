import SyntaxQuery.Proofs.Query.FieldTests
import SyntaxQuery.Proofs.Query.MarkedParts
import SyntaxQuery.Proofs.Query.Multiplicity
import SyntaxQuery.Proofs.Traversal.Turns
import SyntaxQuery.Proofs.Selector.Acceptance
import SyntaxQuery.Proofs.Selector.RoundTrip
import SyntaxQuery.Proofs.Selector.Settling
import SyntaxQuery.Proofs.Decimal.Finiteness
import SyntaxQuery.Proofs.Selector.Transparency
import SyntaxQuery.Proofs.Selector.Decoding
import SyntaxQuery.Proofs.Regex.CacheAnswers
import SyntaxQuery.Proofs.Query.Placement
import SyntaxQuery.Proofs.Query.Composition
import SyntaxQuery.Proofs.Document.Positions
import SyntaxQuery.Proofs.Traversal.Identity
import SyntaxQuery.Proofs.Selector.Marks
import SyntaxQuery.Proofs.Query.Reports
import SyntaxQuery.Proofs.Traversal.Visits
import SyntaxQuery.Proofs.Traversal.Loop
import SyntaxQuery.Main
import SyntaxQuery.Files.Tree
import SyntaxQuery.Document.Reference
import SyntaxQuery.Tree.Walk
import SyntaxQuery.Proofs.Json.Keys
import SyntaxQuery.Proofs.Traversal.Distinctness
import SyntaxQuery.Proofs.Config.SingleVisits
import SyntaxQuery.Proofs.Traversal.Images
import SyntaxQuery.Proofs.Query.Images
import SyntaxQuery.Proofs.Traversal.Extension
import SyntaxQuery.Proofs.Query.OccupiedFields
import SyntaxQuery.Proofs.Document.InertFields
import SyntaxQuery.Proofs.Query.Subtree
import SyntaxQuery.Proofs.Source.NamedNodes
import SyntaxQuery.Proofs.Json.RoundTrip
import SyntaxQuery.Proofs.Selector.Positions
import SyntaxQuery.Proofs.Selector.MarkedPositions
import SyntaxQuery.Proofs.Selector.Descriptions
import SyntaxQuery.Proofs.Selector.Replacement
import SyntaxQuery.Proofs.Selector.Written
import SyntaxQuery.Proofs.Selector.ReadParts
import SyntaxQuery.Proofs.Selector.PrintedFragments
import SyntaxQuery.Proofs.Query.Partners
import SyntaxQuery.Proofs.Query.Indices
import SyntaxQuery.Proofs.Query.Expansions
import SyntaxQuery.Proofs.Regex.CacheContents
import SyntaxQuery.Proofs.Query.Continuations
import SyntaxQuery.Proofs.Decimal.Naturals
import SyntaxQuery.Proofs.Decimal.NearestDoubles
import SyntaxQuery.Proofs.Decimal.RadixSums
import SyntaxQuery.Proofs.Decimal.Spellings
import SyntaxQuery.Proofs.Decimal.NumericTexts
import SyntaxQuery.Proofs.Regex.FailedCalls
import SyntaxQuery.Proofs.Config.Issues
import SyntaxQuery.Proofs.Selector.Suggestions
import SyntaxQuery.Proofs.Query.Unmarking
import SyntaxQuery.Proofs.Source.ErrorCounts
import SyntaxQuery.Proofs.Query.Reach
import SyntaxQuery.Proofs.Command.Isolation
