import RecordRules.Item.Catalog
import RecordRules.Item.Records
import RecordRules.Loader
import RecordRules.Proofs.Conformance
import RecordRules.Proofs.Resolution
import RecordRules.Proofs.TypeSafety
import RecordRules.Value.Render
import RecordRules.Proofs.ByName
import RecordRules.Proofs.NameResolution
import RecordRules.Proofs.Parsing.Grammar
import RecordRules.Proofs.Parsing.Logic
import RecordRules.Proofs.Parsing.TokenSoundness
import RecordRules.Proofs.Parsing.TokenCompleteness
import RecordRules.Proofs.Parsing.Lookahead
import RecordRules.Proofs.Parsing.Marks
import RecordRules.Proofs.Parsing.Soundness
import RecordRules.Proofs.Parsing.Following
import RecordRules.Proofs.Parsing.Completeness
import RecordRules.Proofs.Parsing.Exactness
import RecordRules.Proofs.Answers
import RecordRules.Proofs.FirstMatch
import RecordRules.Proofs.ItemConformance
import RecordRules.Proofs.Typing
import RecordRules.Proofs.Parsing.WellFormed
import RecordRules.Proofs.Parsing.Rendering
import RecordRules.Proofs.Parsing.Embedding
import RecordRules.Proofs.Composition
import RecordRules.Proofs.Parsing.Surrounding
import RecordRules.Proofs.BlockIndependence
import RecordRules.Proofs.CommentIndependence
import RecordRules.Proofs.Recursion
import RecordRules.Proofs.Session
import RecordRules.Proofs.LineRuns
import RecordRules.Proofs.ErrorPlaces
import RecordRules.Proofs.Integers.Exactness
import RecordRules.Proofs.Connectives
import RecordRules.Proofs.Outcomes
import RecordRules.Proofs.Membership
import RecordRules.Proofs.FreeNames
import RecordRules.Proofs.Quantifiers
import RecordRules.Proofs.ItemHistory
import RecordRules.Proofs.LineEnds
import RecordRules.Proofs.ParameterRenaming
import RecordRules.Proofs.Parsing.Cuts
import RecordRules.Proofs.LiteralTexts
import RecordRules.Proofs.ItemReads
import RecordRules.Proofs.SchemaExtension
import RecordRules.Proofs.ComparisonLaws
import RecordRules.Proofs.Parsing.Discipline
