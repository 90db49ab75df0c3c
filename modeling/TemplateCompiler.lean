import TemplateCompiler.Dialect.Pass
import TemplateCompiler.IR.Edit
import TemplateCompiler.Inspect.Assembly
import TemplateCompiler.Inspect.TagHelper
import TemplateCompiler.Inspect.Session
import TemplateCompiler.Inspect.Syntax
import TemplateCompiler.Main
import TemplateCompiler.Proofs.BoundElements
import TemplateCompiler.Proofs.CompileOrder
import TemplateCompiler.Proofs.HelperIdentity
import TemplateCompiler.Proofs.IndexedBinding
import TemplateCompiler.Proofs.LeadingNodes
import TemplateCompiler.Proofs.LookupScope
import TemplateCompiler.Proofs.LosslessParse
import TemplateCompiler.Proofs.LostReports
import TemplateCompiler.Proofs.SourceMap
import TemplateCompiler.Proofs.RelocatedOutput
import TemplateCompiler.Proofs.SharedRecords
import TemplateCompiler.Proofs.RecordedEvents
import TemplateCompiler.Proofs.SoundDocuments
import TemplateCompiler.Proofs.RepeatedRuns
import TemplateCompiler.Proofs.RepeatedOptimization
import TemplateCompiler.Proofs.RecutMarkup
import TemplateCompiler.Proofs.RecutPasses
import TemplateCompiler.Proofs.MergedLowering
import TemplateCompiler.Proofs.TextMerging
import TemplateCompiler.Proofs.StoreCalls
import TemplateCompiler.Proofs.ImportCalls
import TemplateCompiler.Proofs.DiagnosticLimit
import TemplateCompiler.Proofs.QuotedValues
import TemplateCompiler.Proofs.JoinedMarkup
import TemplateCompiler.Proofs.WrittenOutline
import TemplateCompiler.Proofs.DefinedSections
import TemplateCompiler.Proofs.SettledBinding
import TemplateCompiler.Proofs.FlattenedLowering
import TemplateCompiler.Proofs.HelperFields
import TemplateCompiler.Proofs.ClassDirectives
import TemplateCompiler.Proofs.RepeatedDirectives
import TemplateCompiler.Proofs.FileScopedDirectives
import TemplateCompiler.Proofs.TreePasses
import TemplateCompiler.Proofs.QuotedTokens
import TemplateCompiler.Proofs.MatchedDirectives
import TemplateCompiler.Proofs.NormalContent
import TemplateCompiler.Proofs.OrderedRegistry
import TemplateCompiler.Proofs.NestedSpans
import TemplateCompiler.Proofs.ExactPositions
import TemplateCompiler.Proofs.ExcerptLines
import TemplateCompiler.Proofs.CheckedNames
import TemplateCompiler.Proofs.DuplicateDirectives
import TemplateCompiler.Proofs.ImportChain
import TemplateCompiler.Proofs.NewestEvents
