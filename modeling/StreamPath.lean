import StreamPath.Compile
import StreamPath.Stream.Collector
import StreamPath.Stream.Rule
import StreamPath.Stream.Drive
import StreamPath.Proofs.SiblingRank
import StreamPath.Proofs.Bracketing
import StreamPath.Proofs.NoTrace
import StreamPath.Proofs.Realization
import StreamPath.Proofs.PatternAgreement
import StreamPath.Proofs.MatchPosition
import StreamPath.Proofs.DocumentOrder
import StreamPath.Proofs.PathComposition
import StreamPath.Expr.Phrase
import StreamPath.Proofs.Parse
import StreamPath.Proofs.Lexemes
import StreamPath.Proofs.Phrase
import StreamPath.Proofs.Primaries
import StreamPath.Proofs.Operands
import StreamPath.Proofs.Levels
import StreamPath.Proofs.RoundTrip
import StreamPath.Proofs.LibraryCalls
import StreamPath.Proofs.Recovery
import StreamPath.Proofs.ArgumentLists
import StreamPath.Proofs.CompiledCalls
import StreamPath.Proofs.Constants
import StreamPath.Proofs.Collecting
import StreamPath.Proofs.DocumentTree
import StreamPath.Proofs.Delivery
import StreamPath.Proofs.OpenNodes
import StreamPath.Proofs.Declarations
import StreamPath.Proofs.NamespaceScopes
import StreamPath.Proofs.PathStarts
import StreamPath.Proofs.Subexpressions
import StreamPath.Proofs.Formation
import StreamPath.Proofs.Resolvability
import StreamPath.Proofs.ExternalFunctions
import StreamPath.Proofs.References
import StreamPath.Proofs.CharacterData
import StreamPath.Proofs.PatternLayout
import StreamPath.Proofs.VariableScopes
import StreamPath.Proofs.LeadingDescent
import StreamPath.Proofs.ParentSteps
import StreamPath.Proofs.Trimming
import StreamPath.Proofs.AttributePredicates
import StreamPath.Proofs.Consumption
import StreamPath.Proofs.Prolonging
import StreamPath.Proofs.LastNumerals
import StreamPath.Proofs.Completing
import StreamPath.Proofs.ProlongedWords
import StreamPath.Proofs.ProlongedGrammar
import StreamPath.Proofs.Parentheses
import StreamPath.Proofs.OperatorChains
import StreamPath.Proofs.UnionAlternatives
import StreamPath.Proofs.UnionLaws
import StreamPath.Proofs.Templates
import StreamPath.Proofs.AddedParentheses
import StreamPath.Proofs.StepPredicates
import StreamPath.Proofs.Registration
import StreamPath.Proofs.Invocations
import StreamPath.Proofs.PrefixRenaming
import StreamPath.Proofs.Replacements
import StreamPath.Proofs.Driving
import StreamPath.Proofs.ProvidedHandlers
import StreamPath.Proofs.EmptyTags
import StreamPath.Proofs.InScopePrefixes
import StreamPath.Proofs.Windows
import StreamPath.Value.Iteration
import StreamPath.Proofs.ValueChains
import StreamPath.Proofs.Doubles
import StreamPath.Proofs.Rounding
import StreamPath.Proofs.Conversions
import StreamPath.Proofs.Numerals
import StreamPath.Proofs.Occurrences
import StreamPath.Proofs.Comparisons
import StreamPath.Proofs.OpenElements
import StreamPath.Proofs.Progress
import StreamPath.Proofs.Noting
import StreamPath.Proofs.Walk
import StreamPath.Proofs.Visit
import StreamPath.Proofs.Chain
