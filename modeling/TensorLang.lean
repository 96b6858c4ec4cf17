import TensorLang.Report
import TensorLang.Tree.Numbering
import TensorLang.Tree.Outline
import TensorLang.Proofs.Logged
import TensorLang.Proofs.Regular
import TensorLang.Proofs.WellFormed
import TensorLang.Proofs.SoundAnnotations
import TensorLang.Proofs.SoundOperators
import TensorLang.Proofs.SoundCalls
import TensorLang.Proofs.SoundExprs
import TensorLang.Proofs.Axes
import TensorLang.Proofs.Registries
import TensorLang.Proofs.SoundDefinitions
import TensorLang.Proofs.Success
import TensorLang.Proofs.Steps
import TensorLang.Proofs.StepsSound
import TensorLang.Proofs.ScopeDiscipline
import TensorLang.Proofs.AccessModes
import TensorLang.Proofs.Frames
import TensorLang.Proofs.Views
import TensorLang.Proofs.RuleViews
import TensorLang.Proofs.Entries
import TensorLang.Proofs.Fading
import TensorLang.Proofs.FadingOperators
import TensorLang.Proofs.FadingReads
import TensorLang.Proofs.FadingStmts
import TensorLang.Proofs.RecordedIds
import TensorLang.Proofs.UndefinedTypes
import TensorLang.Proofs.Settled
import TensorLang.Proofs.RulesGive
import TensorLang.Proofs.CompleteExprs
import TensorLang.Proofs.CompleteStmts
import TensorLang.Proofs.CompletePrograms
import TensorLang.Proofs.References
import TensorLang.Proofs.UnboundNames
import TensorLang.Proofs.LexicalScope
import TensorLang.Tree.Wrapping
import TensorLang.Proofs.Sites
import TensorLang.Proofs.FaultlessSites
import TensorLang.Proofs.WritableTargets
import TensorLang.Proofs.Sameness
import TensorLang.Proofs.AssignedTypes
import TensorLang.Proofs.CarefulSteps
import TensorLang.Proofs.StableBindings
import TensorLang.Proofs.Dressing
import TensorLang.Proofs.DressedRules
import TensorLang.Proofs.DressedExprs
import TensorLang.Proofs.DressedStmts
import TensorLang.Proofs.Parentheses
import TensorLang.Proofs.LaterDefinitions
import TensorLang.Tree.Mentions
import TensorLang.Proofs.Agreement
import TensorLang.Proofs.Noninterference
import TensorLang.Scope.Operation
import TensorLang.Scope.Maps
import TensorLang.Proofs.FirstNamed
import TensorLang.Proofs.MapStacks
import TensorLang.Proofs.TableHistories
import TensorLang.Proofs.RegisteredItems
import TensorLang.Proofs.InitialValues
import TensorLang.Proofs.ErrorPlaces
import TensorLang.Proofs.LiteralShapes
import TensorLang.Proofs.NumberedDrafts
import TensorLang.Proofs.TransposedProducts
import TensorLang.Proofs.AssociativeProducts
import TensorLang.Proofs.Blocks
import TensorLang.Proofs.Reads
import TensorLang.Proofs.BlockedAnnotations
import TensorLang.Proofs.BlockGrids
import TensorLang.Proofs.SetFields
import TensorLang.Proofs.SlicedReads
import TensorLang.Proofs.TransposedReads
import TensorLang.Proofs.MapsAsCalls
import TensorLang.Proofs.UnitDimensions
import TensorLang.Proofs.ScalarOperands
import TensorLang.Proofs.KnownVariables
import TensorLang.Proofs.KnownSteps
import TensorLang.Proofs.TypeEquality
import TensorLang.Proofs.Words
import TensorLang.Proofs.TypeTexts
import TensorLang.Proofs.Comparisons
import TensorLang.Proofs.ErrorTexts
