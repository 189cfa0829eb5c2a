import SortPipeline.Compiler
import SortPipeline.Config.Loader
import SortPipeline.Proofs.KeptMembers
import SortPipeline.Proofs.TotalPreorder
import SortPipeline.Proofs.SuccessiveSorts
import SortPipeline.Proofs.Rendering
import SortPipeline.Proofs.Session
import SortPipeline.Proofs.IntegerOrder
import SortPipeline.Proofs.SortStage
import SortPipeline.Proofs.RenderedOrder
import SortPipeline.Proofs.MirroredOrder
import SortPipeline.Proofs.Ties
import SortPipeline.Proofs.FirstFault
import SortPipeline.Document.InPlace
import SortPipeline.Proofs.CleanUp
import SortPipeline.Proofs.Collapse
import SortPipeline.Proofs.DirectiveText
import SortPipeline.Proofs.StoredForm
import SortPipeline.Proofs.LetterCase
import SortPipeline.Proofs.SameOrder
import SortPipeline.Proofs.SavedRegistry
import SortPipeline.Proofs.SelectedSource
import SortPipeline.Proofs.GuessedFormat
import SortPipeline.Proofs.InsertionOrder
