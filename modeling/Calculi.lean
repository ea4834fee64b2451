import Calculi.Main
import Calculi.Proofs.LoggerHistory
import Calculi.Proofs.Frame
import Calculi.Proofs.Run
import Calculi.Proofs.StrategyAgreement
import Calculi.Proofs.HasType
import Calculi.Proofs.Preservation
import Calculi.Proofs.Normalization
import Calculi.Proofs.Progress
import Calculi.Proofs.Erasure
import Calculi.Proofs.Invariant
import Calculi.Proofs.WellFormed
import Calculi.Proofs.Meaning
import Calculi.Proofs.SmallStep
import Calculi.Proofs.StepLimit
import Calculi.Proofs.SubstitutionLaws
import Calculi.Proofs.Stability
import Calculi.Proofs.FaithfulPrinting
import Calculi.Proofs.TypeErrors
import Calculi.Proofs.Verdict
import Calculi.Proofs.FreeVariables
import Calculi.Proofs.Entries
import Calculi.Proofs.SinkRules
import Calculi.Proofs.FilterText
import Calculi.Proofs.ModuleEntry
import Calculi.Proofs.ChapterRun
import Calculi.Proofs.References
import Calculi.Proofs.SettingsSources
import Calculi.Proofs.SettingsLoad
import Calculi.Proofs.SettingsValues
import Calculi.Proofs.ShiftComposition
import Calculi.Proofs.NumeralText
import Calculi.Proofs.VariableFile
import Calculi.Proofs.Traversal
