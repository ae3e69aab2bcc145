import ProviderGen.Dispatch
import ProviderGen.Main
import ProviderGen.Proofs.AllOrNothing
import ProviderGen.Proofs.Regeneration
import ProviderGen.Proofs.Exactness
import ProviderGen.Proofs.Declared
import ProviderGen.Proofs.Sorting
import ProviderGen.Proofs.Agreement
import ProviderGen.Proofs.Rearrangement
import ProviderGen.Proofs.Analysed
import ProviderGen.Proofs.Building
import ProviderGen.Proofs.Spelling
import ProviderGen.Proofs.Wording
import ProviderGen.Proofs.Prefilter
import ProviderGen.Proofs.Provider.Validity
import ProviderGen.Proofs.Imports
import ProviderGen.Proofs.Failing
import ProviderGen.Proofs.Settings
import ProviderGen.Proofs.Status
import ProviderGen.Proofs.Stages
import ProviderGen.Proofs.Phases
import ProviderGen.Proofs.Extensions
import ProviderGen.Proofs.Keywords
import ProviderGen.Proofs.Naming
import ProviderGen.Proofs.Provider.Tags
import ProviderGen.Proofs.Provider.Records
import ProviderGen.Proofs.Provider.Capture
import ProviderGen.Proofs.Irrelevance
import ProviderGen.Proofs.Duplicates
import ProviderGen.Proofs.Redefinition
import ProviderGen.Proofs.BuildEnding
import ProviderGen.Proofs.Stripping
import ProviderGen.Proofs.Dotted
import ProviderGen.Proofs.Importable
import ProviderGen.Proofs.Casing
import ProviderGen.Proofs.Configured
import ProviderGen.Proofs.TimeLimit
import ProviderGen.Proofs.LineEnds
import ProviderGen.Proofs.Blocks
import ProviderGen.Proofs.RunLog
import ProviderGen.Proofs.Verbosity
import ProviderGen.Proofs.Dispatching
import ProviderGen.Proofs.Builtin
