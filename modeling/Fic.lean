import Fic.Pam.ProviderBlock.History
import Fic.Pam.ProviderBlock.FlagRoundTrip
import Fic.Execution.PlannerOrder
import Fic.Pam.ControlFlow.LockoutVerdict
import Fic.Pam.EffectiveStack
import Fic.Journal.IdAllocation
import Fic.Journal.Scope.Committed
import Fic.Journal.RefreshAuthority
import Fic.Execution.GraphExactness
import Fic.Sudo.DisabledRestore
import Fic.Sudo.AuthenticationRoundTrip
import Fic.Sudo.HiddenLines
import Fic.Incident.AuthorizedRuns
import Fic.Device.EventQueue
import Fic.Config.ModuleConfig
