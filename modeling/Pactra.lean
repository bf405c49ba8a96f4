import Pactra.Adapters.Aliases
import Pactra.AgentOrchestrator.Arrival
import Pactra.AgentOrchestrator.Noninterference
import Pactra.AgentOrchestrator.Rebinding
import Pactra.AuditLedger.Advisory
import Pactra.AuditLedger.Commitment
import Pactra.AuditLedger.Sessions
import Pactra.AuditLedger.View
import Pactra.PaymentExecutor.Effects.Audit
import Pactra.PaymentExecutor.Effects.Linking
import Pactra.PaymentExecutor.Effects.ProviderCalls
import Pactra.PaymentExecutor.Effects.Settlement
import Pactra.PaymentExecutor.Effects.Webhook
import Pactra.PaymentExecutor.Providers.Responses
import Pactra.PaymentExecutor.Providers.Webhook
import Pactra.RiskEngine.Monotone
import Pactra.Schemas.Injectivity
import Pactra.SecurityKernel.Guarantees
import Pactra.System.Authority
import Pactra.System.Claims
import Pactra.System.DeadLetters
import Pactra.System.Evidence
import Pactra.System.Missions
import Pactra.System.OneIntent
import Pactra.System.Overtaken
import Pactra.System.Requests
import Pactra.System.Settlement
import Pactra.System.Stages
import Pactra.System.Webhooks
