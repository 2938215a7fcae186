import RegressionDetection.Specification.Identity
import RegressionDetection.Policy.Meaning
import RegressionDetection.Execution.Cancellation
import RegressionDetection.Execution.CostCap
import RegressionDetection.Policy.CaseSets
import RegressionDetection.Persistence.Ownership
import RegressionDetection.Persistence.Recovery
import RegressionDetection.Persistence.Promotions
import RegressionDetection.Persistence.Claims
import RegressionDetection.Persistence.Submissions
import RegressionDetection.Persistence.Serialisability
import RegressionDetection.Persistence.Reconciliation
import RegressionDetection.Persistence.Queue
import RegressionDetection.Persistence.Races
import RegressionDetection.Api.Authentication
import RegressionDetection.Api.Noninterference
import RegressionDetection.Api.Idempotency
import RegressionDetection.Workers.Snapshots
import RegressionDetection.Reporting.Escaping
import RegressionDetection.Cli.GreenRuns
import RegressionDetection.Api.RateLimit
import RegressionDetection.Workers.Retry
import RegressionDetection.Providers.OpenRouter
import RegressionDetection.Evaluators.Verdicts
import RegressionDetection.Reporting.Views
import RegressionDetection.Execution.Substitution
import RegressionDetection.Notifications.Slack
import RegressionDetection.Execution.Resumption
import RegressionDetection.Workers.Refinement
import RegressionDetection.Workers.Leases
import RegressionDetection.Workers.Custody
import RegressionDetection.Cli.Verdicts
import RegressionDetection.Workers.Withdrawal
import RegressionDetection.Workers.Service
import RegressionDetection.Workers.Batches
import RegressionDetection.Application.Accounts
import RegressionDetection.Application.Limits
import RegressionDetection.Workers.Attempts
import RegressionDetection.Cli.LocalRun
import RegressionDetection.Workers.Upstream
import RegressionDetection.Policy.Relaxation
import RegressionDetection.Cli.Waiting
import RegressionDetection.Api.Tenants
