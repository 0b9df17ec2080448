import ModelBudget.Foundation.Threads
import ModelBudget.Foundation.Table
import ModelBudget.Foundation.Ledger
import ModelBudget.Foundation.DecimalRounding
import ModelBudget.Database
import ModelBudget.Pricing
import ModelBudget.Budget
import ModelBudget.BudgetConservation
import ModelBudget.Authentication
import ModelBudget.WindowRefinement
import ModelBudget.BreakerTrials
import ModelBudget.BreakerCooldown
import ModelBudget.Correspondence
import ModelBudget.SettlementAcceptance
import ModelBudget.PromptVersionOperators
import ModelBudget.OutcomeRecording
import ModelBudget.WriteConfinement
import ModelBudget.FailureCodes
import ModelBudget.AdminReports
import ModelBudget.CostCeiling
import ModelBudget.BilledUsage
import ModelBudget.Startup
import ModelBudget.SettlementCompleteness
import ModelBudget.LeaseTiming
import ModelBudget.ReservationCover
import ModelBudget.MonetaryClosure
import ModelBudget.BreakerHistory
import ModelBudget.FingerprintIdentity
import ModelBudget.VersionNumbering
import ModelBudget.KeyAcceptance
import ModelBudget.DashboardSessions
import ModelBudget.ControlledResponses
import ModelBudget.Foundation.Handlers
import ModelBudget.DashboardProxy
