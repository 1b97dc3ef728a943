import FxToushi.Backtest.Optimizer
import FxToushi.Backtest.PositionBook
import FxToushi.Backtest.RegressionRuns
import FxToushi.Backtest.RiskCaps
import FxToushi.Backtest.Streaks
import FxToushi.Backtest.Summary
import FxToushi.Backtest.Walkforward
import FxToushi.Brokers.ApiMonitor
import FxToushi.Brokers.BurstScenario
import FxToushi.Brokers.FillShadow
import FxToushi.Brokers.OrderQueries
import FxToushi.Brokers.RateBalance
import FxToushi.Brokers.StageChain
import FxToushi.Brokers.StageRaises
import FxToushi.Brokers.StageSharing
import FxToushi.Brokers.TradingWindows
import FxToushi.Config.Diff
import FxToushi.Config.PatchRuns
import FxToushi.Core.BusinessDays
import FxToushi.Core.CatchUp
import FxToushi.Core.DropOldest
import FxToushi.Core.GatePersistence
import FxToushi.Core.HealthEscalation
import FxToushi.Core.IntervalJobs
import FxToushi.Core.ResyncRuns
import FxToushi.Core.SessionManager
import FxToushi.Core.Snapshots
import FxToushi.Core.Subscription
import FxToushi.Emergency.Orchestrator
import FxToushi.Execution.Conservative
import FxToushi.Execution.CostSigns
import FxToushi.Execution.PositionCap
import FxToushi.Execution.SpreadCooldown
import FxToushi.Execution.WellFormedOrders
import FxToushi.Features.BarReady
import FxToushi.Features.CacheRuns
import FxToushi.Features.Parallel
import FxToushi.Infra.SecretsVault
import FxToushi.Ingestion.BufferedFetch
import FxToushi.Ingestion.DataManifest
import FxToushi.Ingestion.EmptyAnswers
import FxToushi.Ingestion.FrameQuality
import FxToushi.Ingestion.ManifestSigner
import FxToushi.Ingestion.WorkerPlans
import FxToushi.Research.IdeaRegistry
import FxToushi.Risk.Evaluation
import FxToushi.Risk.Guardrails
import FxToushi.Risk.LiquidityFailures
import FxToushi.Risk.PortfolioExposure
import FxToushi.Risk.Sprt
import FxToushi.Shadow.Listings
import FxToushi.ShadowGateway.SessionSupervisor
import FxToushi.Sizing.PositionSizer
import FxToushi.Strategies.AdmissionEvents
import FxToushi.Strategies.AllocationFilters
import FxToushi.Strategies.CandidateContract
import FxToushi.Strategies.CandidateOrder
import FxToushi.Strategies.OpenPositions
import FxToushi.Strategies.OrbProtocol
import FxToushi.Strategies.PluginFailures
import FxToushi.Strategies.SignalLog
import FxToushi.Strategies.TradeOrder
import FxToushi.Telemetry.TraderWorkflow
import FxToushi.Research.ExperimentTracker
