import ProofAlpha.Lib.PyList
import ProofAlpha.Lib.PyText
import ProofAlpha.Lib.PyMath
import ProofAlpha.Lib.PyJson
import ProofAlpha.Lib.PyDict
import ProofAlpha.Lib.CanonicalJson
import ProofAlpha.Lib.Checks
import ProofAlpha.Lib.IndexedLoop
import ProofAlpha.Lib.FirstBy
import ProofAlpha.Lib.LastWrite
import ProofAlpha.Lib.PyRandom
import ProofAlpha.Lib.Calendar
import ProofAlpha.Lib.RoundingBounds
import ProofAlpha.Lib.GuardedLoop
import ProofAlpha.Lib.PyFloat
import ProofAlpha.Lib.UnitOrder
import ProofAlpha.Lib.AverageCost
import ProofAlpha.Lib.DepthWalk
import ProofAlpha.Lib.Ranks
import ProofAlpha.Lib.StepUp
import ProofAlpha.Lib.Runs
import ProofAlpha.Lib.RunningMaxima
import ProofAlpha.Lib.Windows
import ProofAlpha.Lib.Traced
import ProofAlpha.Lib.Paging
import ProofAlpha.Lib.AsOf
import ProofAlpha.Lib.PyDatetime
import ProofAlpha.Lib.FloatArithmetic
import ProofAlpha.Lib.PublishByRename
import ProofAlpha.Backtest.MarketImpact
import ProofAlpha.Backtest.Liquidation
import ProofAlpha.Backtest.Drawdown
import ProofAlpha.Backtest.SimState
import ProofAlpha.Backtest.Snapshot
import ProofAlpha.Backtest.Simulator
import ProofAlpha.Backtest.SimulatorNumba
import ProofAlpha.Backtest.NumbaKernel
import ProofAlpha.Backtest.KernelParity
import ProofAlpha.Backtest.ReferenceParity
import ProofAlpha.Backtest.NoLookahead
import ProofAlpha.Backtest.MarkToMarket
import ProofAlpha.Backtest.Accounting
import ProofAlpha.Backtest.FillProbe
import ProofAlpha.Backtest.Indicators
import ProofAlpha.Backtest.LiquidationLoss
import ProofAlpha.Backtest.LastBarEntry
import ProofAlpha.Backtest.PriceUnit
import ProofAlpha.Backtest.FlatPricing
import ProofAlpha.Backtest.UnitGrowth
import ProofAlpha.Backtest.DrawdownUnits
import ProofAlpha.Backtest.Annualization
import ProofAlpha.Backtest.UnliquidatedRun
import ProofAlpha.Backtest.FundingEvents
import ProofAlpha.Backtest.IndicatorCausality
import ProofAlpha.Backtest.RegimeCausality
import ProofAlpha.Backtest.LatencyAccrual
import ProofAlpha.Backtest.BinanceUsdm
import ProofAlpha.Backtest.ReduceOnly
import ProofAlpha.Backtest.FundingRates
import ProofAlpha.Calibration.CostCapacity
import ProofAlpha.Calibration.UpdateGuard
import ProofAlpha.Calibration.CapacityLadder
import ProofAlpha.Calibration.CapacityVerdicts
import ProofAlpha.Data.Snapshots
import ProofAlpha.Data.Validate
import ProofAlpha.Data.Storage
import ProofAlpha.Data.StorageRoundTrip
import ProofAlpha.Data.StorageFidelity
import ProofAlpha.Data.ArchiveFetch
import ProofAlpha.Data.ArchivePeriods
import ProofAlpha.Data.ArchiveCoverage
import ProofAlpha.Data.LabelPurging
import ProofAlpha.Data.Microstructure
import ProofAlpha.Data.TradeAttribution
import ProofAlpha.Data.Pagination
import ProofAlpha.Data.PageCompleteness
import ProofAlpha.Data.WindowCoverage
import ProofAlpha.Data.SeriesAlignment
import ProofAlpha.Data.BundleJoin
import ProofAlpha.Data.LeverageTiers
import ProofAlpha.Validation.GateSpec
import ProofAlpha.Validation.Protocol
import ProofAlpha.Validation.Promotion
import ProofAlpha.Validation.CandidateGovernance
import ProofAlpha.Validation.VerdictChain
import ProofAlpha.Validation.Bootstrap
import ProofAlpha.Validation.Permutation
import ProofAlpha.Validation.RowAlignment
import ProofAlpha.Validation.Scenarios
import ProofAlpha.Validation.ScenarioResolution
import ProofAlpha.Validation.PresetPrecedence
import ProofAlpha.Validation.ScenarioGate
import ProofAlpha.Validation.Overfitting
import ProofAlpha.Validation.PboOrder
import ProofAlpha.Validation.PerformanceMatrix
import ProofAlpha.Validation.FalseDiscovery
import ProofAlpha.Validation.BootstrapFunding
import ProofAlpha.Validation.DurationSmoothing
import ProofAlpha.Validation.PermutedReturns
import ProofAlpha.Validation.BlockIndices
import ProofAlpha.Validation.Statistics
import ProofAlpha.Validation.ScenarioResults
import ProofAlpha.Memory.ExecutionEvents
import ProofAlpha.Memory.ConcurrentAppend
import ProofAlpha.Memory.Projections
import ProofAlpha.Memory.FillConservation
import ProofAlpha.Memory.OrderRegression
import ProofAlpha.Memory.EntryPrice
import ProofAlpha.Execution.PaperStreams
import ProofAlpha.Execution.PaperCollector
import ProofAlpha.Execution.GapParity
import ProofAlpha.Execution.PaperBook
import ProofAlpha.Execution.PaperBookChain
import ProofAlpha.Execution.StateProjection
import ProofAlpha.Execution.ReconciliationRepair
import ProofAlpha.Execution.ProjectionParity
import ProofAlpha.Execution.Phase3Ledgers
import ProofAlpha.Execution.Reconciliation
import ProofAlpha.Execution.OrderManager
import ProofAlpha.Execution.OrderPaths
import ProofAlpha.Execution.PaperDaemon
import ProofAlpha.Execution.PaperRiskLimits
import ProofAlpha.Execution.PaperExport
import ProofAlpha.Execution.PaperFill
import ProofAlpha.Execution.PaperFillBounds
import ProofAlpha.Execution.PaperFixture
import ProofAlpha.Execution.VenueTranslator
import ProofAlpha.Execution.VenueRounding
import ProofAlpha.Execution.LiquidationGuard
import ProofAlpha.Execution.IntentDirection
import ProofAlpha.Governance.Lifecycle
import ProofAlpha.Governance.StageWrites
import ProofAlpha.Governance.Retirement
import ProofAlpha.Governance.StatusConsistency
import ProofAlpha.Strategy.Artifacts
import ProofAlpha.Strategy.ArtifactIntegrity
import ProofAlpha.Strategy.PaperAuthority
import ProofAlpha.Strategy.BoundedDsl
import ProofAlpha.Strategy.NormalForm
import ProofAlpha.Portfolio.Allocator
import ProofAlpha.Portfolio.PortfolioLimits
import ProofAlpha.Portfolio.DeltaOrderPlan
import ProofAlpha.Portfolio.DeltaExposure
import ProofAlpha.Portfolio.PaperLoop
import ProofAlpha.Portfolio.LoopFixedPoint
import ProofAlpha.Portfolio.RiskBudget
import ProofAlpha.Portfolio.StrategyAllocator
import ProofAlpha.Universe.Manifest
import ProofAlpha.Learning.ModelRegistry
import ProofAlpha.Learning.DatasetBuilder
import ProofAlpha.Learning.ShadowValidation
import ProofAlpha.Config.Models
import ProofAlpha.Optimizer.Phases
import ProofAlpha.Optimizer.Grid
import ProofAlpha.Optimizer.PhaseBooks
import ProofAlpha.Optimizer.RelativeGates
import ProofAlpha.Optimizer.TotalLoss
import ProofAlpha.App.ScenarioStress
import ProofAlpha.App.StressNeverImproves
import ProofAlpha.App.StrategyGraph
import ProofAlpha.App.Signals
import ProofAlpha.App.Evaluation
import ProofAlpha.App.LastBarProbe
import ProofAlpha.App.ScenarioEvaluation
import ProofAlpha.App.NeutralStress
import ProofAlpha.App.NeutralScenario
import ProofAlpha.App.Splits
import ProofAlpha.App.BatchGrid
import ProofAlpha.App.BatchParity
import ProofAlpha.App.CrisisWindows
import ProofAlpha.Agent.Scratchpad
import ProofAlpha.Agent.Controller
import ProofAlpha.Agent.KarpathyLineage
import ProofAlpha.Agent.LoopBooks
import ProofAlpha.Strategy.BoundedSpecPayload
import ProofAlpha.Agent.ModelGovernance
import ProofAlpha.Validation.RegimeState
import ProofAlpha.Agent.PayloadRegime
import ProofAlpha.App.DataCollector
import ProofAlpha.App.CollectorWindow
import ProofAlpha.App.GridSelection
import ProofAlpha.App.SelectedParameters
import ProofAlpha.Agent.ParameterHints
import ProofAlpha.Io.AtomicWrite
import ProofAlpha.Execution.NoKeyExecutor
import ProofAlpha.Execution.NoKeyRecovery
import ProofAlpha.App.StudyReadiness
import ProofAlpha.App.CandidateQueue
import ProofAlpha.App.ImprovementGate
import ProofAlpha.App.GuardedCycles
import ProofAlpha.App.GuardedRepeat
import ProofAlpha.App.OperatorLoop
import ProofAlpha.Data.FixedHorizonLabels
import ProofAlpha.Validation.Cpcv
