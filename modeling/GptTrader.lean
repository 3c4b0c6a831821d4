import GptTrader.Library.Transaction
import GptTrader.Library.Dict
import GptTrader.Library.Table
import GptTrader.Library.Connection
import GptTrader.Library.Program
import GptTrader.Core.OrderIntent
import GptTrader.Core.ProjectionOrder
import GptTrader.Persistence.OrderGrowth
import GptTrader.Persistence.OrdersAccounting
import GptTrader.Persistence.OrderRuns
import GptTrader.Persistence.TransactionBodies
import GptTrader.Persistence.Housekeeping
import GptTrader.Persistence.StoredRows
import GptTrader.Persistence.RecordedFills
import GptTrader.Persistence.FillArrivals
import GptTrader.Coinbase.UserMessages
import GptTrader.Coinbase.UserEventHandler
import GptTrader.Coinbase.OrderCalls
import GptTrader.TradeIdeas.JournalRuns
import GptTrader.TradeIdeas.Workflow
import GptTrader.TradeIdeas.RiskBudget
import GptTrader.TradeIdeas.AutonomyRuns
import GptTrader.TradeIdeas.WorkflowRuns
import GptTrader.TradeIdeas.ApprovalRuns
import GptTrader.TradeIdeas.EquityLedger
import GptTrader.TradeIdeas.FinalCloseouts
import GptTrader.LiveTrade.RiskState
import GptTrader.LiveTrade.ExposureCheck
import GptTrader.LiveTrade.OrderGuards
import GptTrader.LiveTrade.OrderSubmission
import GptTrader.LiveTrade.SubmissionSessions
import GptTrader.LiveTrade.SubmittedRows
import GptTrader.LiveTrade.ConcurrentSubmissions
import GptTrader.Experiment.ModelTransport
import GptTrader.Paper.Receipts
import GptTrader.Python.DecimalRounding
import GptTrader.Paper.Account
import GptTrader.Paper.AccountFunds
import GptTrader.Paper.AccountPositions
import GptTrader.Paper.AccountRuns
import GptTrader.Experiment.RecordedInput
import GptTrader.Experiment.AccountState
import GptTrader.Experiment.RulebookChannel
import GptTrader.Experiment.TradeManager
import GptTrader.Experiment.Engine
import GptTrader.Core.RoundedProjection
import GptTrader.Experiment.Reconciliation
import GptTrader.Experiment.RecordedFills
import GptTrader.Experiment.ChannelEffects
import GptTrader.Experiment.ExactBooks
import GptTrader.Experiment.ExactRuns
import GptTrader.Experiment.ReconciledRuns
import GptTrader.Experiment.BarTrades
import GptTrader.Experiment.EntrySizes
import GptTrader.Experiment.EntryRuns
import GptTrader.Python.DecimalAccuracy
import GptTrader.Experiment.AlikeInputs
import GptTrader.Experiment.NoLookahead
import GptTrader.Experiment.UnroundedBooks
import GptTrader.Experiment.UnroundedRuns
import GptTrader.Experiment.DailyBars
import GptTrader.Library.Chain
import GptTrader.Experiment.EstimateRuns
import GptTrader.Experiment.CandleCapture
import GptTrader.Experiment.Valuation
import GptTrader.Backtesting.ConservedMoney
import GptTrader.Backtesting.CacheTransparency
import GptTrader.Core.TradingCalendar
import GptTrader.LiveTrade.Degradation
import GptTrader.Core.ValidatedOrders
import GptTrader.TradeIdeas.ScoringReturns
import GptTrader.TradeIdeas.CycleRuns
import GptTrader.TradeIdeas.DryRuns
import GptTrader.Backtesting.MarkedPositions
import GptTrader.Paper.FillPrices
import GptTrader.Coinbase.PnlLedger
import GptTrader.Coinbase.HistoricalCandles
import GptTrader.Core.SafeSizes
import GptTrader.Coinbase.SpecsService
import GptTrader.Library.Recoverable
import GptTrader.LiveTrade.StatefulIndicators
import GptTrader.Library.Statistics
import GptTrader.LiveTrade.IncrementalIndicators
import GptTrader.LiveTrade.OrderRecordMapping
import GptTrader.Library.Coverage
import GptTrader.Coinbase.StorelessFills
import GptTrader.Backtesting.EquityCurve
import GptTrader.Backtesting.OrderOutcomes
import GptTrader.Backtesting.PricedFills
import GptTrader.Backtesting.OrderQuantities
import GptTrader.Backtesting.FundingRuns
import GptTrader.Intelligence.RegimeChanges
import GptTrader.Intelligence.RegimeRestarts
import GptTrader.LiveTrade.StickySides
import GptTrader.Persistence.EventDurability
import GptTrader.Backtesting.TradeStatistics
import GptTrader.Backtesting.DrawdownDuration
import GptTrader.TradeIdeas.Scorecard
import GptTrader.Coinbase.Pagination
import GptTrader.LiveTrade.EquityCalculator
import GptTrader.TradeIdeas.Baseline
import GptTrader.Coinbase.ApiResilience
import GptTrader.Coinbase.RequestPacing
