import SupplyChain.Relational.Table
import SupplyChain.Relational.Transaction
import SupplyChain.Relational.Runs
import SupplyChain.Relational.Refusals
import SupplyChain.Relational.Frames
import SupplyChain.Schema
import SupplyChain.Platform
import SupplyChain.Calendar
import SupplyChain.Supply
import SupplyChain.PurchasePlans
import SupplyChain.PurchaseOrders
import SupplyChain.MasterData
import SupplyChain.Suppliers
import SupplyChain.Greedy
import SupplyChain.Stock
import SupplyChain.Platform.Refusals
import SupplyChain.Platform.Frames
import SupplyChain.Inventory
import SupplyChain.Stocktakes
import SupplyChain.PurchaseReceipts
import SupplyChain.QualityInspections
import SupplyChain.Warehouses
import SupplyChain.ProductionOrders
import SupplyChain.Shipments
import SupplyChain.Returns
import SupplyChain.Finance
import SupplyChain.ApprovalEffects
import SupplyChain.Approvals
import SupplyChain.SupplyApprovalEffects
import SupplyChain.Operations
import SupplyChain.Procurement
import SupplyChain.Auth
import SupplyChain.Finance.Outcomes
import SupplyChain.ApprovalEffects.Outcomes
import SupplyChain.Approvals.Outcomes
import SupplyChain.Finance.Books
import SupplyChain.Finance.Payables
import SupplyChain.Finance.Remediation
import SupplyChain.Finance.Postings
import SupplyChain.Finance.Guarantees
import SupplyChain.Finance.Versions
import SupplyChain.Finance.References
import SupplyChain.Stock.Moves
import SupplyChain.Stock.Pool
import SupplyChain.Inventory.Outcomes
import SupplyChain.PurchaseReceipts.Outcomes
import SupplyChain.QualityInspections.Outcomes
import SupplyChain.Shipments.Outcomes
import SupplyChain.ProductionOrders.Materials
import SupplyChain.ProductionOrders.Outcomes
import SupplyChain.Returns.Outcomes
import SupplyChain.Stock.Steps
import SupplyChain.ProductionOrders.Steps
import SupplyChain.Shipments.Steps
import SupplyChain.ProductionOrders.Reports
import SupplyChain.Shipments.Cap
import SupplyChain.Shipments.Deviations
import SupplyChain.ProductionOrders.Accounting
import SupplyChain.QualityInspections.Provenance
import SupplyChain.QualityInspections.Gate
import SupplyChain.ProductionOrders.Backing
import SupplyChain.ProductionOrders.Stranding
import SupplyChain.ProductionOrders.Issues
import SupplyChain.ProductionOrders.Deviations
import SupplyChain.ProductionOrders.Closing
import SupplyChain.Approvals.Requests
import SupplyChain.Approvals.Decisions
import SupplyChain.Procurement.Steps
import SupplyChain.Suppliers.Outcomes
import SupplyChain.Suppliers.Timeline
import SupplyChain.Suppliers.Prices
import SupplyChain.DatabaseClient
import SupplyChain.DatabaseClient.Outcomes
import SupplyChain.Suppliers.Relations
import SupplyChain.Supply.Frames
import SupplyChain.Procurement.Requests
import SupplyChain.MasterData.Boms
import SupplyChain.PurchaseOrders.Outcomes
import SupplyChain.PurchasePlans.Outcomes
import SupplyChain.PurchasePlans.Decisions
import SupplyChain.PurchaseOrders.Steps
import SupplyChain.PurchaseOrders.Latest
import SupplyChain.PurchaseOrders.Ledger
import SupplyChain.PurchaseOrders.Completion
import SupplyChain.PurchaseOrders.Downstream
import SupplyChain.Worker
import SupplyChain.Worker.Delivery
import SupplyChain.Relational.Keys
import SupplyChain.Stocktakes.Outcomes
import SupplyChain.Stocktakes.Steps
import SupplyChain.Stocktakes.Recounts
import SupplyChain.Json.Numbers
import SupplyChain.Json.Texts
import SupplyChain.Commands
import SupplyChain.Commands.Outcomes
import SupplyChain.Commands.ExactlyOnce
import SupplyChain.MutationClient
import SupplyChain.MutationClient.Retries
import SupplyChain.MutationClient.AtMostOnce
import SupplyChain.Calendar.Timestamps
import SupplyChain.Calendar.Moments
import SupplyChain.Calendar.Instants
import SupplyChain.Accounts
import SupplyChain.Accounts.Requests
import SupplyChain.Accounts.Outcomes
import SupplyChain.Accounts.Challenges
import SupplyChain.Accounts.Lockout
import SupplyChain.Accounts.Sessions
import SupplyChain.Accounts.Answers
import SupplyChain.Worker.Reminders
import SupplyChain.Worker.Loop
import SupplyChain.Worker.Availability
import SupplyChain.Suppliers.Performance
import SupplyChain.Suppliers.Punctuality
import SupplyChain.Suppliers.Ranking
import SupplyChain.Supply.Numbers
import SupplyChain.Suppliers.Closure
import SupplyChain.Relational.Inserts
import SupplyChain.Worker.Notifications
import SupplyChain.Procurement.Reminders
import SupplyChain.Procurement.Confirmations
import SupplyChain.Suppliers.Terms
import SupplyChain.PurchaseOrders.Sequence
import SupplyChain.PurchaseOrders.Deliveries
import SupplyChain.PurchaseOrders.DeadEnds
import SupplyChain.ProductionOrders.Exactness
import SupplyChain.Stock.Deductions
import SupplyChain.Finance.Allocation
import SupplyChain.Suppliers.Capacity
import SupplyChain.Suppliers.Anonymity
import SupplyChain.Finance.PaymentGuard
import SupplyChain.Inventory.Transfers
import SupplyChain.Worker.Occurrences
import SupplyChain.SafeXlsx.Exactness
import SupplyChain.Numeration
import SupplyChain.SafeXlsx.Columns
import SupplyChain.Checksum
import SupplyChain.SafeXlsx.Checksums
import SupplyChain.Calendar.Months
import SupplyChain.PlannedPayments
import SupplyChain.Json.Values
import SupplyChain.Xml
import SupplyChain.Xml.Writer
import SupplyChain.SafeXlsx.Reader
import SupplyChain.SafeXlsx.Faithfulness
import SupplyChain.Relational.Replays
import SupplyChain.Locking
import SupplyChain.RowLocks
import SupplyChain.Publishing
import SupplyChain.FileStorage
import SupplyChain.Files
import SupplyChain.Files.Downloads
import SupplyChain.ImportDiff
import SupplyChain.UserRoles
import SupplyChain.UserRoles.Requests
import SupplyChain.UserRoles.DualControl
import SupplyChain.Audit
import SupplyChain.Audit.Limits
