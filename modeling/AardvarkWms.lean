import AardvarkWms.FreezeScope
import AardvarkWms.Storable
import AardvarkWms.Accounting
import AardvarkWms.PackedLines
import AardvarkWms.OverReceipt
import AardvarkWms.StockReplay
import AardvarkWms.TaskClaims
import AardvarkWms.Idempotency
import AardvarkWms.Inbox
import AardvarkWms.ReturnedStock
import AardvarkWms.SplitShipments
import AardvarkWms.PrintReplay
import AardvarkWms.CreditNotes
import AardvarkWms.InvoicedEvents
import AardvarkWms.StorageBilling
import AardvarkWms.CounterBilling
import AardvarkWms.AccessScopes
import AardvarkWms.OrderLifecycle
import AardvarkWms.SerialIdentity
import AardvarkWms.Recall
import AardvarkWms.ScanResolution
import AardvarkWms.ValidLogins
import AardvarkWms.LoginLocks
import AardvarkWms.SerialFlow
import AardvarkWms.IntegrationEvents
import AardvarkWms.DomainEvents
import AardvarkWms.PackagingLevels
import AardvarkWms.Dispositions
import AardvarkWms.AllocationOrder
import AardvarkWms.PackingAgreement
import AardvarkWms.PickedQuantity
import AardvarkWms.CarrierTracking
import AardvarkWms.DeadLetterReplay
import AardvarkWms.ReplenishmentRuns
import AardvarkWms.InvoiceLines
import AardvarkWms.StorageRates
import AardvarkWms.TrackingNumbers
import AardvarkWms.CrossDock
import AardvarkWms.FlowSimulator
import AardvarkWms.RfScans
import AardvarkWms.Retention
import AardvarkWms.WebhookSignatures
import AardvarkWms.OfflineQueue
import AardvarkWms.LabelRendering
import AardvarkWms.OwnershipIntegrity
import AardvarkWms.LogRedaction
import AardvarkWms.RateLimiting
import AardvarkWms.AardvarkCodes
import AardvarkWms.Gs1Codes
import AardvarkWms.BillingPdf
import AardvarkWms.Base32
import AardvarkWms.Slotting
import AardvarkWms.QuantIdentity
import AardvarkWms.GracefulShutdown
import AardvarkWms.ConsoleSession
import AardvarkWms.Realtime
import AardvarkWms.Totp
import AardvarkWms.EventStream
