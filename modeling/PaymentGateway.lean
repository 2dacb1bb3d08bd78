import PaymentGateway.Ledger.Model
import PaymentGateway.Ledger.Services
import PaymentGateway.Ledger.Effects
import PaymentGateway.Ledger.Balance
import PaymentGateway.Ledger.History
import PaymentGateway.Worker.Processor
import PaymentGateway.Api.Transactions
import PaymentGateway.Worker.System
import PaymentGateway.Worker.Runs
import PaymentGateway.Worker.BankCalls
import PaymentGateway.Idempotency.Utf8
import PaymentGateway.Idempotency.Middleware
import PaymentGateway.Idempotency.Replay
import PaymentGateway.Idempotency.Isolation
import PaymentGateway.Api.Ingress
import PaymentGateway.Cache.DistributedLock
import PaymentGateway.Bank.CircuitBreaker
import PaymentGateway.Cache.RateLimiter
import PaymentGateway.Worker.DeadLetter
import PaymentGateway.Worker.WebhookDelivery
import PaymentGateway.Worker.Exhaustion
import PaymentGateway.Api.Amount
import PaymentGateway.Cache.RateLimit
import PaymentGateway.Bank.Simulator
import PaymentGateway.Api.Access
import PaymentGateway.Api.Registration
import PaymentGateway.Api.Ownership
import PaymentGateway.Worker.Deployment
