import LndkFormal.Async.Pool
import LndkFormal.Tables.Table
import LndkFormal.Offers.Parse
import LndkFormal.Offers.Dispatch
import LndkFormal.Server.Amounts
import LndkFormal.System.Messages
import LndkFormal.System.Leaks
import LndkFormal.System.Timeout
import LndkFormal.RateLimit.Window
import LndkFormal.Messenger.Lifetimes
import LndkFormal.Messenger.Quota
import LndkFormal.Offers.Attempts
import LndkFormal.System.Abandoned
import LndkFormal.System.FeeLimits
import LndkFormal.System.Outbox
import LndkFormal.Messenger.NodeIds
import LndkFormal.Messenger.Retry
import LndkFormal.Offers.PathConversion
import LndkFormal.System.QueriedAmounts
import LndkFormal.Messenger.Resync
import LndkFormal.Offers.ReplyPaths
import LndkFormal.Offers.ConnectRetry
import LndkFormal.Tls.Credentials
import LndkFormal.Messenger.Relay
import LndkFormal.Messenger.Forwarding
import LndkFormal.Offers.FeatureBits
import LndkFormal.Lnd.Version
import LndkFormal.Server.InvoiceContents
import LndkFormal.Server.CreateOffer
import LndkFormal.Messenger.Deadlock
import LndkFormal.Messenger.Connections
import LndkFormal.System.Exchange
import LndkFormal.Messenger.Support
import LndkFormal.System.Statuses
import LndkFormal.System.Routing
import LndkFormal.System.Endpoints
import LndkFormal.Daemon.Restart
import LndkFormal.Messenger.Intake
import LndkFormal.System.TwoSteps
import LndkFormal.System.Reach
import LndkFormal.Client.Payments
import LndkFormal.Messenger.Signer
