import ServiceMonitor.Agent.Watched
import ServiceMonitor.Api.Router
import ServiceMonitor.Bus.Delivery
import ServiceMonitor.Hub.Session
import ServiceMonitor.LogFilter
import ServiceMonitor.Main
import ServiceMonitor.Monitor.Run
import ServiceMonitor.Notifier.Manager
import ServiceMonitor.Notifier.Post
import ServiceMonitor.Number.Reading
import ServiceMonitor.Proofs.Agent.Alike
import ServiceMonitor.Proofs.Agent.Splitting
import ServiceMonitor.Proofs.Api.TokenPlaces
import ServiceMonitor.Proofs.Bus.AsyncDelivery
import ServiceMonitor.Proofs.Bus.Handles
import ServiceMonitor.Proofs.Config.Validation
import ServiceMonitor.Proofs.Event.Encodings
import ServiceMonitor.Proofs.Hub.Broadcasting
import ServiceMonitor.Proofs.Hub.Keepalive
import ServiceMonitor.Proofs.Hub.Lifetimes
import ServiceMonitor.Proofs.Hub.Subscriptions
import ServiceMonitor.Proofs.Monitor.Apart
import ServiceMonitor.Proofs.Monitor.Cadence
import ServiceMonitor.Proofs.Monitor.Convergence
import ServiceMonitor.Proofs.Monitor.Reconnecting
import ServiceMonitor.Proofs.Monitor.Recorded
import ServiceMonitor.Proofs.Notifier.Closing
import ServiceMonitor.Proofs.Notifier.Concurrent
import ServiceMonitor.Proofs.Tracker.Outages
import ServiceMonitor.Proofs.Agent.Requested
import ServiceMonitor.Tracker
