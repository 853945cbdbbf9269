import RedirectLogin.Main
import RedirectLogin.Store.Keyring
import RedirectLogin.Store.Register
import RedirectLogin.Proofs.Coordinator.Events
import RedirectLogin.Proofs.Store.Register
import RedirectLogin.Proofs.Coordinator.SingleFlight
import RedirectLogin.Proofs.Api.Anonymous
import RedirectLogin.Proofs.Coordinator.LoggedOut
import RedirectLogin.Proofs.Coordinator.Persistence
import RedirectLogin.Proofs.Coordinator.Callers
import RedirectLogin.Proofs.Coordinator.Replay
import RedirectLogin.Proofs.Coordinator.Expiry
import RedirectLogin.Proofs.Coordinator.LogOut
import RedirectLogin.Proofs.Coordinator.Rotation
import RedirectLogin.Proofs.Coordinator.Burst
import RedirectLogin.Proofs.Coordinator.Solicited
import RedirectLogin.Proofs.Coordinator.Lifecycle
import RedirectLogin.Proofs.Store.Histories
import RedirectLogin.Proofs.Store.Atomicity
import RedirectLogin.Proofs.Coordinator.Foreign
import RedirectLogin.Proofs.Api.Interceptor
import RedirectLogin.Proofs.Coordinator.Faults
import RedirectLogin.Proofs.Loopback
import RedirectLogin.Proofs.Coordinator.Renewal
import RedirectLogin.Proofs.Coordinator.Revocation
import RedirectLogin.Proofs.Parameters
import RedirectLogin.Proofs.Store.Salts
import RedirectLogin.Proofs.Api.Origin
import RedirectLogin.Proofs.Api.LoginPage
import RedirectLogin.Proofs.Coordinator.Transports
import RedirectLogin.Proofs.Listener
import RedirectLogin.Proofs.Config
import RedirectLogin.Proofs.Coordinator.Renaming
import RedirectLogin.Proofs.Cli.Arguments
import RedirectLogin.Proofs.Cli.Effects
import RedirectLogin.Proofs.Status
import RedirectLogin.Proofs.Api.Truncation
