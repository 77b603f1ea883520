import GatewaySession.Rehearsal.Steps
import GatewaySession.Proofs.Dispatch.Resolution
import GatewaySession.Proofs.Json.Object
import GatewaySession.Proofs.Sealing.Envelope
import GatewaySession.Proofs.Text.Base64
import GatewaySession.Proofs.Timestamp.Text
import GatewaySession.Proofs.Credential.Record
import GatewaySession.Proofs.Storage.Working
import GatewaySession.Proofs.Vault.Refinement
import GatewaySession.Proofs.Program.Watch
import GatewaySession.Proofs.Exchange.Bounds
import GatewaySession.Proofs.Engine.ClientChange
import GatewaySession.Proofs.Credential.Acceptance
import GatewaySession.Proofs.Exchange.Between
import GatewaySession.Proofs.Engine.SingleUse
import GatewaySession.Proofs.Engine.IdentityToken
import GatewaySession.Proofs.Storage.Content
import GatewaySession.Proofs.Vault.Finding
import GatewaySession.Proofs.Engine.Corruption
import GatewaySession.Proofs.Exchange.Escape
import GatewaySession.Proofs.Session.Registry
import GatewaySession.Proofs.Exchange.Freshness
import GatewaySession.Proofs.Storage.Interchange
import GatewaySession.Proofs.Dispatch.Marks
import GatewaySession.Proofs.Dispatch.Parking
import GatewaySession.Proofs.Exchange.Discretion
import GatewaySession.Proofs.Session.Impersonal
import GatewaySession.Proofs.Vault.Isolation
import GatewaySession.Proofs.Session.Unkeyed
import GatewaySession.Proofs.Exchange.GrantChain
import GatewaySession.Proofs.Dispatch.Office
import GatewaySession.Proofs.Credential.Signing
import GatewaySession.Proofs.Gateway.Form
import GatewaySession.Proofs.Session.Course
import GatewaySession.Proofs.Vault.Tidying
import GatewaySession.Proofs.Session.Caching
import GatewaySession.Proofs.Engine.Ending
import GatewaySession.Proofs.Engine.Forgetting
import GatewaySession.Proofs.Gateway.Settings
import GatewaySession.Proofs.Dispatch.Workers
import GatewaySession.Proofs.Exchange.Login
import GatewaySession.Proofs.Vault.Depot
import GatewaySession.Proofs.Engine.Retrying
import GatewaySession.Proofs.Exchange.Decoration
import GatewaySession.Proofs.Engine.Forms
