import FederatedLogin.Json.Reader
import FederatedLogin.Json.Writer
import FederatedLogin.Rendered
import FederatedLogin.Text.Blank
import FederatedLogin.Text.Case
import FederatedLogin.RoleMapping
import FederatedLogin.Provider
import FederatedLogin.Log
import FederatedLogin.Log.Line
import FederatedLogin.Notice
import FederatedLogin.Settings
import FederatedLogin.Settings.Mappings
import FederatedLogin.Assertion
import FederatedLogin.Password
import FederatedLogin.Token
import FederatedLogin.Directory
import FederatedLogin.Reconcile
import FederatedLogin.Runtime
import FederatedLogin.Startup
import FederatedLogin.Database.Schema
import FederatedLogin.Service
import FederatedLogin.Command
import FederatedLogin.Main
import FederatedLogin.Proofs.Login.Failures
import FederatedLogin.Proofs.Login.Soundness
import FederatedLogin.Proofs.Reconcile.LostRace
import FederatedLogin.Proofs.Reconcile.MappingText
import FederatedLogin.Proofs.Reconcile.Repeat
import FederatedLogin.Proofs.Run
import FederatedLogin.Proofs.Run.Identity
import FederatedLogin.Proofs.Reconcile.Failure
import FederatedLogin.Proofs.Reconcile.Independence
import FederatedLogin.Proofs.Crypto.Sha2
import FederatedLogin.Proofs.Text.Utf8
import FederatedLogin.Proofs.Token.Reading
import FederatedLogin.Proofs.Json.RoundTrip
import FederatedLogin.Proofs.Uuid
import FederatedLogin.Proofs.Token.Issued
import FederatedLogin.Proofs.Token.Soundness
import FederatedLogin.Proofs.Access
import FederatedLogin.Proofs.Login.Session
import FederatedLogin.Proofs.Login.Writes
import FederatedLogin.Proofs.Run.Passwordless
import FederatedLogin.Proofs.Token.Unreadable
import FederatedLogin.Proofs.Administration
import FederatedLogin.Proofs.Report
import FederatedLogin.Proofs.Reconcile.Uniqueness
import FederatedLogin.Proofs.Startup.Restart
import FederatedLogin.Proofs.Token.Outcome
import FederatedLogin.Proofs.Runtime
import FederatedLogin.Proofs.Directory.Names
import FederatedLogin.Proofs.Directory.Authentication
import FederatedLogin.Proofs.Reconcile.Creation
import FederatedLogin.Proofs.RoleMapping.Texts
import FederatedLogin.Proofs.Reconcile.Patching
import FederatedLogin.Proofs.Directory.Search
import FederatedLogin.Proofs.Directory.PlainNames
import FederatedLogin.Proofs.Directory.Pools
import FederatedLogin.Proofs.Store.Seeded
import FederatedLogin.Proofs.Password.WellFormed
import FederatedLogin.Proofs.Text.Spacing
import FederatedLogin.Proofs.Reconcile.NameAgreement
import FederatedLogin.Proofs.Startup.FirstLogin
import FederatedLogin.Proofs.Assertion.Key
import FederatedLogin.Proofs.Log.Masking
import FederatedLogin.Proofs.Command.UserDetail
import FederatedLogin.Proofs.Command.MappingReport
