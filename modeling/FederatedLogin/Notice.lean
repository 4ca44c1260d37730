import FederatedLogin.Log
import FederatedLogin.Provider
import FederatedLogin.RoleMapping
import FederatedLogin.Uuid

/-!
# Notices

The diagnostics of the service, each as what happened; `Notice.entry` words it. A failed login is
explained here and nowhere else: the client only learns that it failed.
-/

namespace FederatedLogin

/-- Something that the service reports. -/
inductive Notice where
  /-- A role mapping text was refused and the empty mapping used instead. -/
  | mappingIgnored (provider configKey : Option String) (refusal : RoleMapping.Refusal)
  | rolesCreated (slugs : List String)
  | provisioningDisabled (email : String) (provider : Provider)
  | defaultRoleMissing (slug email : String)
  /-- Another first login for the same email was stored first. -/
  | raceLost (email : String)
  | userCreated (id : Uuid) (email : String) (provider : Provider)
  | noMappingMatched (email : String) (provider : Provider) (externalRoles : List String)
  | mappedRoleMissing (email : String) (provider : Provider) (slug : String)
  | emailChangeIgnored (id : Uuid) (old new : String)
  | directoryAddressMissing
  | externalLoginFailed (email cause : String)
  | disabledAccount (email : String)
  | starting (debug : Bool)
  | stopped
  | bootstrapSkipped
  | bootstrapCreated (email : String)
  deriving Repr

namespace Notice

/-- The log entry of a notice. -/
def entry : Notice → LogEntry
  | mappingIgnored provider configKey refusal =>
    .event .warning "idbridge.identity.mapping" "Invalid role mapping configuration ignored"
      [("provider", .ofString? provider), ("config_key", .ofString? configKey),
        ("error", .str refusal.message)]
  | rolesCreated slugs =>
    .event .info "idbridge.identity.stores" "Roles created" [("roles", .list (slugs.map .str))]
  | provisioningDisabled email provider =>
    .event .warning "idbridge.identity.reconciler" "JIT provisioning disabled, login rejected"
      [("email", .str email), ("auth_provider", .str provider.name)]
  | defaultRoleMissing slug email =>
    .event .error "idbridge.identity.reconciler" "Default role not found"
      [("role", .str slug), ("email", .str email)]
  | raceLost email =>
    .event .info "idbridge.identity.reconciler" "Lost JIT provisioning race, using existing user"
      [("email", .str email)]
  | userCreated id email provider =>
    .event .info "idbridge.identity.reconciler" "Created new user via JIT provisioning"
      [("user_id", .str id.text), ("email", .str email), ("auth_provider", .str provider.name)]
  | noMappingMatched email provider externalRoles =>
    .event .info "idbridge.identity.reconciler" "No role mapping entry matched"
      [("email", .str email), ("auth_provider", .str provider.name),
        ("external_roles", .list (externalRoles.map .str))]
  | mappedRoleMissing email provider slug =>
    .event .warning "idbridge.identity.reconciler" "Mapped role not found, keeping current role"
      [("email", .str email), ("auth_provider", .str provider.name), ("role", .str slug)]
  | emailChangeIgnored id old new =>
    .event .warning "idbridge.identity.reconciler" "Email change detected but not updating"
      [("user_id", .str id.text), ("old_email", .str old), ("new_email", .str new)]
  | directoryAddressMissing =>
    .event .warning "idbridge.identity.postgres" "Postgres auth enabled but DSN not configured" []
  | externalLoginFailed email cause =>
    .event .error "idbridge.api.routers.auth" "External login failed"
      [("provider", .str "postgres"), ("email", .str email), ("error", .str cause)]
  | disabledAccount email =>
    .event .info "idbridge.api.routers.auth" "Login rejected for disabled account"
      [("email", .str email)]
  | starting debug => .event .info "idbridge.api.app" "Starting idbridge" [("debug", .bool debug)]
  | stopped => .event .info "idbridge.api.app" "idbridge stopped" []
  | bootstrapSkipped =>
    .event .warning "idbridge.api.app" "Bootstrap admin skipped, role 'admin' does not exist" []
  | bootstrapCreated email =>
    .event .info "idbridge.api.app" "Bootstrap admin created"
      [("email", .str email), ("hint", .str "Change the default password immediately!")]

end Notice

end FederatedLogin
