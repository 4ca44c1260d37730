/-!
# Identity providers

The three kinds of provider that can vouch for an identity, and the configuration key that holds
each one's role mapping.
-/

namespace FederatedLogin

/-- A provider that can vouch for an identity. -/
inductive Provider where
  | postgres | xsuaa | oidc
  deriving DecidableEq, Repr, Inhabited

namespace Provider

/-- Every provider, in the order in which they are listed. -/
def all : List Provider := [postgres, xsuaa, oidc]

/-- The name of a provider in configuration, assertions and tokens. -/
def name : Provider → String
  | postgres => "postgres"
  | xsuaa => "xsuaa"
  | oidc => "oidc"

/-- The provider with a name. -/
def ofName? (s : String) : Option Provider := all.find? (·.name == s)

/-- The configuration key of the provider's role mapping. -/
def mappingKey : Provider → String
  | postgres => "postgres_auth_role_mapping"
  | xsuaa => "xsuaa_scope_role_mapping"
  | oidc => "oidc_role_mapping"

theorem mem_all (p : Provider) : p ∈ all := by cases p <;> decide

@[simp] theorem ofName?_name (p : Provider) : ofName? p.name = some p := by cases p <;> decide

end Provider

end FederatedLogin
