import FederatedLogin.Service.Context

/-!
# What administrators see

The roles of the store, and each provider's role mapping as the next login would read it, with the
slugs that no stored role has.
-/

namespace FederatedLogin.Service.Report

/-- The role mapping of a provider. -/
structure Item where
  provider : Provider
  enabled : Bool
  /-- The text is a mapping. -/
  valid : Bool
  entries : RoleMapping
  /-- Mapped slugs that no stored role has, in order and each once. -/
  unknownRoles : List Text

/-- The slugs of a mapping that no stored role has. -/
def unknownRoles (s : Store) (m : RoleMapping) : List Text :=
  ((m.map (·.2)).filter fun slug => !s.roles.any fun r => Text.ofString r.slug == slug).eraseDups
    |>.mergeSort Text.le

/-- The item of a provider. -/
def item (c : Context) (s : Store) (p : Provider) : Except Unhandled Item :=
  match RoleMapping.load (c.mappings.text p) with
  | .ok m => .ok ⟨p, c.settings.enabled p, true, m, unknownRoles s m⟩
  | .error (.refused _) => .ok ⟨p, c.settings.enabled p, false, [], []⟩
  | .error (.beyond limit) => .error (.mapping limit)

/-- What of an item cannot be written: texts with lone surrogates. -/
def Item.faults (i : Item) : List FieldFault :=
  let bad (t : Text) := t.toString?.isNone
  let name (t : Text) := PathStep.name (Datum.displayString (.text t))
  (i.entries.flatMap fun e =>
    (if bad e.1 then [⟨[.name "entries", name e.1, .name "[key]"], .notUnicode⟩] else []) ++
      if bad e.2 then [⟨[.name "entries", name e.1], .notUnicode⟩] else []) ++
    (i.unknownRoles.zipIdx.filter fun t => bad t.1).map fun t =>
      ⟨[.name "unknown_roles", .index t.2], .notUnicode⟩

/-- An item as an answer shows it. -/
def Item.datum (i : Item) : Datum :=
  .object [("provider", .str i.provider.name), ("config_key", .str i.provider.mappingKey),
    ("enabled", .bool i.enabled), ("valid", .bool i.valid),
    ("entries", .record (i.entries.map fun e => (e.1, .text e.2))),
    ("unknown_roles", .list (i.unknownRoles.map .text))]

/-- The items of some providers; the first one that cannot be shown ends the report. -/
def items (c : Context) (s : Store) : List Provider → Except Unhandled (List Item)
  | [] => .ok []
  | p :: rest => do
    let i ← item c s p
    unless i.faults.isEmpty do .error (.report i.faults)
    return i :: (← items c s rest)

/-- The report on role mappings. -/
def mappings (c : Context) (s : Store) : Except Unhandled Datum := do
  let items ← items c s Provider.all
  return .object [("default_role", .str c.settings.defaultRoleSlug),
    ("jit_provisioning", .bool c.settings.jitProvisioning), ("items", .list (items.map Item.datum))]

/-- The report on roles. -/
def roles (s : Store) : Datum :=
  .list (s.sortedRoles.map fun r =>
    .object [("slug", .str r.slug), ("display_name", .str r.displayName)])

end FederatedLogin.Service.Report
