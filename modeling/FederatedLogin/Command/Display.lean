import FederatedLogin.Command.Printing
import FederatedLogin.Rendered

/-!
# What commands show

Roles and role mappings are shown as tables, the user of a login as labelled lines under a title.
Names and slugs stand in markup as they are.
-/

namespace FederatedLogin.Command

open FederatedLogin.Terminal Printing

/-- What stands for an empty text. -/
def dash : Text := Text.ofString "—"

/-- The text, or a dash if it is empty. -/
def orDash (t : Text) : Text := if t.isEmpty then dash else t

/-- The table of the stored roles; the default role is marked. -/
def rolesTable (roles : List Role) (defaultSlug : String) : Table where
  title := Text.ofString s!"Roles ({roles.length})"
  columns :=
    [{ header := Text.ofString "Slug", keepWhole := true }, { header := Text.ofString "Name" },
      { header := Text.ofString "Default", justify := .centre }]
  rows := roles.map fun r =>
    [Text.ofString r.slug, orDash (Text.ofString r.displayName),
      Text.ofString (if r.slug = defaultSlug then "✓" else "")]

/-- A provider and whether it is switched on, as messages show it. -/
def providerState (s : Settings) (p : Provider) : String :=
  let state := if s.enabled p then "enabled" else "disabled"
  s!"{p.name} ({state})"

/-- The table of a provider's role mapping, in the order of the external roles. -/
def mappingTable (s : Settings) (p : Provider) (m : RoleMapping) : Table where
  title := Text.ofString (providerState s p ++ s!" ({p.mappingKey})")
  columns :=
    [{ header := Text.ofString "External role", keepWhole := true },
      { header := Text.ofString "Local role" }]
  rows := (m.mergeSort fun a b => Text.le a.1 b.1).map fun e => [e.1, orDash e.2]

/-- The value of a field of the answered user; a missing one is null. -/
def fieldOf (u : Datum) (name : String) : Printing Datum :=
  match u with
  | .record _ => return (u.field? name).getD .null
  | d => crash (.noFields d.typeName)

/-- Texts with blanks between them; anything else is refused at its place. -/
def joinedTexts (index : Nat) : List Datum → Except Crash Text
  | [] => .ok []
  | [.text t] => .ok t
  | .text t :: rest => (joinedTexts (index + 1) rest).map (t ++ .char ' ' :: ·)
  | d :: _ => .error (.nameNotText index d.typeName)

/-- A labelled line. -/
def labelled (label : String) (value : Text) : Printing Unit :=
  let padding := String.ofList (List.replicate (10 - label.length) ' ')
  say (print (Text.ofString s!"  [dim]{label}{padding}[/dim] " ++ value))

/-- Show the user of a login. -/
def showUser (u : Datum) : Printing Unit := do
  let email ← fieldOf u "email"
  say (rule (Text.ofString "[bold cyan]User — " ++ email.display))
  let role := (← fieldOf u "role")
  let role := if role.truthy then role else .record []
  let names := [← fieldOf u "first_name", ← fieldOf u "last_name"].filter Datum.truthy
  let name ← of id (joinedTexts 0 names)
  let slug ← fieldOf role "slug"
  labelled "ID" (← fieldOf u "id").display
  labelled "Email" email.display
  labelled "Name" (orDash name)
  labelled "Role" slug.display
  labelled "Provider" (← fieldOf u "auth_provider").display
  labelled "Active" (Text.ofString (if (← fieldOf u "is_active").truthy then "yes" else "no"))

end FederatedLogin.Command
