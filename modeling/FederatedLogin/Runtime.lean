import FederatedLogin.Reconcile
import FederatedLogin.Settings.Mappings

/-!
# A running program

The settings are read when they are first needed, and then kept, while the environment and its file
may go on changing. A reconciler that is made without settings of its own takes the default role and
whether users are created from the kept settings, but looks up the mapping texts each time that it
is used. One that is made with settings of its own takes everything from them.
-/

namespace FederatedLogin

/-! ### Reconcilers -/

/-- Where a reconciler finds the mapping texts. -/
inductive MappingSource where
  /-- In the surroundings, each time anew. -/
  | surroundings
  | pinned (texts : MappingTexts)
  deriving DecidableEq, Repr, Inhabited

/-- The mapping texts that are found in a source now. -/
def MappingSource.texts (w : Surroundings) : MappingSource → MappingTexts
  | surroundings => Settings.mappingsNow w
  | pinned texts => texts

/-- What is fixed about reconciliations when a reconciler is made. -/
structure Reconciler where
  defaultRole : String
  provisioning : Bool
  mappings : MappingSource
  deriving DecidableEq, Repr, Inhabited

namespace Reconciler

/-- The reconciler of kept settings. -/
def live (s : Settings) : Reconciler := ⟨s.defaultRoleSlug, s.jitProvisioning, .surroundings⟩

/-- The reconciler of settings of its own. -/
def pinned (s : Settings) : Reconciler := ⟨s.defaultRoleSlug, s.jitProvisioning, .pinned s.mappings⟩

/-- What a reconciliation depends on in these surroundings. -/
def policy (r : Reconciler) (w : Surroundings) : Policy :=
  ⟨r.defaultRole, r.provisioning, r.mappings.texts w⟩

end Reconciler

/-! ### Reading, making and using -/

/-- What a running program has read and made. -/
structure Runtime where
  /-- The environment and its file, as they are now. -/
  surroundings : Surroundings
  /-- The settings, once they have been read. -/
  settings : Option Settings := none
  /-- The reconcilers, in the order in which they were made. -/
  reconcilers : List Reconciler := []
  /-- The store, unless its tables are missing. -/
  store : Option Store

namespace Runtime

/-- Why an event ends early. -/
inductive Failure where
  | settings (e : Settings.LoadError)
  | reconcile (f : Reconcile.Failure)
  deriving DecidableEq, Repr

/-- How something ends: the result, the program afterwards, and what was logged. -/
structure Outcome (α : Type) where
  result : Except Failure α
  after : Runtime
  log : List LogEntry := []

/-- The settings: those that are kept, or else those of the surroundings, which are kept from now
on. Settings that cannot be read are not kept. -/
def readSettings (p : Runtime) : Outcome Settings :=
  match p.settings with
  | some s => ⟨.ok s, p, []⟩
  | none =>
    match Settings.load p.surroundings [] with
    | .ok s => ⟨.ok s, { p with settings := some s }, s.warnings⟩
    | .error e => ⟨.error (.settings e), p, []⟩

/-- Add a reconciler. -/
def add (p : Runtime) (r : Reconciler) : Runtime := { p with reconcilers := p.reconcilers ++ [r] }

/-- Make a reconciler with settings of its own, or with the kept ones. -/
def makeReconciler (p : Runtime) : Option Settings → Outcome Unit
  | some own => ⟨.ok (), p.add (.pinned own), []⟩
  | none =>
    match p.readSettings with
    | ⟨.ok s, q, log⟩ => ⟨.ok (), q.add (.live s), log⟩
    | ⟨.error e, q, log⟩ => ⟨.error e, q, log⟩

/-- Bring a user up to date under a policy. -/
def reconcileUnder (p : Runtime) (policy : Policy) (id : Uuid) (stale : Nat) (a : Assertion) :
    Outcome User :=
  let (r, store, notices) := (reconcile policy id stale a).startOn (.store .noTables) p.store
  ⟨r.mapError .reconcile, { p with store := store }, notices.map Notice.entry⟩

/-- Bring a user up to date with a reconciler. -/
def reconcileWith (p : Runtime) (r : Reconciler) (id : Uuid) (stale : Nat) (a : Assertion) :
    Outcome User :=
  p.reconcileUnder (r.policy p.surroundings) id stale a

/-! ### Events -/

/-- What can happen to a running program. -/
inductive Event where
  /-- The environment or its file are changed. -/
  | edit (w : Surroundings)
  | readSettings
  | makeReconciler (own : Option Settings)
  /-- A reconciliation with the reconciler of this number, if it has been made. -/
  | reconcile (index : Nat) (id : Uuid) (stale : Nat) (a : Assertion)

/-- The program after an event. -/
def step (p : Runtime) : Event → Runtime
  | .edit w => { p with surroundings := w }
  | .readSettings => p.readSettings.after
  | .makeReconciler own => (p.makeReconciler own).after
  | .reconcile index id stale a =>
    match p.reconcilers[index]? with
    | some r => (p.reconcileWith r id stale a).after
    | none => p

/-- The program after a run. -/
def run (p : Runtime) (events : List Event) : Runtime := events.foldl step p

end Runtime

end FederatedLogin
