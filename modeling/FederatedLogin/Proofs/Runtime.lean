import FederatedLogin.Proofs.Reconcile.Result
import FederatedLogin.Runtime

/-!
# Kept settings and live mappings

What a running program has read and made is determined by its run: the surroundings are those of
the last edit, the settings are those that were read first, and reconcilers are never lost or
changed. So a reconciliation with a reconciler of the kept settings uses the default role and the
provisioning flag of the first reading, and the mapping text that stands in the surroundings at that
moment under the key of the asserting provider (`reconcile_of_run`). With a reconciler of its own
settings it uses these, whatever is edited later.

The mapping texts of the other providers never count: a reconciliation looks at one of them only
(`reconcile_eq_of_text`).
-/

namespace FederatedLogin

/-! ### One mapping text -/

/-- Mapping texts with another one for a provider. -/
def MappingTexts.withText (m : MappingTexts) (text : String) : Provider → MappingTexts
  | .postgres => { m with postgres := text }
  | .xsuaa => { m with xsuaa := text }
  | .oidc => { m with oidc := text }

theorem MappingTexts.text_withText (m : MappingTexts) (text : String) (p : Provider) :
    (m.withText text p).text p = text := by
  cases p <;> rfl

/-- Of the mapping texts, a reconciliation looks only at that of the asserting provider. -/
theorem Reconcile.reconcile_eq_of_text {p q : Policy} {a : Assertion}
    (role : p.defaultRole = q.defaultRole) (provisioning : p.provisioning = q.provisioning)
    (text : p.mappings.text a.provider = q.mappings.text a.provider) (id : Uuid) (stale : Nat) :
    reconcile p id stale a = reconcile q id stale a := by
  obtain ⟨defaultRole, flag, texts⟩ := p
  obtain ⟨_, _, texts'⟩ := q
  obtain rfl := role
  obtain rfl := provisioning
  have mapped : applyMappedRole ⟨defaultRole, flag, texts⟩ a =
      applyMappedRole ⟨defaultRole, flag, texts'⟩ a := by
    funext u
    simp only [applyMappedRole, text]
  rw [reconcile, reconcile, mapped]
  rfl

namespace Runtime

variable {p : Runtime}

/-! ### A run read off its events -/

/-- The surroundings after an event. -/
def Event.edited (w : Surroundings) : Event → Surroundings
  | .edit w' => w'
  | _ => w

/-- The settings that an event reads, if it needs settings and they can be read. -/
def Event.wanted (w : Surroundings) : Event → Option Settings
  | .readSettings | .makeReconciler none => (Settings.load w []).toOption
  | _ => none

/-- The surroundings after a run: those of the last edit. -/
def surroundingsAfter (w : Surroundings) (events : List Event) : Surroundings :=
  events.foldl Event.edited w

/-- The settings at the first event of a run at which they were needed and could be read. -/
def firstSettings (w : Surroundings) : List Event → Option Settings
  | [] => none
  | e :: rest => (e.wanted w).or (firstSettings (e.edited w) rest)

theorem surroundingsAfter_append (w : Surroundings) (before later : List Event) :
    surroundingsAfter w (before ++ later) = surroundingsAfter (surroundingsAfter w before) later :=
  List.foldl_append

theorem run_append (p : Runtime) (before later : List Event) :
    p.run (before ++ later) = (p.run before).run later :=
  List.foldl_append

/-! ### What a step keeps -/

/-- Settings that have been read are kept, and a failed reading keeps none. -/
theorem readSettings_after (p : Runtime) : p.readSettings.after =
    { p with settings := p.settings.or (Settings.load p.surroundings []).toOption } := by
  obtain ⟨w, settings, reconcilers, store⟩ := p
  rcases settings with _ | s
  · rw [readSettings]
    rcases hload : Settings.load w [] with e | s <;> simp [Except.toOption]
  · rfl

/-- Without settings of its own, a reconciler is made of the settings that are then kept, if there
are any. -/
theorem step_makeReconciler_none (p : Runtime) : p.step (.makeReconciler none) =
    { p.readSettings.after with
      reconcilers := p.reconcilers ++ (p.readSettings.after.settings.map .live).toList } := by
  obtain ⟨w, settings, reconcilers, store⟩ := p
  rcases settings with _ | s
  · rw [step, makeReconciler, readSettings]
    rcases hload : Settings.load w [] with e | s <;> simp [add]
  · rfl

/-- Otherwise the settings could not be read, and that is the result. -/
theorem makeReconciler_of_unread (h : p.readSettings.after.settings = none) :
    ∃ e, Settings.load p.surroundings [] = .error e ∧
      p.makeReconciler none = ⟨.error (.settings e), p, []⟩ := by
  obtain ⟨w, settings, reconcilers, store⟩ := p
  rw [readSettings_after] at h
  rcases settings with _ | s
  · rcases hload : Settings.load w [] with e | s
    · exact ⟨e, rfl, by simp [makeReconciler, readSettings, hload]⟩
    · simp [hload, Except.toOption] at h
  · cases h

/-- Only an edit changes the surroundings. -/
theorem step_surroundings (p : Runtime) (e : Event) :
    (p.step e).surroundings = e.edited p.surroundings := by
  cases e with
  | edit => rfl
  | readSettings =>
    rw [step, readSettings_after]
    rfl
  | makeReconciler own =>
    cases own with
    | none =>
      rw [step_makeReconciler_none, readSettings_after]
      rfl
    | some => rfl
  | reconcile =>
    rw [step]
    split <;> rfl

/-- Settings are read at the first event that wants them, and then kept. -/
theorem step_settings (p : Runtime) (e : Event) :
    (p.step e).settings = p.settings.or (e.wanted p.surroundings) := by
  cases e with
  | edit => exact Option.or_none.symm
  | readSettings =>
    rw [step, readSettings_after]
    rfl
  | makeReconciler own =>
    cases own with
    | none =>
      rw [step_makeReconciler_none, readSettings_after]
      rfl
    | some => exact Option.or_none.symm
  | reconcile =>
    rw [step]
    split <;> exact Option.or_none.symm

/-- No step removes a reconciler or changes one. -/
theorem step_reconcilers (p : Runtime) (e : Event) :
    p.reconcilers <+: (p.step e).reconcilers := by
  cases e with
  | edit => exact List.prefix_rfl
  | readSettings =>
    have same := congrArg Runtime.reconcilers (readSettings_after p)
    exact ⟨[], (List.append_nil _).trans same.symm⟩
  | makeReconciler own =>
    cases own with
    | none =>
      rw [step_makeReconciler_none]
      exact List.prefix_append _ _
    | some => exact List.prefix_append _ _
  | reconcile =>
    rw [step]
    split <;> exact List.prefix_rfl

/-! ### What a run leaves -/

/-- After a run the surroundings are those of its last edit. -/
theorem run_surroundings (p : Runtime) (events : List Event) :
    (p.run events).surroundings = surroundingsAfter p.surroundings events := by
  induction events generalizing p with
  | nil => rfl
  | cons e rest ih => exact (ih (p.step e)).trans (by rw [step_surroundings]; rfl)

/-- Settings that have been read are kept; else they are the first ones that the run reads. -/
theorem run_settings (p : Runtime) (events : List Event) :
    (p.run events).settings = p.settings.or (firstSettings p.surroundings events) := by
  induction events generalizing p with
  | nil => exact Option.or_none.symm
  | cons e rest ih =>
    refine (ih (p.step e)).trans ?_
    rw [step_settings, step_surroundings, Option.or_assoc, firstSettings]

/-- No run removes a reconciler or changes one. -/
theorem run_reconcilers (p : Runtime) (events : List Event) :
    p.reconcilers <+: (p.run events).reconcilers := by
  induction events generalizing p with
  | nil => exact List.prefix_rfl
  | cons e rest ih => exact (step_reconcilers p e).trans (ih (p.step e))

/-- A reconciler stays under its number. -/
theorem getElem?_reconcilers (p : Runtime) {r : Reconciler} (e : Event)
    (made : (p.step e).reconcilers = p.reconcilers ++ [r]) (later : List Event) :
    (p.run (e :: later)).reconcilers[p.reconcilers.length]? = some r := by
  have kept := run_reconcilers (p.step e) later
  rw [made] at kept
  obtain ⟨more, hmore⟩ := kept
  rw [run, List.foldl_cons, ← run, ← hmore, List.append_assoc,
    List.getElem?_append_right (Nat.le_refl _), Nat.sub_self]
  rfl

/-! ### What a reconciliation uses -/

/-- The program at its start. -/
def starting (w : Surroundings) (store : Option Store) : Runtime :=
  { surroundings := w, store := store }

/-- The reconciler of a number works under this default role, this provisioning flag and the mapping
text that is given for the asserting provider; the mapping texts of the others may be any. -/
def Uses (p : Runtime) (index : Nat) (role : String) (provisioning : Bool)
    (text : Provider → String) : Prop :=
  ∃ r, p.reconcilers[index]? = some r ∧ ∀ id stale a (others : MappingTexts),
    p.reconcileWith r id stale a = p.reconcileUnder
      ⟨role, provisioning, others.withText (text a.provider) a.provider⟩ id stale a

/-- A reconciler works under the mapping texts that it gives. -/
theorem uses_of_getElem? {index : Nat} {r : Reconciler} {text : Provider → String}
    (made : p.reconcilers[index]? = some r)
    (texts : ∀ q, (r.mappings.texts p.surroundings).text q = text q) :
    p.Uses index r.defaultRole r.provisioning text := by
  refine ⟨r, made, fun id stale a others => ?_⟩
  have hpolicy := Reconcile.reconcile_eq_of_text (p := r.policy p.surroundings)
    (q := ⟨r.defaultRole, r.provisioning, others.withText (text a.provider) a.provider⟩)
    rfl rfl ((texts a.provider).trans (others.text_withText _ _).symm) id stale
  rw [reconcileWith, reconcileUnder, reconcileUnder, hpolicy]

/-- What a reconciliation uses is known from the run. With a reconciler of the kept settings it is
the default role and the provisioning flag of the settings that were read first, and the mapping
text that the surroundings of the last edit hold under the key of the asserting provider. With a
reconciler of settings of its own it is what they say. While the settings cannot be read, no
reconciler of kept settings is made. -/
theorem reconcile_of_run (w : Surroundings) (store : Option Store) (before later : List Event) :
    let made := (starting w store).run before
    (∀ s, firstSettings w (before ++ [.makeReconciler none]) = some s →
        (made.run (.makeReconciler none :: later)).Uses made.reconcilers.length
          s.defaultRoleSlug s.jitProvisioning
          (Settings.textNow (surroundingsAfter w (before ++ later)))) ∧
      (firstSettings w (before ++ [.makeReconciler none]) = none →
        ∃ e, Settings.load (surroundingsAfter w before) [] = .error e ∧
          made.makeReconciler none = ⟨.error (.settings e), made, []⟩) ∧
      ∀ own, (made.run (.makeReconciler (some own) :: later)).Uses made.reconcilers.length
        own.defaultRoleSlug own.jitProvisioning own.mappings.text := by
  intro made
  have hsettings : made.readSettings.after.settings =
      firstSettings w (before ++ [.makeReconciler none]) := by
    have hrun := run_settings (starting w store) (before ++ [.makeReconciler none])
    rw [run_append] at hrun
    exact (congrArg Runtime.settings (step_makeReconciler_none made)).symm.trans
      (hrun.trans Option.none_or)
  -- Making a reconciler edits nothing, so the last edit is one of `before` or of `later`.
  have hbefore : made.surroundings = surroundingsAfter w before := run_surroundings _ before
  have hsurroundings (own : Option Settings) :
      (made.run (.makeReconciler own :: later)).surroundings =
        surroundingsAfter w (before ++ later) := by
    rw [run_surroundings, surroundingsAfter_append, ← hbefore]
    rfl
  refine ⟨fun s hfirst => ?_, fun hfirst => ?_, fun own => ?_⟩
  · have hmade :
        (made.step (.makeReconciler none)).reconcilers = made.reconcilers ++ [.live s] := by
      rw [step_makeReconciler_none, hsettings, hfirst]
      rfl
    refine uses_of_getElem? (getElem?_reconcilers made _ hmade later) fun q => ?_
    rw [← hsurroundings none]
    exact Settings.mappingsNow_text _ q
  · rw [← hbefore]
    exact makeReconciler_of_unread (hsettings.trans hfirst)
  · have hmade : (made.step (.makeReconciler (some own))).reconcilers =
        made.reconcilers ++ [.pinned own] := rfl
    exact uses_of_getElem? (getElem?_reconcilers made _ hmade later) fun q => rfl

/-! ### An edit between two logins -/

/-- Surroundings without mapping texts. -/
def unmapped : Surroundings := ⟨[("APP_DEBUG", "true")], none⟩

/-- Surroundings that name another default role and a mapping for one provider. The mapping text of
another provider is no JSON. -/
def staffed : Surroundings where
  env := [("Default_Role_Slug", "admin")]
  envFile :=
    some "OIDC_ROLE_MAPPING='\x7b\"staff\": \"admin\"\x7d'\nXSUAA_SCOPE_ROLE_MAPPING=\x7b\n"

/-- A reconciler is made of these settings, and then the surroundings are edited. -/
def edited (own : Option Settings) : Runtime :=
  (starting unmapped (some Reconcile.office)).run [.makeReconciler own, .edit staffed]

/-- Somebody logs in after the edit. New users still get the default role that was read before, but
this one is given the role of the new mapping. A reconciler of settings of its own does not see the
new mapping either. -/
theorem reconcile_of_run_staffed :
    Settings.textNow staffed .oidc = "\x7b\"staff\": \"admin\"\x7d" ∧
      (edited none).Uses 0 "member" true (Settings.textNow staffed) ∧
      (∃ r, (edited none).reconcilers[0]? = some r ∧
        ((edited none).reconcileWith r ⟨2⟩ 0 Reconcile.grace).result.toOption.map (·.role) =
          some "admin") ∧
      (edited (some {})).Uses 0 "member" true ({} : Settings).mappings.text ∧
      ∃ r, (edited (some {})).reconcilers[0]? = some r ∧
        ((edited (some {})).reconcileWith r ⟨2⟩ 0 Reconcile.grace).result.toOption.map (·.role) =
          some "member" := by
  obtain ⟨kept, -, pinned⟩ := reconcile_of_run unmapped (some Reconcile.office) [] [.edit staffed]
  have hfirst : (firstSettings unmapped [.makeReconciler none]).map
      (fun s => (s.defaultRoleSlug, s.jitProvisioning)) = some ("member", true) := by decide +kernel
  obtain ⟨s, hs, hvalues⟩ := Option.map_eq_some_iff.mp hfirst
  obtain ⟨hrole, hflag⟩ := Prod.mk.inj hvalues
  have hlive : (edited none).Uses 0 "member" true (Settings.textNow staffed) := by
    rw [← hrole, ← hflag]
    exact kept s hs
  have hown : (edited (some {})).Uses 0 "member" true ({} : Settings).mappings.text := pinned {}
  refine ⟨by decide +kernel, hlive, ?_, hown, ?_⟩
  · obtain ⟨r, hr, huse⟩ := hlive
    refine ⟨r, hr, ?_⟩
    rw [huse ⟨2⟩ 0 Reconcile.grace {}]
    decide +kernel
  · obtain ⟨r, hr, huse⟩ := hown
    refine ⟨r, hr, ?_⟩
    rw [huse ⟨2⟩ 0 Reconcile.grace {}]
    decide +kernel

end Runtime

end FederatedLogin
