import FederatedLogin.Proofs.Reconcile.Result
import FederatedLogin.Proofs.Store.Entry

/-!
# Logins of different people

All that a reconciliation reads of a store are its roles and the user that the asserted email finds
(`SameView`). All that it writes is one row that belongs to the assertion (`Belongs`): nobody else
finds it, and it replaces nobody else's row. `Enters` says both at once, and of every store with the
same view, whatever identifier a new user gets there.

So two reconciliations for different emails do not notice each other (`Enters.inTurn_eq`), and they
can be done in either order (`reconcile_comm`).
-/

namespace FederatedLogin.Reconcile

open Store (Consistent answers relabel)

variable {p : Policy} {id : Uuid} {stale : Nat} {a b : Assertion} {s s' t : Store} {u v : User}
  {r : Except Failure User} {ns : List Notice} {role : Role} {ρ : Uuid → Uuid}

/-! ### What is read and what is written -/

/-- Two stores are the same for the reconciliation of an assertion. -/
structure SameView (a : Assertion) (s t : Store) : Prop where
  roles : t.roles = s.roles
  found : t.users.find? (answers a.normalizedEmail) = s.users.find? (answers a.normalizedEmail)

/-- A row that can be written for an assertion: it answers to the asserted email, and its identifier
is the new one or that of a user who answers to the email already. -/
structure Belongs (id : Uuid) (a : Assertion) (s : Store) (v : User) : Prop where
  answered : answers a.normalizedEmail v = true
  origin : v.id = id ∨ ∃ u ∈ s.users, answers a.normalizedEmail u = true ∧ u.id = v.id

theorem SameView.seen_eq (view : SameView a s t) (stale : Nat) :
    seen stale a t = seen stale a s := by
  rw [seen, seen, view.found]

/-- Nobody answers to two emails. -/
theorem answers_eq_false (apart : a.normalizedEmail ≠ b.normalizedEmail)
    (hv : answers a.normalizedEmail v = true) : answers b.normalizedEmail v = false := by
  rw [← Bool.not_eq_true]
  intro hb
  have hemails := (Store.answers_iff.mp hv).symm.trans (Store.answers_iff.mp hb)
  rw [lower_normalizedEmail, lower_normalizedEmail] at hemails
  exact apart hemails

/-- A new user is in conflict with the users of the same identifier or email. -/
theorem clashes_newUser :
    Store.clashes (newUser id role a) v = true ↔
      id = v.id ∨ answers a.normalizedEmail v = true := by
  have hemail : Text.asciiLower a.normalizedEmail = Text.lower a.normalizedEmail :=
    (Text.asciiLower_lower a.email).trans (Text.lower_lower a.email).symm
  rw [Store.clashes_iff, Store.answers_iff, ← hemail]
  exact or_congr_right eq_comm

/-- A new user can be stored exactly if nobody answers to the asserted email. -/
theorem insert_newUser_eq_ok_iff (fresh : s.Fresh id) (held : role ∈ s.roles) :
    s.insert (newUser id role a) = .ok s' ↔
      s.users.find? (answers a.normalizedEmail) = none ∧ s' = s.put (newUser id role a) := by
  have hput : s.put (newUser id role a) = { s with users := s.users ++ [newUser id role a] } :=
    Store.put_of_fresh fresh
  have hheld : s.holdsRole (newUser id role a) = true := Store.holdsRole_iff.mpr ⟨role, held, rfl⟩
  rw [Store.insert_eq_ok_iff, hput, List.find?_eq_none]
  constructor
  · rintro ⟨-, hfree, rfl⟩
    refine ⟨fun v hv hanswers => ?_, rfl⟩
    have hclash : Store.clashes (newUser id role a) v = true := clashes_newUser.mpr (.inr hanswers)
    exact Bool.false_ne_true ((hfree v hv).symm.trans hclash)
  · rintro ⟨hnobody, rfl⟩
    refine ⟨hheld, fun v hv => ?_, rfl⟩
    rw [← Bool.not_eq_true, clashes_newUser]
    rintro (hid | hanswers)
    · exact fresh v hv hid.symm
    · exact hnobody v hv hanswers

/-- The stores refuse a new user alike. -/
theorem insert_newUser_eq_conflict_of_view (fresh : s.Fresh id) (fresh' : t.Fresh (ρ id))
    (view : SameView a s t) (held : role ∈ s.roles)
    (refused : s.insert (newUser id role a) = .error .conflict) :
    t.insert (newUser (ρ id) role a) = .error .conflict := by
  rcases hinsert : t.insert (newUser (ρ id) role a) with fault | t'
  · rw [Store.eq_conflict_of_insert hinsert]
  · obtain ⟨hnobody, -⟩ := (insert_newUser_eq_ok_iff fresh' (view.roles ▸ held)).mp hinsert
    rw [view.found] at hnobody
    rw [(insert_newUser_eq_ok_iff fresh held).mpr ⟨hnobody, rfl⟩] at refused
    exact absurd refused nofun

/-! ### One reconciliation in two stores -/

/-- A known user is entered under the asserted names. -/
theorem put_refreshed (found : seen stale a s = some v) :
    s.put (refreshed v a) = s.replace (refreshed v a) :=
  Store.put_of_mem (seen_eq_some found).1 rfl

theorem belongs_refreshed (found : seen stale a s = some v) : Belongs id a s (refreshed v a) :=
  ⟨(seen_eq_some found).2, .inr ⟨v, (seen_eq_some found).1, (seen_eq_some found).2, rfl⟩⟩

theorem relabel_refreshed (fixed : ∀ v ∈ s.users, ρ v.id = v.id) (found : seen stale a s = some v) :
    relabel ρ (refreshed v a) = refreshed v a :=
  Store.relabel_eq_self (fixed v (seen_eq_some found).1)

/-- What the first stage comes to, in the store and in every other one with the same view. -/
theorem Account.exists_row (fresh : s.Fresh id) (ha : Account p id stale a s r s' ns) :
    (∃ f, r = .error f ∧ s' = s ∧ ∀ (ρ : Uuid → Uuid) (t : Store), t.Fresh (ρ id) → SameView a s t →
        ∃ ns', Account p (ρ id) stale a t (.error f) t ns') ∨
      ∃ u, r = .ok u ∧ s' = s.put u ∧ Belongs id a s u ∧ ∀ (ρ : Uuid → Uuid) (t : Store),
        (∀ v ∈ s.users, ρ v.id = v.id) → t.Fresh (ρ id) → SameView a s t →
          ∃ ns', Account p (ρ id) stale a t (.ok (relabel ρ u)) (t.put (relabel ρ u)) ns' := by
  cases ha with
  | @known v found =>
    refine .inr ⟨_, rfl, (put_refreshed found).symm, belongs_refreshed found, ?_⟩
    intro ρ t fixed _ view
    have found' : seen stale a t = some v := (view.seen_eq stale).trans found
    rw [relabel_refreshed fixed found, put_refreshed found']
    exact ⟨_, .known found'⟩
  | disabled unseen off =>
    refine .inl ⟨_, rfl, rfl, fun ρ t _ view => ⟨_, .disabled ?_ off⟩⟩
    rwa [view.seen_eq]
  | noDefaultRole unseen on missing =>
    refine .inl ⟨_, rfl, rfl, fun ρ t _ view => ⟨_, .noDefaultRole ?_ on ?_⟩⟩
    · rwa [view.seen_eq]
    · rwa [view.roles]
  | @created role _ unseen on default inserted =>
    have held := List.mem_of_find?_eq_some default
    obtain ⟨hnobody, rfl⟩ := (insert_newUser_eq_ok_iff fresh held).mp inserted
    refine .inr ⟨_, rfl, rfl, ⟨answers_newUser id role a, .inl rfl⟩, fun ρ t _ fresh' view => ?_⟩
    refine ⟨_, .created ?_ on (view.roles ▸ default) ?_⟩
    · rwa [view.seen_eq]
    · refine (insert_newUser_eq_ok_iff fresh' (view.roles ▸ held)).mpr ⟨?_, rfl⟩
      rwa [view.found]
  | @raced role v unseen on default refused found =>
    refine .inr ⟨_, rfl, (put_refreshed found).symm, belongs_refreshed found, ?_⟩
    intro ρ t fixed fresh' view
    have held := List.mem_of_find?_eq_some default
    have found' : seen (stale - 1) a t = some v := (view.seen_eq _).trans found
    rw [relabel_refreshed fixed found, put_refreshed found']
    refine ⟨_, .raced ?_ on (view.roles ▸ default) ?_ found'⟩
    · rwa [view.seen_eq]
    · exact insert_newUser_eq_conflict_of_view fresh fresh' view held refused
  | @lost role unseen on default refused unseenAgain =>
    refine .inl ⟨_, rfl, rfl, fun ρ t fresh' view => ?_⟩
    have held := List.mem_of_find?_eq_some default
    refine ⟨_, .lost ?_ on (view.roles ▸ default) ?_ ?_⟩
    · rwa [view.seen_eq]
    · exact insert_newUser_eq_conflict_of_view fresh fresh' view held refused
    · rwa [view.seen_eq]

/-- A second stage that leaves the user as stored enters the user as stored, in every store. -/
theorem exists_row_of_kept (h : s.Consistent) (hu : u ∈ s.users)
    (elsewhere : ∀ (ρ : Uuid → Uuid) (t : Store), t.roles = s.roles →
      ∃ ns', RoleStep p a t (relabel ρ u) (r.map (relabel ρ)) t ns') :
    ∃ v, s = s.put v ∧ v.id = u.id ∧ v.email = u.email ∧ ∀ (ρ : Uuid → Uuid) (t : Store),
      t.Consistent → relabel ρ u ∈ t.users → t.roles = s.roles →
        ∃ ns', RoleStep p a t (relabel ρ u) (r.map (relabel ρ)) (t.put (relabel ρ v)) ns' := by
  refine ⟨u, (h.put_self hu).symm, rfl, rfl, fun ρ t h' hu' roles => ?_⟩
  rw [h'.put_self hu']
  exact elsewhere ρ t roles

/-- What the second stage comes to, in the store and in every other one with the same roles. -/
theorem RoleStep.exists_row (h : s.Consistent) (hu : u ∈ s.users) (hr : RoleStep p a s u r s' ns) :
    ∃ v, s' = s.put v ∧ v.id = u.id ∧ v.email = u.email ∧ ∀ (ρ : Uuid → Uuid) (t : Store),
      t.Consistent → relabel ρ u ∈ t.users → t.roles = s.roles →
        ∃ ns', RoleStep p a t (relabel ρ u) (r.map (relabel ρ)) (t.put (relabel ρ v)) ns' := by
  cases hr with
  | noRoles unasserted =>
    exact exists_row_of_kept h hu fun ρ t _ => ⟨_, .noRoles unasserted⟩
  | beyond asserted text =>
    exact exists_row_of_kept h hu fun ρ t _ => ⟨_, .beyond asserted text⟩
  | noMapping asserted text =>
    exact exists_row_of_kept h hu fun ρ t _ => ⟨_, .noMapping asserted text⟩
  | noMatch mapped =>
    exact exists_row_of_kept h hu fun ρ t _ => ⟨_, .noMatch mapped⟩
  | notText mapped surrogate =>
    exact exists_row_of_kept h hu fun ρ t _ => ⟨_, .notText mapped surrogate⟩
  | roleMissing mapped isText missing =>
    exact exists_row_of_kept h hu fun ρ t roles =>
      ⟨_, .roleMissing mapped isText (roles ▸ missing)⟩
  | @assigned _ role mapped isText found =>
    have hput : s.put (withRole u role.slug) = s.replace (withRole u role.slug) :=
      Store.put_of_mem hu rfl
    refine ⟨withRole u role.slug, hput.symm, rfl, rfl, fun ρ t _ hu' roles => ?_⟩
    have hput' : t.put (relabel ρ (withRole u role.slug)) =
        t.replace (withRole (relabel ρ u) role.slug) :=
      Store.put_of_mem (u := relabel ρ (withRole u role.slug)) hu' rfl
    rw [hput']
    exact ⟨_, .assigned mapped isText (roles ▸ found)⟩

/-! ### Both stages in two stores -/

/-- What a reconciliation in a store comes to: it enters at most one row, which belongs to the
assertion. In every other store with the same view, it comes to the same under other identifiers. -/
structure Enters (p : Policy) (id : Uuid) (stale : Nat) (a : Assertion) (s : Store)
    (r : Except Failure User) (row : Option User) : Prop where
  belongs : ∀ v ∈ row, Belongs id a s v
  elsewhere : ∀ (ρ : Uuid → Uuid) (t : Store), t.Consistent → (∀ v ∈ s.users, ρ v.id = v.id) →
    t.Fresh (ρ id) → SameView a s t →
      ∃ ns, Reconciled p (ρ id) stale a t (r.map (relabel ρ)) (t.enter (row.map (relabel ρ))) ns

variable {i j i' j' : Uuid} {m n : Nat} {ra rb : Except Failure User} {row row' : Option User}

theorem exists_enters (h : s.Consistent) (fresh : s.Fresh id) (p : Policy) (stale : Nat)
    (a : Assertion) : ∃ r row, Enters p id stale a s r row := by
  obtain ⟨r₁, s₁, ns₁, account⟩ := exists_account p id stale a s
  rcases account.exists_row fresh with
    ⟨f, rfl, rfl, helsewhere⟩ | ⟨u, rfl, rfl, hbelongs, helsewhere⟩
  · refine ⟨.error f, none, nofun, fun ρ t _ _ fresh' view => ?_⟩
    obtain ⟨ns, account'⟩ := helsewhere ρ t fresh' view
    exact ⟨ns, .noAccount account'⟩
  -- The role is given to the row that the first stage has entered, so there is still one entry.
  · have h₁ := h.writes (account.writes h)
    obtain ⟨r, s₂, ns₂, roleStep⟩ := exists_roleStep p a (s.put u) u
    obtain ⟨v, -, hid, hemail, hrole⟩ := roleStep.exists_row h₁ (Store.self_mem_put s u)
    have hanswered : answers a.normalizedEmail v = true := by
      rw [answers, hemail]
      exact hbelongs.answered
    refine ⟨r, some v, ?_, fun ρ t h' fixed fresh' view => ?_⟩
    · rintro w ⟨⟩
      exact ⟨hanswered, hid ▸ hbelongs.origin⟩
    · obtain ⟨ns₁, account'⟩ := helsewhere ρ t fixed fresh' view
      have hroles : (t.put (relabel ρ u)).roles = (s.put u).roles := by
        rw [Store.put_roles, Store.put_roles, view.roles]
      obtain ⟨ns₂, roleStep'⟩ := hrole ρ (t.put (relabel ρ u)) (h'.writes (account'.writes h'))
        (Store.self_mem_put t _) hroles
      rw [Store.put_put (congrArg ρ hid)] at roleStep'
      exact ⟨_, .account account' roleStep'⟩

/-! ### One after the other -/

/-- The row still belongs to the assertion under other identifiers. -/
theorem Belongs.relabel (hv : Belongs id a s v) (fixed : ∀ u ∈ s.users, ρ u.id = u.id) :
    Belongs (ρ id) a s (relabel ρ v) := by
  refine ⟨hv.answered, ?_⟩
  rcases hv.origin with hid | ⟨u, hu, hanswers, hid⟩
  · exact .inl (congrArg ρ hid)
  · exact .inr ⟨u, hu, hanswers, (fixed u hu).symm.trans (congrArg ρ hid)⟩

/-- The row of another assertion replaces nobody who answers to the email. -/
theorem Belongs.answers_eq_false (h : s.Consistent) (fresh : s.Fresh id)
    (apart : a.normalizedEmail ≠ b.normalizedEmail) (hv : Belongs id a s v) (hu : u ∈ s.users)
    (hid : u.id = v.id) : answers b.normalizedEmail u = false := by
  rcases hv.origin with hnew | ⟨w, hw, hanswers, hwv⟩
  · exact absurd (hid.trans hnew) (fresh u hu)
  · obtain rfl : u = w := h.eq_of_id_eq hu hw (hid.trans hwv.symm)
    exact Reconcile.answers_eq_false apart hanswers

/-- The rows of different assertions have different identifiers. -/
theorem Belongs.id_ne (h : s.Consistent) (hi : s.Fresh i) (hj : s.Fresh j) (hne : i ≠ j)
    (apart : a.normalizedEmail ≠ b.normalizedEmail) (hu : Belongs i a s u) (hv : Belongs j b s v) :
    u.id ≠ v.id := by
  intro hid
  rcases hv.origin with hvj | ⟨w, hw, hanswers, hwv⟩
  · rcases hu.origin with hui | ⟨x, hx, -, hxu⟩
    · exact hne (hui.symm.trans (hid.trans hvj))
    · exact hj x hx (hxu.trans (hid.trans hvj))
  · have hother := hu.answers_eq_false h hi apart hw (hwv.trans hid.symm)
    exact Bool.false_ne_true (hother.symm.trans hanswers)

/-- The view of an assertion is the same after an entry for another one. -/
theorem sameView_enter (h : s.Consistent) (fresh : s.Fresh id)
    (apart : a.normalizedEmail ≠ b.normalizedEmail) (hrow : ∀ v ∈ row, Belongs id a s v) :
    SameView b s (s.enter row) := by
  refine ⟨Store.enter_roles s row, Store.find?_enter ?_ ?_⟩
  · intro v hv
    exact answers_eq_false apart (hrow v hv).answered
  · intro v hv u hu hid
    exact (hrow v hv).answers_eq_false h fresh apart hu hid

/-- An identifier stays fresh when another new one is used. -/
theorem fresh_enter (hj : s.Fresh j) (hne : i ≠ j) (hrow : ∀ v ∈ row, Belongs i a s v) :
    (s.enter row).Fresh j := by
  refine hj.enter fun v hv hid => ?_
  rcases (hrow v hv).origin with hnew | ⟨u, hu, -, huv⟩
  · exact hne (hnew.symm.trans hid)
  · exact hj u hu (huv.trans hid)

/-- What two reconciliations come to, one after the other: what each of them gives back, and the
store in the end. -/
def inTurn (p : Policy) (i : Uuid) (m : Nat) (a : Assertion) (j : Uuid) (n : Nat) (b : Assertion)
    (s : Store) : Except Failure User × Except Failure User × Store :=
  let (ra, q) := (reconcile p i m a).start s
  let (rb, q) := (reconcile p j n b).start q.store
  (ra, rb, q.store)

/-- A renaming keeps the identifiers of a store, and takes two new ones to two new ones. -/
structure Renames (ρ : Uuid → Uuid) (s : Store) (i j : Uuid) : Prop where
  fixed : ∀ u ∈ s.users, ρ u.id = u.id
  left : s.Fresh (ρ i)
  right : s.Fresh (ρ j)
  ne : ρ i ≠ ρ j

theorem Renames.symm (hρ : Renames ρ s i j) : Renames ρ s j i :=
  ⟨hρ.fixed, hρ.right, hρ.left, Ne.symm hρ.ne⟩

/-- Two new identifiers can be exchanged for any two others. -/
theorem exists_renames (hi : s.Fresh i) (hj : s.Fresh j) (hne : i ≠ j) (hi' : s.Fresh i')
    (hj' : s.Fresh j') (hne' : i' ≠ j') : ∃ ρ, Renames ρ s i j ∧ ρ i = i' ∧ ρ j = j' := by
  let ρ : Uuid → Uuid := fun x => if x = i then i' else if x = j then j' else x
  have hρi : ρ i = i' := if_pos rfl
  have hρj : ρ j = j' := (if_neg (Ne.symm hne)).trans (if_pos rfl)
  refine ⟨ρ, ⟨fun u hu => ?_, hρi ▸ hi', hρj ▸ hj', ?_⟩, hρi, hρj⟩
  · simp only [ρ, if_neg (hi u hu), if_neg (hj u hu)]
  · rw [hρi, hρj]
    exact hne'

/-- A renaming confuses the identifier of a written row with no stored one. -/
theorem Renames.id_eq (hρ : Renames ρ s i j) (hv : Belongs i a s v) (hu : u ∈ s.users)
    (hid : ρ u.id = ρ v.id) : u.id = v.id := by
  rw [hρ.fixed u hu] at hid
  rcases hv.origin with hnew | ⟨w, hw, -, hwv⟩
  · exact absurd (hid.trans (congrArg ρ hnew)) (hρ.left u hu)
  · rw [hid, ← hwv, hρ.fixed w hw]

/-- The rows of an assertion under other identifiers. -/
theorem Enters.belongs_relabel (ha : Enters p i m a s ra row)
    (fixed : ∀ u ∈ s.users, ρ u.id = u.id) : ∀ v ∈ row.map (relabel ρ), Belongs (ρ i) a s v := by
  intro v hv
  obtain ⟨u, hu, rfl⟩ := Option.map_eq_some_iff.mp hv
  exact (ha.belongs u hu).relabel fixed

/-- The second reconciliation comes to what it comes to alone. -/
theorem Enters.inTurn_eq (h : s.Consistent) (apart : a.normalizedEmail ≠ b.normalizedEmail)
    (ha : Enters p i m a s ra row) (hb : Enters p j n b s rb row') (hρ : Renames ρ s i j) :
    inTurn p (ρ i) m a (ρ j) n b s =
      (ra.map (relabel ρ), rb.map (relabel ρ),
        (s.enter (row.map (relabel ρ))).enter (row'.map (relabel ρ))) := by
  have hrow := ha.belongs_relabel hρ.fixed
  obtain ⟨ns, hfirst⟩ := ha.elsewhere ρ s h hρ.fixed hρ.left ⟨rfl, rfl⟩
  have h' := h.writes (hfirst.writes h)
  obtain ⟨ns', hsecond⟩ := hb.elsewhere ρ (s.enter (row.map (relabel ρ))) h' hρ.fixed
    (fresh_enter hρ.right hρ.ne hrow) (sameView_enter h hρ.left apart hrow)
  rw [inTurn, (start_eq_iff h).mpr hfirst]
  simp only
  rw [(start_eq_iff h').mpr hsecond]

/-- The entries can be made in either order. -/
theorem Enters.perm_relabelled (h : s.Consistent) (hi : s.Fresh i) (hj : s.Fresh j) (hne : i ≠ j)
    (apart : a.normalizedEmail ≠ b.normalizedEmail) (ha : Enters p i m a s ra row)
    (hb : Enters p j n b s rb row') (hρ : Renames ρ s i j) :
    ((s.enter (row'.map (relabel ρ))).enter (row.map (relabel ρ))).users.Perm
      (((s.enter row).enter row').relabelled ρ).users := by
  have hrow := ha.belongs_relabel hρ.fixed
  have hrow' := hb.belongs_relabel hρ.fixed
  have hfirst : (s.enter row').relabelled ρ = s.enter (row'.map (relabel ρ)) := by
    rw [Store.relabelled_enter, Store.relabelled_eq_self hρ.fixed]
    exact fun v hv u hu hid => hρ.symm.id_eq (hb.belongs v hv) hu hid
  have hsecond : ((s.enter row').enter row).relabelled ρ =
      (s.enter (row'.map (relabel ρ))).enter (row.map (relabel ρ)) := by
    rw [Store.relabelled_enter, hfirst]
    intro v hv u hu hid
    rcases Store.mem_enter hu with hu | hu
    -- Both rows have been written, and their identifiers are different under the renaming too.
    · have hu' := hrow' (relabel ρ u) (Option.mem_map_of_mem _ hu)
      have hv' := hrow (relabel ρ v) (Option.mem_map_of_mem _ hv)
      exact absurd hid.symm (hv'.id_ne h hρ.left hρ.right hρ.ne apart hu')
    · exact hρ.id_eq (ha.belongs v hv) hu hid
  have hswap : ((s.enter row').enter row).users.Perm ((s.enter row).enter row').users :=
    Store.perm_enter_enter fun v hv u hu =>
      (hb.belongs v hv).id_ne h hj hi (Ne.symm hne) (Ne.symm apart) (ha.belongs u hu)
  rw [← hsecond]
  exact hswap.map (relabel ρ)

/-- Reconciliations for two emails can be done in either order. Each gives back the same user or the
same error, and the store has the same roles and the same users in the end; only the identifiers of
new users are other ones, and new users stand in the order in which they came. -/
theorem reconcile_comm (h : s.Consistent) (apart : a.normalizedEmail ≠ b.normalizedEmail)
    (hi : s.Fresh i) (hj : s.Fresh j) (hne : i ≠ j) (hi' : s.Fresh i') (hj' : s.Fresh j')
    (hne' : i' ≠ j') (p : Policy) (m n : Nat) :
    ∃ ρ : Uuid → Uuid, (∀ u ∈ s.users, ρ u.id = u.id) ∧ ρ i = i' ∧ ρ j = j' ∧
      ∃ ra rb t t', inTurn p i m a j n b s = (ra, rb, t) ∧
        inTurn p j' n b i' m a s = (rb.map (relabel ρ), ra.map (relabel ρ), t') ∧
        t'.roles = t.roles ∧ t'.users.Perm (t.users.map (relabel ρ)) := by
  obtain ⟨ra, row, ha⟩ := exists_enters h hi p m a
  obtain ⟨rb, row', hb⟩ := exists_enters h hj p n b
  obtain ⟨ρ, hρ, rfl, rfl⟩ := exists_renames hi hj hne hi' hj' hne'
  have same : Renames (fun id => id) s i j := ⟨fun _ _ => rfl, hi, hj, hne⟩
  have hforth := ha.inTurn_eq h apart hb same
  have hback := hb.inTurn_eq h (Ne.symm apart) ha hρ.symm
  rw [Store.relabel_same, Except.map_id, Option.map_id] at hforth
  refine ⟨ρ, hρ.fixed, rfl, rfl, ra, rb, _, _, hforth, hback, ?_, ?_⟩
  · simp only [Store.enter_roles, id_eq]
  · exact ha.perm_relabelled h hi hj hne apart hb hρ

/-! ### Two first logins -/

/-- A user who asserts no role. -/
def edsger : Assertion where
  email := "edsger@example.org"
  firstName := none
  lastName := some "Dijkstra"
  externalId := none
  externalRoles := []
  provider := .postgres

/-- Two new users, created in either order. -/
theorem reconcile_comm_office :
    office.Consistent ∧ grace.normalizedEmail ≠ edsger.normalizedEmail ∧
      ∃ ρ : Uuid → Uuid, (∀ u ∈ office.users, ρ u.id = u.id) ∧ ρ ⟨2⟩ = ⟨4⟩ ∧ ρ ⟨3⟩ = ⟨5⟩ ∧
        ∃ ra rb t t', inTurn staffPolicy ⟨2⟩ 0 grace ⟨3⟩ 0 edsger office = (ra, rb, t) ∧
          inTurn staffPolicy ⟨5⟩ 0 edsger ⟨4⟩ 0 grace office =
            (rb.map (relabel ρ), ra.map (relabel ρ), t') ∧
          t'.roles = t.roles ∧ t'.users.Perm (t.users.map (relabel ρ)) := by
  have apart : grace.normalizedEmail ≠ edsger.normalizedEmail := by decide +kernel
  refine ⟨consistent_office, apart, ?_⟩
  exact reconcile_comm consistent_office apart (by decide) (by decide) (by decide) (by decide)
    (by decide) (by decide) staffPolicy 0 0

end FederatedLogin.Reconcile
