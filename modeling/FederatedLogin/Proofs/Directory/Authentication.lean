import FederatedLogin.Proofs.Directory.Lookup
import FederatedLogin.Proofs.Directory.RoleNames
import FederatedLogin.Proofs.Password

/-!
# What comes of an authentication

A directory looks for the first row of its table whose email has the same form in lower case
(`Finds`). The cells of that row decide the rest: `Authenticated` lists everything that can come of
an authentication, and `authenticate_eq_iff` says that nothing else does.

Cells can hold values of any type. Two of them make an authentication end with an error that is not
the directory's own (`Escapes`): role names that nest too deep for the JSON reader, and a hash that
is neither empty nor a text. There is an assertion only of a row whose hash is a text that fits the
password (`authenticate_outcome`).
-/

namespace FederatedLogin.Directory

variable {d : Directory} {tables : List Table} {email password : String} {c : Columns}
  {row : List Datum} {f : Failure} {e : Entry}

/-! ### The row -/

/-- A row has the email that is looked for, in any case of letters. -/
def hasEmail (c : Columns) (email : String) (row : List Datum) : Bool :=
  lowered (cell row c.email) == some (Text.lower email)

/-- A directory finds a row: the first one of its table that has the email. -/
inductive Finds (d : Directory) (tables : List Table) (email : String) :
    Columns → List Datum → Prop
  | intro {t : Table} {c : Columns} {row : List Datum} (table : d.table? tables = some t)
      (columns : d.columns? t = some c) (first : t.rows.find? (hasEmail c email) = some row) :
      Finds d tables email c row

/-- A directory has a table with its columns, but no row in it has the email. -/
inductive Misses (d : Directory) (tables : List Table) (email : String) : Prop
  | intro {t : Table} {c : Columns} (table : d.table? tables = some t)
      (columns : d.columns? t = some c) (none : ∀ row ∈ t.rows, hasEmail c email row = false)

/-- A directory has no table, or one without all of its columns. -/
def Unreachable (d : Directory) (tables : List Table) : Prop :=
  ∀ t, d.table? tables = some t → d.columns? t = none

/-- The row is looked for in the table, if all columns are there. -/
theorem find_of_columns {t : Table} (htable : d.table? tables = some t)
    (hcolumns : d.columns? t = some c) :
    d.find tables email = match t.rows.find? (hasEmail c email) with
      | none => .ok none
      | some row => (entryOf c row).map some := by
  rw [find, htable, Option.bind_some, hcolumns]
  rfl

/-- Without its table or a column of it, the query of a directory fails. -/
theorem Unreachable.find_eq (h : d.Unreachable tables) :
    d.find tables email = .error .queryFailed := by
  rw [find]
  rcases htable : d.table? tables with _ | t
  · rfl
  · rw [Option.bind_some, h t htable]
    rfl

theorem Misses.find_eq (h : Misses d tables email) : d.find tables email = .ok none := by
  obtain ⟨htable, hcolumns, hnone⟩ := h
  have hfirst := List.find?_eq_none.mpr fun row hrow => Bool.eq_false_iff.mp (hnone row hrow)
  rw [find_of_columns htable hcolumns, hfirst]

/-- The first row that answers makes the entry, or fails to. -/
theorem Finds.find_eq (h : Finds d tables email c row) :
    d.find tables email = (entryOf c row).map some := by
  obtain ⟨htable, hcolumns, hfirst⟩ := h
  rw [find_of_columns htable hcolumns, hfirst]

/-- There is no other case. -/
theorem unreachable_or_misses_or_finds (d : Directory) (tables : List Table) (email : String) :
    d.Unreachable tables ∨ Misses d tables email ∨ ∃ c row, Finds d tables email c row := by
  by_cases hreach : d.Unreachable tables
  · exact .inl hreach
  right
  obtain ⟨t, ht⟩ := not_forall.mp hreach
  obtain ⟨htable, hcolumns⟩ := Classical.not_imp.mp ht
  obtain ⟨c, hc⟩ := Option.ne_none_iff_exists'.mp hcolumns
  rcases hfirst : t.rows.find? (hasEmail c email) with _ | row
  · exact .inl ⟨htable, hc, fun row hrow =>
      Bool.eq_false_iff.mpr (List.find?_eq_none.mp hfirst row hrow)⟩
  · exact .inr ⟨c, row, htable, hc, hfirst⟩

/-! ### The cells -/

/-- Only the limits of JSON in the roles stop a row from becoming an entry. -/
theorem entryOf_eq_error :
    entryOf c row = .error f ↔
      GoesBeyond (cell row c.roles) .tooDeep ∧ f = .rolesTooDeep ∨
        (∃ n, GoesBeyond (cell row c.roles) (.hugeInteger n)) ∧ f = .unreadableRow := by
  simp only [← roleNames_eq_error]
  rw [entryOf]
  split
  · rename_i hroles
    simp [hroles]
  · rename_i hroles
    simp [hroles, eq_comm]
  · rename_i hroles
    simp [hroles, eq_comm]

/-- A row has an entry if its cell for the roles can be read. -/
theorem exists_entryOf :
    (∃ e, entryOf c row = .ok e) ↔ ∀ limit, ¬GoesBeyond (cell row c.roles) limit := by
  simp only [← roleNames_eq_error]
  rw [entryOf]
  rcases hroles : roleNames (cell row c.roles) with limit | roles
  · cases limit <;> simp
  · simp

/-- The entry of a row has the cells of the row. -/
theorem cells_of_entryOf (h : entryOf c row = .ok e) :
    e.id = (cell row c.id).display ∧ e.passwordHash = cell row c.passwordHash := by
  rw [entryOf] at h
  split at h
  · obtain rfl := Except.ok.inj h
    exact ⟨rfl, rfl⟩
  · cases h
  · cases h

/-! ### What comes of an authentication -/

/-- An error is one of the directory's own. -/
def Failure.Own (f : Failure) : Prop :=
  f = .queryFailed ∨ f = .unreadableRow ∨ ∃ id, f = .invalidIdentity id

/-- Why a row makes an authentication end with an error that is not the directory's own. -/
inductive Escapes (c : Columns) (row : List Datum) : Failure → Prop
  /-- The role names nest too deep to be read. -/
  | deepRoles (deep : GoesBeyond (cell row c.roles) .tooDeep) : Escapes c row .rolesTooDeep
  /-- The hash is neither empty nor a text. -/
  | hashNotText (readable : ∀ limit, ¬GoesBeyond (cell row c.roles) limit)
      (hash : ¬Password.HashLike (cell row c.passwordHash)) :
      Escapes c row (.hashNotText ⟨(cell row c.passwordHash).typeName⟩)

/-- What comes of a row that is found. -/
inductive Judged (c : Columns) (row : List Datum) (password : String) :
    Except Failure (Option Assertion) → Prop
  | escaped {f : Failure} (escapes : Escapes c row f) : Judged c row password (.error f)
  /-- The role names hold a whole number with too many digits. -/
  | unreadable {n : Nat} (huge : GoesBeyond (cell row c.roles) (.hugeInteger n)) :
      Judged c row password (.error .unreadableRow)
  | unfit (readable : ∀ limit, ¬GoesBeyond (cell row c.roles) limit)
      (hash : Password.HashLike (cell row c.passwordHash))
      (unfit : ¬Password.Verifies password (cell row c.passwordHash)) :
      Judged c row password (.ok none)
  /-- The password fits, but the row makes no assertion. -/
  | invalid {e : Entry} {f : Failure} (entry : entryOf c row = .ok e)
      (fits : Password.Verifies password (cell row c.passwordHash))
      (assertion : e.assertion = .error f) :
      Judged c row password (.error (.invalidIdentity (cell row c.id).display))
  | vouched {e : Entry} {a : Assertion} (entry : entryOf c row = .ok e)
      (fits : Password.Verifies password (cell row c.passwordHash))
      (assertion : e.assertion = .ok a) : Judged c row password (.ok (some a))

/-- What comes of an authentication. -/
inductive Authenticated (d : Directory) (tables : List Table) (email password : String) :
    Except Failure (Option Assertion) → Prop
  | unreachable (unreachable : d.Unreachable tables) :
      Authenticated d tables email password (.error .queryFailed)
  | missed (misses : Misses d tables email) : Authenticated d tables email password (.ok none)
  | judged {c : Columns} {row : List Datum} {r : Except Failure (Option Assertion)}
      (finds : Finds d tables email c row) (judged : Judged c row password r) :
      Authenticated d tables email password r

variable {r : Except Failure (Option Assertion)}

/-- Nobody is vouched for without a row or with a password that does not fit. -/
theorem authenticate_eq_none :
    d.authenticate tables email password = .ok none ↔
      d.find tables email = .ok none ∨
        ∃ e, d.find tables email = .ok (some e) ∧
          Password.checkStored password e.passwordHash = .ok false := by
  rw [authenticate]
  rcases d.find tables email with g | _ | e
  · simp [bind, Except.bind]
  · simp [bind, Except.bind, pure, Except.pure]
  · rcases hfits : Password.checkStored password e.passwordHash with flaw | fits
    · simp [bind, Except.bind, hfits]
    · cases fits
      · simp [bind, Except.bind, hfits, pure, Except.pure]
      · rcases hassertion : e.assertion with g | a <;>
          simp [bind, Except.bind, hfits, pure, Except.pure, hassertion]

theorem Finds.find_eq_of_entryOf (h : Finds d tables email c row) (hentry : entryOf c row = .ok e) :
    d.find tables email = .ok (some e) := by
  rw [h.find_eq, hentry]
  rfl

theorem Finds.find_eq_error (h : Finds d tables email c row) (hentry : entryOf c row = .error f) :
    d.find tables email = .error f := by
  rw [h.find_eq, hentry]
  rfl

/-- A row that escapes the directory's own errors ends the authentication. -/
theorem Finds.authenticate_eq_of_escapes (h : Finds d tables email c row)
    (hescapes : Escapes c row f) : d.authenticate tables email password = .error f := by
  cases hescapes with
  | deepRoles hdeep =>
    exact authenticate_eq_error.mpr
      (.inl (h.find_eq_error (entryOf_eq_error.mpr (.inl ⟨hdeep, rfl⟩))))
  | hashNotText hreadable hhash =>
    obtain ⟨e, hentry⟩ := exists_entryOf.mpr hreadable
    refine authenticate_eq_error.mpr (.inr ⟨e, h.find_eq_of_entryOf hentry, .inl ⟨_, ?_, rfl⟩⟩)
    rw [(cells_of_entryOf hentry).2]
    exact Password.checkStored_eq_error_iff.mpr ⟨hhash, rfl⟩

/-- The row decides what comes of the authentication. -/
theorem Finds.authenticate_eq (h : Finds d tables email c row) (hjudged : Judged c row password r) :
    d.authenticate tables email password = r := by
  cases hjudged with
  | escaped hescapes => exact h.authenticate_eq_of_escapes hescapes
  | unreadable hhuge =>
    exact authenticate_eq_error.mpr
      (.inl (h.find_eq_error (entryOf_eq_error.mpr (.inr ⟨⟨_, hhuge⟩, rfl⟩))))
  | unfit hreadable hhash hunfit =>
    obtain ⟨e, hentry⟩ := exists_entryOf.mpr hreadable
    refine authenticate_eq_none.mpr (.inr ⟨e, h.find_eq_of_entryOf hentry, ?_⟩)
    rw [(cells_of_entryOf hentry).2]
    exact Password.checkStored_eq_false_iff.mpr ⟨hhash, hunfit⟩
  | invalid hentry hfits hassertion =>
    obtain ⟨hid, hhash⟩ := cells_of_entryOf hentry
    obtain rfl := error_of_assertion hassertion
    rw [← hid]
    refine authenticate_eq_error.mpr
      (.inr ⟨_, h.find_eq_of_entryOf hentry, .inr ⟨?_, hassertion⟩⟩)
    rw [hhash]
    exact Password.checkStored_eq_true_iff.mpr hfits
  | vouched hentry hfits hassertion =>
    refine authenticate_eq_some.mpr ⟨_, h.find_eq_of_entryOf hentry, ?_, hassertion⟩
    rw [(cells_of_entryOf hentry).2]
    exact Password.checkStored_eq_true_iff.mpr hfits

/-- Something comes of every row. -/
theorem exists_judged (c : Columns) (row : List Datum) (password : String) :
    ∃ r, Judged c row password r := by
  rcases hentry : entryOf c row with f | e
  · rcases entryOf_eq_error.mp hentry with ⟨hdeep, -⟩ | ⟨⟨n, hhuge⟩, -⟩
    · exact ⟨_, .escaped (.deepRoles hdeep)⟩
    · exact ⟨_, .unreadable hhuge⟩
  have hreadable := exists_entryOf.mp ⟨e, hentry⟩
  by_cases hhash : Password.HashLike (cell row c.passwordHash)
  · by_cases hfits : Password.Verifies password (cell row c.passwordHash)
    · rcases hassertion : e.assertion with f | a
      · exact ⟨_, .invalid hentry hfits hassertion⟩
      · exact ⟨_, .vouched hentry hfits hassertion⟩
    · exact ⟨_, .unfit hreadable hhash hfits⟩
  · exact ⟨_, .escaped (.hashNotText hreadable hhash)⟩

/-- What `Authenticated` describes is what authentication returns. -/
theorem Authenticated.eq (h : Authenticated d tables email password r) :
    d.authenticate tables email password = r := by
  cases h with
  | unreachable hunreachable => exact authenticate_eq_error.mpr (.inl hunreachable.find_eq)
  | missed hmisses => exact authenticate_eq_none.mpr (.inl hmisses.find_eq)
  | judged hfinds hjudged => exact hfinds.authenticate_eq hjudged

/-- An authentication ends in one of the listed ways. -/
theorem authenticate_eq_iff :
    d.authenticate tables email password = r ↔ Authenticated d tables email password r := by
  refine ⟨fun h => ?_, Authenticated.eq⟩
  -- Something listed comes of it, and nothing else can.
  obtain ⟨r', hr'⟩ : ∃ r', Authenticated d tables email password r' := by
    rcases unreachable_or_misses_or_finds d tables email with
      hunreachable | hmisses | ⟨c, row, hfinds⟩
    · exact ⟨_, .unreachable hunreachable⟩
    · exact ⟨_, .missed hmisses⟩
    · obtain ⟨r, hjudged⟩ := exists_judged c row password
      exact ⟨r, .judged hfinds hjudged⟩
  rwa [← h, hr'.eq]

/-- What escapes is no error of the directory. -/
theorem Escapes.not_own (h : Escapes c row f) : ¬f.Own := by
  cases h <;> rintro (h | h | ⟨id, h⟩) <;> cases h

/-- What comes of an authentication is an assertion, nothing, or an error of the directory's own;
only a row that is found and whose roles nest too deep, or whose hash is neither empty nor a text,
makes it end with another error. There is an assertion only of a row that is found and whose hash
fits the password. -/
theorem authenticate_outcome (d : Directory) (tables : List Table) (email password : String) :
    (∀ r, d.authenticate tables email password = r ↔ Authenticated d tables email password r) ∧
      (∀ f, d.authenticate tables email password = .error f →
        f.Own ∨ ∃ c row, Finds d tables email c row ∧ Escapes c row f) ∧
      (∀ c row f, Finds d tables email c row → Escapes c row f →
        d.authenticate tables email password = .error f ∧ ¬f.Own) ∧
      ∀ a, d.authenticate tables email password = .ok (some a) →
        ∃ c row, Finds d tables email c row ∧
          Password.Verifies password (cell row c.passwordHash) := by
  refine ⟨fun r => authenticate_eq_iff, fun f h => ?_, fun c row f hfinds hescapes => ?_,
    fun a h => ?_⟩
  · cases authenticate_eq_iff.mp h with
    | unreachable => exact .inl (.inl rfl)
    | judged hfinds hjudged =>
      cases hjudged with
      | escaped hescapes => exact .inr ⟨_, _, hfinds, hescapes⟩
      | unreadable => exact .inl (.inr (.inl rfl))
      | invalid => exact .inl (.inr (.inr ⟨_, rfl⟩))
  · exact ⟨hfinds.authenticate_eq_of_escapes hescapes, hescapes.not_own⟩
  · cases authenticate_eq_iff.mp h with
    | judged hfinds hjudged =>
      cases hjudged with
      | vouched _ hfits _ => exact ⟨_, _, hfinds, hfits⟩

/-- A table whose only row has a number in place of a hash. -/
def numbered : Table :=
  ⟨"users", ["id", "email", "password_hash", "first_name", "last_name", "roles"],
    [[.str "u-1", .str "jane@example.com", .int 12345, .null, .null, .null]]⟩

/-- A hash that is a number ends the authentication with an error that is not the directory's. -/
theorem authenticate_of_numbered :
    ∃ f, authenticate ⟨none, "users", "email", "password_hash"⟩ [numbered] "jane@example.com"
      "secret" = .error f ∧ ¬f.Own := by
  have htable : table? ⟨none, "users", "email", "password_hash"⟩ [numbered] = some numbered := by
    rw [table?, understood_eq_self (by decide)]
    rfl
  have hcolumns : columns? ⟨none, "users", "email", "password_hash"⟩ numbered =
      some ⟨0, 1, 2, 3, 4, 5⟩ := by
    simp (disch := decide) only [columns?, Table.column?, understood_eq_self]
    rfl
  have hfinds : Finds ⟨none, "users", "email", "password_hash"⟩ [numbered] "jane@example.com"
      ⟨0, 1, 2, 3, 4, 5⟩
      [.str "u-1", .str "jane@example.com", .int 12345, .null, .null, .null] := by
    refine ⟨htable, hcolumns, List.find?_cons_of_pos ?_⟩
    decide +kernel
  have hescapes : Escapes ⟨0, 1, 2, 3, 4, 5⟩
      [.str "u-1", .str "jane@example.com", .int 12345, .null, .null, .null]
      (.hashNotText ⟨"int"⟩) := by
    refine .hashNotText (exists_entryOf.mp ⟨_, rfl⟩) ?_
    rintro (hempty | ⟨t, htext⟩)
    · exact absurd hempty (by decide)
    · cases htext
  exact ⟨_, hfinds.authenticate_eq_of_escapes hescapes, hescapes.not_own⟩

end FederatedLogin.Directory
