import FederatedLogin.Proofs.Directory.Authentication

/-!
# Which row a look-up finds

The email that is looked for is in lower case by the rules for all of Unicode; the email in a row is
folded by the database, which knows ASCII letters only. So the two meet at a row whose email has the
same lower case (`SameEmail`) only if it has no capital letter beyond ASCII (`Reached`), and a row
with another capital is found by no email at all, not even by its own.

`find_outcome` says which row is found: the first one that is reached.
-/

namespace FederatedLogin.Directory

variable {d : Directory} {tables : List Table} {t : Table} {c : Columns} {email known : String}
  {row : List Datum}

/-! ### The first of a kind -/

section First

variable {α : Type} {P Q : α → Prop} {p : α → Bool} {l : List α} {a b : α}

/-- An element is the first one of a kind in a list. -/
inductive First (P : α → Prop) : List α → α → Prop
  | here {a : α} {rest : List α} (holds : P a) : First P (a :: rest) a
  | later {a b : α} {rest : List α} (passed : ¬P b) (first : First P rest a) : First P (b :: rest) a

theorem First.mem (h : First P l a) : a ∈ l ∧ P a := by
  induction h with
  | here holds => exact ⟨List.mem_cons_self, holds⟩
  | later _ _ ih => exact ⟨List.mem_cons_of_mem _ ih.1, ih.2⟩

/-- A list with an element of the kind has a first one. -/
theorem exists_first (h : ∃ a ∈ l, P a) : ∃ a, First P l a := by
  induction l with
  | nil =>
    obtain ⟨a, ha, -⟩ := h
    exact absurd ha List.not_mem_nil
  | cons b rest ih =>
    by_cases hb : P b
    · exact ⟨b, .here hb⟩
    · obtain ⟨a, ha, hP⟩ := h
      have hrest : a ∈ rest := (List.mem_cons.mp ha).resolve_left fun heq => hb (heq ▸ hP)
      obtain ⟨first, hfirst⟩ := ih ⟨a, hrest, hP⟩
      exact ⟨first, .later hb hfirst⟩

/-- What is first of a kind is first of every part of the kind that it belongs to. -/
theorem First.of_imp (h : First P l a) (himp : ∀ b, Q b → P b) (ha : Q a) : First Q l a := by
  induction h with
  | here => exact .here ha
  | later passed _ ih => exact .later (fun hb => passed (himp _ hb)) (ih ha)

/-- Searching a list finds the first element for which the test says yes. -/
theorem find?_eq_some_iff_first (h : ∀ b ∈ l, p b = true ↔ P b) :
    l.find? p = some a ↔ First P l a := by
  induction l with
  | nil => exact iff_of_false nofun nofun
  | cons b rest ih =>
    have hrest := ih fun x hx => h x (List.mem_cons_of_mem b hx)
    by_cases hb : P b
    · rw [List.find?_cons_of_pos ((h b List.mem_cons_self).mpr hb)]
      constructor
      · intro heq
        obtain rfl := Option.some.inj heq
        exact .here hb
      · intro hfirst
        cases hfirst with
        | here => rfl
        | later passed _ => exact absurd hb passed
    · rw [List.find?_cons_of_neg (mt (h b List.mem_cons_self).mp hb), hrest]
      constructor
      · exact .later hb
      · intro hfirst
        cases hfirst with
        | here holds => exact absurd holds hb
        | later _ first => exact first

end First

/-! ### Rows and emails -/

/-- The email in a row is a text and has the same lower case as the one that is looked for. -/
def SameEmail (c : Columns) (email : String) (row : List Datum) : Prop :=
  ∃ known, cell row c.email = .str known ∧ Text.lower known = Text.lower email

/-- It also has no capitals but those of ASCII. -/
def Reached (c : Columns) (email : String) (row : List Datum) : Prop :=
  ∃ known, cell row c.email = .str known ∧ Text.lower known = Text.lower email ∧
    Text.AsciiCapitals known

theorem Reached.sameEmail (h : Reached c email row) : SameEmail c email row := by
  obtain ⟨known, hcell, hsame, -⟩ := h
  exact ⟨known, hcell, hsame⟩

/-- The database's comparison holds of the rows that are reached. -/
theorem hasEmail_iff_reached (h : cell row c.email = .str known) :
    hasEmail c email row = true ↔ Reached c email row := by
  have hfolded : lowered (.str known) = some (Text.asciiLower known) := by
    rw [Datum.str, lowered, Text.toString?_ofString, Option.map_some]
  rw [hasEmail, h, hfolded, beq_iff_eq, Option.some_inj, Text.asciiLower_eq_iff]
  constructor
  · rintro ⟨hsame, hcapitals⟩
    exact ⟨known, h, hsame, hcapitals⟩
  · rintro ⟨other, hcell, hreached⟩
    obtain rfl := Datum.str_inj.mp (h.symm.trans hcell)
    exact hreached

/-- The answer with the first row of a kind: its user, and nobody without such a row. -/
inductive Answers (c : Columns) (wanted : List Datum → Prop) (rows : List (List Datum)) :
    Except Failure (Option Entry) → Prop
  | missed (nobody : ∀ row ∈ rows, ¬wanted row) : Answers c wanted rows (.ok none)
  | found {row : List Datum} (first : First wanted rows row) :
      Answers c wanted rows ((entryOf c row).map some)

/-! ### What a look-up finds -/

section Table

variable (htable : d.table? tables = some t) (hcolumns : d.columns? t = some c)
  (htexts : ∀ row ∈ t.rows, ∃ known, cell row c.email = .str known)

include htexts in
/-- In a table whose emails are texts, searching for the email finds the first row reached. -/
theorem find?_hasEmail_iff :
    t.rows.find? (hasEmail c email) = some row ↔ First (Reached c email) t.rows row :=
  find?_eq_some_iff_first fun row hrow =>
    have ⟨_, hknown⟩ := htexts row hrow
    hasEmail_iff_reached hknown

include htable hcolumns htexts in
theorem finds_iff_first : Finds d tables email c row ↔ First (Reached c email) t.rows row := by
  rw [← find?_hasEmail_iff htexts]
  constructor
  · rintro ⟨htable', hcolumns', hfirst⟩
    obtain rfl := Option.some.inj (htable.symm.trans htable')
    exact hfirst
  · exact .intro htable hcolumns

include htable hcolumns htexts in
theorem answers_find (email : String) :
    Answers c (Reached c email) t.rows (d.find tables email) := by
  by_cases hany : ∃ row ∈ t.rows, Reached c email row
  · obtain ⟨row, hfirst⟩ := exists_first hany
    rw [((finds_iff_first htable hcolumns htexts).mpr hfirst).find_eq]
    exact .found hfirst
  · have hnone : ∀ row ∈ t.rows, ¬Reached c email row := fun row hrow h => hany ⟨row, hrow, h⟩
    have hmisses : Misses d tables email := by
      refine ⟨htable, hcolumns, fun row hrow => Bool.eq_false_iff.mpr fun hhas => ?_⟩
      obtain ⟨known, hknown⟩ := htexts row hrow
      exact hnone row hrow ((hasEmail_iff_reached hknown).mp hhas)
    rw [hmisses.find_eq]
    exact .missed hnone

end Table

/-- In a table whose emails are texts, the answer is the user of the first row reached by the email.
There is none if no row has the email in any case of letters. The first row that has it is found
exactly if its email has no capital beyond ASCII. A row with such an email has somebody to be found
by it, and a row with another capital is found by no email. -/
theorem find_outcome (htable : d.table? tables = some t) (hcolumns : d.columns? t = some c)
    (htexts : ∀ row ∈ t.rows, ∃ known, cell row c.email = .str known) :
    (∀ email, Answers c (Reached c email) t.rows (d.find tables email)) ∧
      (∀ email, (∀ row ∈ t.rows, ¬SameEmail c email row) → d.find tables email = .ok none) ∧
      (∀ email row, First (SameEmail c email) t.rows row →
        (Finds d tables email c row ↔ Reached c email row)) ∧
      ∀ row ∈ t.rows, ∀ known, cell row c.email = .str known →
        (Text.AsciiCapitals known →
          ∃ found, Finds d tables known c found ∧ SameEmail c known found) ∧
        (¬Text.AsciiCapitals known → ∀ email, ¬Finds d tables email c row) := by
  have hfinds : ∀ {email row}, Finds d tables email c row ↔ First (Reached c email) t.rows row :=
    finds_iff_first htable hcolumns htexts
  refine ⟨answers_find htable hcolumns htexts, fun email hnone => ?_,
    fun email row hfirst => ?_, fun row hrow known hknown => ⟨fun hcapitals => ?_, ?_⟩⟩
  · generalize hanswer : d.find tables email = answer
    have hanswers := answers_find htable hcolumns htexts email
    rw [hanswer] at hanswers
    cases hanswers with
    | missed => rfl
    | found first => exact absurd first.mem.2.sameEmail (hnone _ first.mem.1)
  · rw [hfinds]
    exact ⟨fun h => h.mem.2, hfirst.of_imp fun _ => Reached.sameEmail⟩
  · have hself : Reached c known row := ⟨known, hknown, rfl, hcapitals⟩
    obtain ⟨found, hfirst⟩ := exists_first ⟨row, hrow, hself⟩
    exact ⟨found, hfinds.mpr hfirst, hfirst.mem.2.sameEmail⟩
  · intro hcapitals email hfound
    obtain ⟨other, hother, -, hreached⟩ := (hfinds.mp hfound).mem.2
    obtain rfl := Datum.str_inj.mp (hknown.symm.trans hother)
    exact hcapitals hreached

/-! ### Tables of emails -/

/-- A directory with the usual names. -/
def usual : Directory := ⟨none, "users", "email", "password_hash"⟩

/-- Its columns. -/
def usualColumns : Columns := ⟨0, 1, 2, 3, 4, 5⟩

/-- A row of its table with an identifier and an email. -/
def mailRow (id email : String) : List Datum := [.str id, .str email, .null, .null, .null, .null]

/-- Its table with some rows. -/
def usualTable (rows : List (List Datum)) : Table :=
  ⟨"users", ["id", "email", "password_hash", "first_name", "last_name", "roles"], rows⟩

theorem table?_usual (rows : List (List Datum)) :
    usual.table? [usualTable rows] = some (usualTable rows) := by
  have hname : understood "users" = "users" := understood_eq_self (by decide)
  simp [table?, usual, usualTable, hname, sameName]

theorem columns?_usual (rows : List (List Datum)) :
    usual.columns? (usualTable rows) = some usualColumns := by
  -- The columns do not depend on the rows.
  have hempty : usual.columns? (usualTable rows) = usual.columns? (usualTable []) := rfl
  rw [hempty]
  simp (disch := decide) only [columns?, usual, Table.column?, understood_eq_self]
  rfl

/-- Of two rows with one email in different cases, the first one is found. -/
theorem find_outcome_jane :
    (∀ row ∈ [mailRow "u-1" "ada@example.org", mailRow "u-2" "Jane@Example.org",
        mailRow "u-3" "JANE@example.org"], ∃ known, cell row usualColumns.email = .str known) ∧
      Finds usual [usualTable [mailRow "u-1" "ada@example.org",
        mailRow "u-2" "Jane@Example.org", mailRow "u-3" "JANE@example.org"]] "jane@EXAMPLE.org"
        usualColumns (mailRow "u-2" "Jane@Example.org") := by
  have htexts : ∀ row ∈ [mailRow "u-1" "ada@example.org", mailRow "u-2" "Jane@Example.org",
      mailRow "u-3" "JANE@example.org"], ∃ known, cell row usualColumns.email = .str known := by
    simp [mailRow, cell, usualColumns, Datum.str]
  have hada : ¬SameEmail usualColumns "jane@EXAMPLE.org" (mailRow "u-1" "ada@example.org") := by
    rintro ⟨known, hcell, hsame⟩
    obtain rfl := Datum.str_inj.mp (hcell : Datum.str "ada@example.org" = .str known)
    exact absurd hsame (by decide +kernel)
  have hlower : Text.lower "Jane@Example.org" = Text.lower "jane@EXAMPLE.org" := by decide +kernel
  have hascii : "Jane@Example.org".toList.all (fun c => c.toNat < 128) = true := by decide
  have hcapitals : Text.AsciiCapitals "Jane@Example.org" := fun c hc =>
    .inl (of_decide_eq_true (List.all_eq_true.mp hascii c hc))
  have hfirst : First (SameEmail usualColumns "jane@EXAMPLE.org")
      (usualTable [mailRow "u-1" "ada@example.org", mailRow "u-2" "Jane@Example.org",
        mailRow "u-3" "JANE@example.org"]).rows (mailRow "u-2" "Jane@Example.org") :=
    .later hada (.here ⟨_, rfl, hlower⟩)
  obtain ⟨-, -, hfinds, -⟩ := find_outcome (table?_usual _) (columns?_usual _) htexts
  exact ⟨htexts, (hfinds _ _ hfirst).mpr ⟨_, rfl, hlower, hcapitals⟩⟩

/-- The only row of a table is not found by its own email. -/
theorem find_of_accented_capital :
    First (SameEmail usualColumns "Éva@example.com")
        (usualTable [mailRow "u-1" "Éva@example.com"]).rows (mailRow "u-1" "Éva@example.com") ∧
      usual.find [usualTable [mailRow "u-1" "Éva@example.com"]] "Éva@example.com" = .ok none ∧
      ¬Answers usualColumns (SameEmail usualColumns "Éva@example.com")
        (usualTable [mailRow "u-1" "Éva@example.com"]).rows
        (usual.find [usualTable [mailRow "u-1" "Éva@example.com"]] "Éva@example.com") := by
  have hsame : SameEmail usualColumns "Éva@example.com" (mailRow "u-1" "Éva@example.com") :=
    ⟨_, rfl, rfl⟩
  have hmisses : Misses usual [usualTable [mailRow "u-1" "Éva@example.com"]] "Éva@example.com" := by
    refine ⟨table?_usual _, columns?_usual _, fun row hrow => ?_⟩
    obtain rfl := List.mem_singleton.mp hrow
    decide +kernel
  refine ⟨.here hsame, hmisses.find_eq, fun hanswers => ?_⟩
  generalize hanswer : usual.find _ _ = answer at hanswers
  rw [hmisses.find_eq] at hanswer
  cases hanswers with
  | missed nobody => exact nobody _ List.mem_cons_self hsame
  | found first =>
    obtain ⟨e, -, he⟩ := map_eq_ok.mp hanswer.symm
    cases he

end FederatedLogin.Directory
