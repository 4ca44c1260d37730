import FederatedLogin.Directory
import FederatedLogin.Proofs.Results
import Mathlib.Data.List.TakeWhile

/-!
# Which names become part of a query

An `Identifier` has letters, digits and underscores only, and does not start with a digit. A name is
checked up to the end of its line, so that an identifier with a line end after it passes, too
(`isName_iff`). A table is named by itself or after a schema and a dot, and it is the last dot that
counts (`splitAtLastDot_append`).

`ofNames_outcome` says which names make a directory: those that are identifiers up to a line end.
A dot in front of a table is passed over, because no schema stands before it. Where no name has a
line end and the table does not start with a dot, only identifiers are accepted, and all of them.
-/

namespace FederatedLogin.Directory

variable {s t table email password : String} {d : Directory}

/-! ### Identifiers -/

/-- An identifier can start with this character: an underscore, or a letter from A to Z. -/
def Starts (c : Char) : Prop := c = '_' ∨ 'A' ≤ c ∧ c ≤ 'Z' ∨ 'a' ≤ c ∧ c ≤ 'z'

/-- An identifier can go on with this character. -/
def GoesOn (c : Char) : Prop := Starts c ∨ '0' ≤ c ∧ c ≤ '9'

/-- The text is an identifier throughout. -/
def Identifier (s : String) : Prop :=
  ∃ c rest, s.toList = c :: rest ∧ Starts c ∧ ∀ x ∈ rest, GoesOn x

/-- The text is an identifier, perhaps with a line end after it. -/
inductive NameLine : String → Prop
  | whole {s : String} (identifier : Identifier s) : NameLine s
  | ended {s : String} (identifier : Identifier s) : NameLine (s ++ "\n")

/-- The character class of the pattern, without its first position. -/
theorem isNameChar_iff {c : Char} : isNameChar c = true ↔ GoesOn c := by
  have hchar : isNameChar c = (decide ('A'.val ≤ c.val ∧ c.val ≤ 'Z'.val) ||
      (decide ('a'.val ≤ c.val) && decide (c.val ≤ 'z'.val)) ||
      (decide ('0'.val ≤ c.val) && decide (c.val ≤ '9'.val)) || decide (c = '_')) := rfl
  rw [hchar]
  simp only [Bool.or_eq_true, Bool.and_eq_true, decide_eq_true_eq, GoesOn, Starts, Char.le_def]
  rw [or_right_comm, or_comm (b := c = '_')]

theorem Starts.isDigit_eq_false {c : Char} (h : Starts c) : c.isDigit = false := by
  simp only [Starts, Char.le_def, UInt32.le_iff_toNat_le] at h
  simp only [Char.isDigit, Bool.and_eq_false_iff, decide_eq_false_iff_not, ge_iff_le,
    UInt32.le_iff_toNat_le]
  rcases h with rfl | h | h
  · exact .inr (by decide)
  · exact .inr (Nat.not_le.mpr (Nat.lt_of_lt_of_le (by decide) h.1))
  · exact .inr (Nat.not_le.mpr (Nat.lt_of_lt_of_le (by decide) h.1))

theorem starts_iff {c : Char} : (isNameChar c && !c.isDigit) = true ↔ Starts c := by
  rw [Bool.and_eq_true, isNameChar_iff, Bool.not_eq_true', GoesOn]
  constructor
  · rintro ⟨hstarts | hdigit, hnot⟩
    · exact hstarts
    · refine absurd ?_ (Bool.eq_false_iff.mp hnot)
      rw [Char.isDigit, Bool.and_eq_true, decide_eq_true_eq, decide_eq_true_eq]
      exact hdigit
  · exact fun h => ⟨.inl h, h.isDigit_eq_false⟩

/-- After its start, a name goes on to its end, or to a line end there. -/
theorem isNameTail_iff {l : List Char} :
    isNameTail l = true ↔ (∀ x ∈ l, GoesOn x) ∨ ∃ l', l = l' ++ ['\n'] ∧ ∀ x ∈ l', GoesOn x := by
  fun_induction isNameTail l with
  | case1 => simp
  | case2 => exact iff_of_true rfl (.inr ⟨[], rfl, nofun⟩)
  | case3 c rest hend ih =>
    rw [Bool.and_eq_true, isNameChar_iff, ih]
    constructor
    · rintro ⟨hc, hrest | ⟨l', rfl, hrest⟩⟩
      · exact .inl (List.forall_mem_cons.mpr ⟨hc, hrest⟩)
      · exact .inr ⟨c :: l', rfl, List.forall_mem_cons.mpr ⟨hc, hrest⟩⟩
    · rintro (hall | ⟨l', hl', hall⟩)
      · exact ⟨(List.forall_mem_cons.mp hall).1, .inl (List.forall_mem_cons.mp hall).2⟩
      · cases l' with
        | nil =>
          obtain ⟨rfl, rfl⟩ := List.cons.inj hl'
          exact absurd rfl (hend rfl)
        | cons x l' =>
          obtain ⟨rfl, rfl⟩ := List.cons.inj hl'
          obtain ⟨hc, hrest⟩ := List.forall_mem_cons.mp hall
          exact ⟨hc, .inr ⟨l', rfl, hrest⟩⟩

/-- A name is an identifier, perhaps with a line end after it. -/
theorem isName_iff : isName s = true ↔ NameLine s := by
  rw [isName]
  constructor
  · intro h
    split at h
    · rename_i c rest hs
      rw [Bool.and_eq_true, starts_iff, isNameTail_iff] at h
      obtain ⟨hc, hrest | ⟨l, rfl, hrest⟩⟩ := h
      · exact .whole ⟨c, rest, hs, hc, hrest⟩
      · have hended : s = String.ofList (c :: l) ++ "\n" := by
          rw [← String.toList_inj, hs]
          simp
        rw [hended]
        exact .ended ⟨c, l, String.toList_ofList, hc, hrest⟩
    · exact absurd h nofun
  · rintro (⟨c, rest, hs, hc, hrest⟩ | ⟨c, rest, hs, hc, hrest⟩)
    · rw [hs]
      simp only
      rw [Bool.and_eq_true, starts_iff, isNameTail_iff]
      exact ⟨hc, .inl hrest⟩
    · rw [String.toList_append, hs, List.cons_append]
      simp only
      rw [Bool.and_eq_true, starts_iff, isNameTail_iff]
      exact ⟨hc, .inr ⟨rest, rfl, hrest⟩⟩

theorem checkName_eq_ok {what : String} : checkName s what = .ok t ↔ NameLine s ∧ s = t := by
  rw [checkName, ← isName_iff]
  split <;> simp_all

theorem not_goesOn_dot : ¬GoesOn '.' := by
  unfold GoesOn Starts
  decide

theorem not_goesOn_lineEnd : ¬GoesOn '\n' := by
  unfold GoesOn Starts
  decide

theorem Identifier.goesOn (h : Identifier s) {c : Char} (hc : c ∈ s.toList) : GoesOn c := by
  obtain ⟨first, rest, hs, hfirst, hrest⟩ := h
  rw [hs] at hc
  rcases List.mem_cons.mp hc with rfl | hc
  · exact .inl hfirst
  · exact hrest c hc

/-- An identifier does not start with a dot, whatever comes after it. -/
theorem Identifier.head?_append_ne_dot (h : Identifier s) (rest : List Char) :
    (s.toList ++ rest).head? ≠ some '.' := by
  obtain ⟨first, rest, hs, hfirst, -⟩ := h
  rw [hs]
  rintro ⟨⟩
  exact not_goesOn_dot (.inl hfirst)

theorem Identifier.lineEnd_notMem (h : Identifier s) : '\n' ∉ s.toList :=
  fun hmem => not_goesOn_lineEnd (h.goesOn hmem)

/-- A name has no dot, so a schema is not part of it. -/
theorem NameLine.dot_notMem (h : NameLine s) : '.' ∉ s.toList := by
  rcases h with identifier | @⟨s, identifier⟩
  · exact fun hmem => not_goesOn_dot (identifier.goesOn hmem)
  · rw [String.toList_append, List.mem_append]
    rintro (hmem | hmem)
    · exact not_goesOn_dot (identifier.goesOn hmem)
    · exact absurd hmem (by decide)

theorem NameLine.ne_empty (h : NameLine s) : s ≠ "" := by
  rintro rfl
  exact absurd (isName_iff.mpr h) (by decide)

/-- Without a line end, a name is an identifier throughout. -/
theorem NameLine.identifier (h : NameLine s) (noEnd : '\n' ∉ s.toList) : Identifier s := by
  rcases h with identifier | @⟨s, identifier⟩
  · exact identifier
  · refine absurd ?_ noEnd
    rw [String.toList_append]
    exact List.mem_append_right _ (by decide)

/-! ### The last dot -/

theorem toList_dotted (s t : String) :
    (s ++ "." ++ t).toList = s.toList ++ '.' :: t.toList := by
  simp

/-- A table named without a dot is in no schema. -/
theorem splitAtLastDot_of_notMem (h : '.' ∉ s.toList) : splitAtLastDot s = ("", s) := by
  have hall : s.toList.reverse.takeWhile (· ≠ '.') = s.toList.reverse := by
    rw [List.takeWhile_eq_self_iff]
    intro c hc
    have hne : c ≠ '.' := fun heq => h (heq ▸ List.mem_reverse.mp hc)
    exact decide_eq_true hne
  rw [splitAtLastDot, hall, List.length_reverse, String.length_toList, Nat.sub_self,
    List.reverse_reverse, String.ofList_toList]
  rfl

/-- What comes after the last dot, and what comes before it. -/
theorem splitAtLastDot_append (h : '.' ∉ t.toList) :
    splitAtLastDot (s ++ "." ++ t) = (s, t) := by
  have hall : (s ++ "." ++ t).toList.reverse.takeWhile (· ≠ '.') = t.toList.reverse := by
    rw [toList_dotted, List.reverse_append, List.reverse_cons, List.append_assoc,
      List.takeWhile_append_of_pos, List.singleton_append, List.takeWhile_cons_of_neg (by decide),
      List.append_nil]
    intro c hc
    have hne : c ≠ '.' := fun heq => h (heq ▸ List.mem_reverse.mp hc)
    exact decide_eq_true hne
  have hlength : (s ++ "." ++ t).length - t.toList.reverse.length - 1 = s.toList.length := by
    rw [← String.length_toList, toList_dotted, List.length_append, List.length_cons,
      List.length_reverse]
    omega
  rw [splitAtLastDot, hall, hlength, toList_dotted, List.take_left, List.reverse_reverse,
    String.ofList_toList, String.ofList_toList]

/-- A text has no dot, or a last one. -/
theorem notMem_or_exists_lastDot (s : String) :
    '.' ∉ s.toList ∨ ∃ before after, s = before ++ "." ++ after ∧ '.' ∉ after.toList := by
  by_cases hdot : '.' ∈ s.toList
  · right
    obtain ⟨after, before, hs, hafter⟩ :=
      List.eq_append_cons_of_mem (List.mem_reverse.mpr hdot)
    refine ⟨String.ofList before.reverse, String.ofList after.reverse, ?_, ?_⟩
    · rw [← String.toList_inj, ← List.reverse_inj, hs]
      simp
    · rw [String.toList_ofList, List.mem_reverse]
      exact hafter
  · exact .inl hdot

/-! ### The names of a directory -/

/-- A table is named by itself, or after a schema and a dot; the names are such that `P` holds of
them. -/
inductive TableName (P : String → Prop) : String → Option String → String → Prop
  | plain {t : String} (table : P t) : TableName P t none t
  | qualified {s t : String} (schema : P s) (table : P t) : TableName P (s ++ "." ++ t) (some s) t

/-- The texts that are accepted for a table. Without a schema, a dot may stand in front of it. -/
inductive TableText : String → Option String → String → Prop
  | named {text : String} {schema : Option String} {name : String}
      (table : TableName NameLine text schema name) : TableText text schema name
  | dotted {t : String} (table : NameLine t) : TableText ("." ++ t) none t

/-- A directory has the names of a configuration: `T` holds of those of the table, and `P` of those
of the columns. -/
structure Named (T : String → Option String → String → Prop) (P : String → Prop)
    (table email password : String) (d : Directory) : Prop where
  table : T table d.schema d.table
  emailColumn : d.emailColumn = email
  passwordColumn : d.passwordColumn = password
  email : P email
  password : P password

/-- Check a schema; an empty one counts as none. -/
def checkSchema (schema : String) : Except BadName (Option String) :=
  if schema.isEmpty then .ok none else (checkName schema "schema").map some

/-- An empty schema passes as none; any other is checked as a name. -/
theorem checkSchema_eq_ok {schema : String} {found : Option String} :
    checkSchema schema = .ok found ↔
      schema = "" ∧ found = none ∨ schema ≠ "" ∧ NameLine schema ∧ found = some schema := by
  rw [checkSchema]
  split
  · rename_i hempty
    simp [String.isEmpty_iff.mp hempty, eq_comm]
  · rename_i hnonempty
    have hne : schema ≠ "" := mt String.isEmpty_iff.mpr hnonempty
    simp only [map_eq_ok, checkName_eq_ok, hne, false_and, false_or, true_and, ne_eq, not_false_iff]
    constructor
    · rintro ⟨_, ⟨hline, rfl⟩, rfl⟩
      exact ⟨hline, rfl⟩
    · rintro ⟨hline, rfl⟩
      exact ⟨schema, ⟨hline, rfl⟩, rfl⟩

/-- The names are checked one after another, once the table is split. -/
theorem ofNames_eq_bind (table email password : String) :
    ofNames table email password =
      checkSchema (splitAtLastDot table).1 >>= fun schema =>
        checkName (splitAtLastDot table).2 "table" >>= fun name =>
          checkName email "email column" >>= fun email =>
            checkName password "password column" >>= fun password =>
              .ok ⟨schema, name, email, password⟩ := by
  rcases hsplit : splitAtLastDot table with ⟨schema, name⟩
  rw [ofNames, hsplit, checkSchema]
  simp only
  split <;> rfl

/-- A text is accepted for a table if both parts of it are. -/
theorem tableText_iff {schema : Option String} {name : String} : TableText table schema name ↔
    checkSchema (splitAtLastDot table).1 = .ok schema ∧ NameLine name ∧
      (splitAtLastDot table).2 = name := by
  rw [checkSchema_eq_ok]
  constructor
  · rintro (@⟨_, _, _, named⟩ | ⟨htable⟩)
    · cases named with
      | plain htable =>
        rw [splitAtLastDot_of_notMem htable.dot_notMem]
        exact ⟨.inl ⟨rfl, rfl⟩, htable, rfl⟩
      | qualified hschema htable =>
        rw [splitAtLastDot_append htable.dot_notMem]
        exact ⟨.inr ⟨hschema.ne_empty, hschema, rfl⟩, htable, rfl⟩
    · -- The schema is the empty text, which is not checked.
      have hfront : "." ++ name = "" ++ "." ++ name := by simp
      rw [hfront, splitAtLastDot_append htable.dot_notMem]
      exact ⟨.inl ⟨rfl, rfl⟩, htable, rfl⟩
  · rcases notMem_or_exists_lastDot table with hdot | ⟨before, after, rfl, hafter⟩
    · rw [splitAtLastDot_of_notMem hdot]
      rintro ⟨⟨-, rfl⟩ | ⟨hne, -⟩, htable, rfl⟩
      · exact .named (.plain htable)
      · exact absurd rfl hne
    · rw [splitAtLastDot_append hafter]
      rintro ⟨⟨rfl, rfl⟩ | ⟨-, hschema, rfl⟩, htable, rfl⟩
      · have hfront : "" ++ "." ++ after = "." ++ after := by simp
        rw [hfront]
        exact .dotted htable
      · exact .named (.qualified hschema htable)

/-- A directory is set up exactly for the texts that are accepted. -/
theorem ofNames_eq_ok_iff :
    ofNames table email password = .ok d ↔ Named TableText NameLine table email password d := by
  rw [ofNames_eq_bind]
  simp only [bind_eq_ok, checkName_eq_ok]
  constructor
  · rintro ⟨_, hschema, _, ⟨htable, rfl⟩, _, ⟨hemail, rfl⟩, _, ⟨hpassword, rfl⟩, hd⟩
    obtain rfl := Except.ok.inj hd
    exact ⟨tableText_iff.mpr ⟨hschema, htable, rfl⟩, rfl, rfl, hemail, hpassword⟩
  · rintro ⟨htable, rfl, rfl, hemail, hpassword⟩
    obtain ⟨hschema, hname, heq⟩ := tableText_iff.mp htable
    exact ⟨_, hschema, _, ⟨heq ▸ hname, heq⟩, _, ⟨hemail, rfl⟩, _, ⟨hpassword, rfl⟩, rfl⟩

/-- The error names what the text was meant for. -/
theorem checkName_eq_error {what : String} {bad : BadName} :
    checkName s what = .error bad ↔ ¬NameLine s ∧ bad = ⟨what, s⟩ := by
  rw [checkName, ← isName_iff]
  split
  · rename_i hname
    simp [hname]
  · rename_i hname
    simp [hname, eq_comm (a := bad)]

/-- The error of a schema names the schema. -/
theorem checkSchema_eq_error {schema : String} {bad : BadName} :
    checkSchema schema = .error bad ↔
      schema ≠ "" ∧ ¬NameLine schema ∧ bad = ⟨"schema", schema⟩ := by
  rw [checkSchema]
  split
  · rename_i hempty
    simp [String.isEmpty_iff.mp hempty]
  · rename_i hnonempty
    have hne : schema ≠ "" := mt String.isEmpty_iff.mpr hnonempty
    rcases hcheck : checkName schema "schema" with bad' | name
    · simp [Except.map, hne, ← checkName_eq_error, hcheck]
    · simp [Except.map, (checkName_eq_ok.mp hcheck).1]

/-- The names of a configuration, each with what it is. -/
def candidates (table email password : String) : List BadName :=
  [⟨"schema", (splitAtLastDot table).1⟩, ⟨"table", (splitAtLastDot table).2⟩,
    ⟨"email column", email⟩, ⟨"password column", password⟩]

/-- A name that is refused is no identifier, not even with a line end after it. -/
theorem mem_candidates_of_ofNames {bad : BadName}
    (h : ofNames table email password = .error bad) :
    bad ∈ candidates table email password ∧ ¬NameLine bad.value := by
  rw [ofNames_eq_bind] at h
  simp only [bind_eq_error, checkName_eq_error, checkSchema_eq_error] at h
  rcases h with ⟨-, hbad, rfl⟩ | ⟨_, -, ⟨hbad, rfl⟩ | ⟨_, -, ⟨hbad, rfl⟩ | ⟨_, -, h⟩⟩⟩
  · exact ⟨by simp [candidates], hbad⟩
  · exact ⟨by simp [candidates], hbad⟩
  · exact ⟨by simp [candidates], hbad⟩
  · rcases h with ⟨hbad, rfl⟩ | ⟨_, -, h⟩
    · exact ⟨by simp [candidates], hbad⟩
    · exact absurd h nofun

/-- Identifiers are what is left of the accepted texts without line ends and dots in front. -/
theorem tableName_identifier_iff {schema : Option String} {name : String} :
    TableName Identifier table schema name ↔
      TableText table schema name ∧ table.toList.head? ≠ some '.' ∧ '\n' ∉ table.toList := by
  constructor
  · intro h
    cases h with
    | plain htable =>
      have hdot := htable.head?_append_ne_dot []
      rw [List.append_nil] at hdot
      exact ⟨.named (.plain (.whole htable)), hdot, htable.lineEnd_notMem⟩
    | qualified hschema htable =>
      rw [toList_dotted, List.mem_append, List.mem_cons, not_or, not_or]
      exact ⟨.named (.qualified (.whole hschema) (.whole htable)), hschema.head?_append_ne_dot _,
        hschema.lineEnd_notMem, by decide, htable.lineEnd_notMem⟩
  · rintro ⟨@⟨_, _, _, named⟩ | ⟨htable⟩, hdot, hend⟩
    · cases named with
      | plain htable => exact .plain (htable.identifier hend)
      | qualified hschema htable =>
        rw [toList_dotted, List.mem_append, List.mem_cons, not_or, not_or] at hend
        exact .qualified (hschema.identifier hend.1) (htable.identifier hend.2.2)
    · exact absurd (by simp) hdot

/-- The names of a directory are identifiers, but for a line end after them and a dot in front of
the table; whatever else is refused, with the name that is at fault. Names without a line end and
without a dot in front are accepted exactly if the columns are identifiers and the table is one, or
two with a dot between them. -/
theorem ofNames_outcome (table email password : String) :
    (∀ d, ofNames table email password = .ok d ↔ Named TableText NameLine table email password d) ∧
      (∀ d, Named (TableName Identifier) Identifier table email password d ↔
        ofNames table email password = .ok d ∧ table.toList.head? ≠ some '.' ∧
          '\n' ∉ table.toList ∧ '\n' ∉ email.toList ∧ '\n' ∉ password.toList) ∧
      ∀ bad, ofNames table email password = .error bad →
        bad ∈ candidates table email password ∧ ¬NameLine bad.value := by
  refine ⟨fun d => ofNames_eq_ok_iff, fun d => ?_, fun bad => mem_candidates_of_ofNames⟩
  rw [ofNames_eq_ok_iff]
  constructor
  · rintro ⟨htable, hcolumn, hcolumn', hemail, hpassword⟩
    obtain ⟨htext, hdot, hend⟩ := tableName_identifier_iff.mp htable
    exact ⟨⟨htext, hcolumn, hcolumn', .whole hemail, .whole hpassword⟩, hdot, hend,
      hemail.lineEnd_notMem, hpassword.lineEnd_notMem⟩
  · rintro ⟨⟨htext, hcolumn, hcolumn', hemail, hpassword⟩, hdot, hend, hend', hend''⟩
    exact ⟨tableName_identifier_iff.mpr ⟨htext, hdot, hend⟩, hcolumn, hcolumn',
      hemail.identifier hend', hpassword.identifier hend''⟩

/-- A line end after a table and a dot in front of it pass the check, although neither text is an
identifier or two with a dot between them. -/
theorem ofNames_of_lineEnd :
    ofNames "users\n" "email" "password_hash" =
        .ok ⟨none, "users\n", "email", "password_hash"⟩ ∧
      (∀ d, ¬Named (TableName Identifier) Identifier "users\n" "email" "password_hash" d) ∧
      ofNames ".users" "email" "password_hash" = .ok ⟨none, "users", "email", "password_hash"⟩ ∧
      ∀ d, ¬Named (TableName Identifier) Identifier ".users" "email" "password_hash" d := by
  refine ⟨by decide +kernel, fun d h => ?_, by decide +kernel, fun d h => ?_⟩
  · exact (tableName_identifier_iff.mp h.table).2.2 (by decide)
  · exact (tableName_identifier_iff.mp h.table).2.1 (by decide)

end FederatedLogin.Directory
