import FederatedLogin.Proofs.Directory.RoleNames
import FederatedLogin.Proofs.Json.Bare

/-!
# Plain role names with commas between them

A text of plain names (`PlainName`), with commas between them (`Joined`), has no quotes and no
brackets. So it is JSON only if it is a single name that is a literal or a number, and that name is
then given in the form of its value: `true` becomes `True` and `1.50` becomes `1.5` (`Reworded`).
Every other text is split at its commas, which gives the names as they are.

`roleNames_of_joined` says that these are the only names that change, and that a text cannot be read
at all only if it starts with a whole number that has too many digits.
-/

namespace FederatedLogin.Directory

variable {s t u gap : List Char} {d : Datum}

/-! ### Parts between commas -/

/-- A text, cut at its commas. -/
def cut (s : List Char) : List (List Char) :=
  s.foldr (fun c acc =>
    match c, acc with
    | ',', acc => [] :: acc
    | c, p :: rest => (c :: p) :: rest
    | c, [] => [[c]]) [[]]

/-- What is left of the parts of a text. -/
def kept (parts : List (List Char)) : List Text :=
  (parts.map (Text.stripBy Text.isSpacing)).filter (!·.isEmpty) |>.map (·.map .char)

theorem commaParts_eq (s : List Char) : commaParts s = kept (cut s) := rfl

theorem cut_cons {c : Char} {p : List Char} {ps : List (List Char)} (hc : c ≠ ',')
    (h : cut s = p :: ps) : cut (c :: s) = (c :: p) :: ps := by
  rw [cut, List.foldr_cons, ← cut, h]
  split
  · exact absurd rfl hc
  · rename_i heq
    obtain ⟨rfl, rfl⟩ := List.cons.inj heq
    rfl
  · rename_i heq
    cases heq

/-- A text without a comma is one part. -/
theorem cut_of_notMem (h : ',' ∉ u) : cut u = [u] := by
  induction u with
  | nil => rfl
  | cons c u ih =>
    have hc : c ≠ ',' := fun heq => h (heq ▸ List.mem_cons_self)
    exact cut_cons hc (ih fun hu => h (List.mem_cons_of_mem c hu))

/-- A text is cut at its first comma. -/
theorem cut_append (h : ',' ∉ u) (s : List Char) : cut (u ++ ',' :: s) = u :: cut s := by
  induction u with
  | nil => rfl
  | cons c u ih =>
    have hc : c ≠ ',' := fun heq => h (heq ▸ List.mem_cons_self)
    exact cut_cons hc (ih fun hu => h (List.mem_cons_of_mem c hu))

/-- A comma separates what is before it from what is after it. -/
theorem commaParts_append (h : ',' ∉ u) (s : List Char) :
    commaParts (u ++ ',' :: s) = commaParts u ++ commaParts s := by
  have hparts : cut (u ++ ',' :: s) = cut u ++ cut s := by
    rw [cut_append h, cut_of_notMem h, List.singleton_append]
  simp only [commaParts_eq, kept, hparts, List.map_append, List.filter_append]

/-- Spacing differs from every other character. -/
theorem ne_of_isSpacing {c x : Char} (hc : Text.isSpacing c = true)
    (hx : Text.isSpacing x = false) : c ≠ x := by
  rintro rfl
  exact absurd (hc.symm.trans hx) nofun

theorem Spacing.comma_notMem (h : Spacing gap) : ',' ∉ gap :=
  fun hc => ne_of_isSpacing (h _ hc) rfl rfl

/-- A part is given without the spacing in front of it. -/
theorem commaParts_pad (hgap : Spacing gap) (hu : Text.Trimmed u) (hne : u ≠ [])
    (hcomma : ',' ∉ u) : commaParts (gap ++ u) = [u.map .char] := by
  have hnone : ',' ∉ gap ++ u := by
    rw [List.mem_append, not_or]
    exact ⟨hgap.comma_notMem, hcomma⟩
  have hstrip : Text.stripBy Text.isSpacing (gap ++ u) = u := by
    have hpadded := hu.stripBy_pad hne hgap (List.forall_mem_nil _)
    rwa [List.append_nil] at hpadded
  have hnonempty : u.isEmpty = false := List.isEmpty_eq_false_iff.mpr hne
  rw [commaParts_eq, cut_of_notMem hnone, kept, List.map_singleton, hstrip]
  simp [hnonempty]

/-! ### Plain names -/

/-- The character is no comma, no spacing and no quote, bracket, brace or backslash. -/
def isPlain (c : Char) : Bool :=
  c ≠ ',' && !Text.isSpacing c && c ∉ ['"', '[', ']', '{', '}', '\\']

/-- A name of plain characters, which is not the word for null. -/
structure PlainName where
  text : String
  nonempty : text ≠ ""
  plain : text.toList.all isPlain = true
  notNull : text ≠ "null"

namespace PlainName

variable (n : PlainName)

/-- A character of a plain name is no comma, no spacing and no punctuation of JSON. -/
theorem of_mem {c : Char} (hc : c ∈ n.text.toList) :
    c ≠ ',' ∧ Text.isSpacing c = false ∧ c ∉ ['"', '[', ']', '{', '}', '\\'] := by
  have hplain := List.all_eq_true.mp n.plain c hc
  simpa only [isPlain, Bool.and_eq_true, decide_eq_true_eq, Bool.not_eq_true', and_assoc]
    using hplain

theorem toList_ne_nil : n.text.toList ≠ [] := mt String.toList_eq_nil_iff.mp n.nonempty

theorem trimmed : Text.Trimmed n.text.toList where
  head := fun _ hc => (n.of_mem (List.mem_of_mem_head? hc)).2.1
  last := fun _ hc => (n.of_mem (List.mem_of_getLast? hc)).2.1

theorem comma_notMem : ',' ∉ n.text.toList := fun hc => (n.of_mem hc).1 rfl

theorem bare : Json.Bare n.text.toList := by
  intro c hc
  have hnone := (n.of_mem hc).2.2
  refine ⟨?_, ?_, ?_⟩
  all_goals
    rintro rfl
    exact hnone (by decide)

end PlainName

/-- Names are written with commas between them, and with any spacing after each comma. -/
inductive Joined : List PlainName → List Char → Prop
  | last (n : PlainName) : Joined [n] n.text.toList
  | more {names : List PlainName} {gap s : List Char} (n : PlainName) (spacing : Spacing gap)
      (rest : Joined names s) : Joined (n :: names) (n.text.toList ++ ',' :: (gap ++ s))

namespace Joined

variable {names : List PlainName}

/-- There is no spacing at the ends. -/
theorem trimmed (h : Joined names s) : Text.Trimmed s ∧ s ≠ [] := by
  induction h with
  | last n => exact ⟨n.trimmed, n.toList_ne_nil⟩
  | @more names gap s n _ _ ih =>
    obtain ⟨htrimmed, hne⟩ := ih
    refine ⟨⟨fun c hc => ?_, fun c hc => ?_⟩, List.append_ne_nil_of_left_ne_nil n.toList_ne_nil _⟩
    · rw [List.head?_append_of_ne_nil _ n.toList_ne_nil] at hc
      exact n.trimmed.head c hc
    · rw [List.getLast?_append_of_ne_nil _ (List.cons_ne_nil _ _), ← List.cons_append,
        List.getLast?_append_of_ne_nil _ hne] at hc
      exact htrimmed.last c hc

theorem bare (h : Joined names s) : Json.Bare s := by
  induction h with
  | last n => exact n.bare
  | more n spacing _ ih =>
    intro c hc
    rcases List.mem_append.mp hc with hc | hc
    · exact n.bare c hc
    rcases List.mem_cons.mp hc with rfl | hc
    · decide
    rcases List.mem_append.mp hc with hc | hc
    · have hspacing := spacing c hc
      exact ⟨ne_of_isSpacing hspacing rfl, ne_of_isSpacing hspacing rfl,
        ne_of_isSpacing hspacing rfl⟩
    · exact ih c hc

/-- The names are the parts of the text, also after some spacing. -/
theorem commaParts_eq (h : Joined names s) (hgap : Spacing gap) :
    commaParts (gap ++ s) = names.map fun n => Text.ofString n.text := by
  -- Along the names; each comma has its own spacing after it.
  induction h generalizing gap with
  | last n => exact commaParts_pad hgap n.trimmed n.toList_ne_nil n.comma_notMem
  | @more names gap' s n spacing _ ih =>
    have hcomma : ',' ∉ gap ++ n.text.toList := by
      rw [List.mem_append, not_or]
      exact ⟨hgap.comma_notMem, n.comma_notMem⟩
    rw [← List.append_assoc, commaParts_append hcomma, ih spacing,
      commaParts_pad hgap n.trimmed n.toList_ne_nil n.comma_notMem]
    rfl

/-- Without a comma there is one name. -/
theorem exists_eq_singleton (h : Joined names s) (hcomma : ',' ∉ s) :
    ∃ n, names = [n] ∧ s = n.text.toList := by
  cases h with
  | last n => exact ⟨n, rfl, rfl⟩
  | more => simp at hcomma

/-- A single name is the whole text. -/
theorem eq_of_singleton {n : PlainName} (h : Joined [n] s) : s = n.text.toList := by
  cases h with
  | last => rfl
  | more _ _ rest => cases rest

/-- A text goes beyond a limit of the JSON reader exactly if it is oversized. -/
theorem read_eq_beyond_iff (h : Joined names s) :
    (∃ limit, Json.read s = .error (.beyond limit)) ↔ Json.Oversized s := by
  obtain ⟨htrimmed, hne⟩ := h.trimmed
  obtain ⟨c, cs, rfl⟩ := List.exists_cons_of_ne_nil hne
  have hpadding : Json.isPadding c = false := isPadding_eq_false (htrimmed.head c rfl)
  exact Json.read_eq_beyond_iff hpadding (h.bare c List.mem_cons_self)

/-- A text is JSON only if it is a single name, and then it is a literal or a number. -/
theorem scalar_of_read (h : Joined names s) (hread : Json.read s = .ok d) :
    ∃ n, names = [n] ∧ s = n.text.toList ∧ Json.Scalar d s := by
  have hdenotes : Json.Denotes d s := by
    have htext : Json.readText (String.ofList s) = .ok d := by
      rwa [Json.readText, String.toList_ofList]
    rw [← String.toList_ofList (l := s)]
    exact Json.readText_eq_ok_iff.mp htext
  have hspaced := hdenotes.scalar_of_bare h.bare
  obtain ⟨n, rfl, rfl⟩ := h.exists_eq_singleton hspaced.comma_notMem
  exact ⟨n, rfl, rfl, hspaced.scalar fun c hc => isPadding_eq_false (n.of_mem hc).2.1⟩

end Joined

/-! ### Names that change -/

/-- A literal or a number that its value is not shown as: the truth values, zero with a sign, and
every double that is written in another form than its own. -/
inductive Reworded : List Char → Prop
  | yes : Reworded ['t', 'r', 'u', 'e']
  | no : Reworded ['f', 'a', 'l', 's', 'e']
  | zero : Reworded ['-', '0']
  | float {x : Binary64} {u : List Char} (number : Json.Scalar (.float x) u)
      (differs : x.text.toList ≠ u) : Reworded u

theorem scalar_minusZero : Json.Scalar (.int 0) ['-', '0'] :=
  .minus (.int (Json.whole_toDigits 0) (by decide))

/-- What is reworded is JSON. -/
theorem Reworded.exists_scalar (h : Reworded u) : ∃ d, Json.Scalar d u := by
  cases h with
  | yes => exact ⟨_, .yes⟩
  | no => exact ⟨_, .no⟩
  | zero => exact ⟨_, scalar_minusZero⟩
  | float number => exact ⟨_, number⟩

/-- A text of characters is the form of a value exactly if it has the same characters. -/
theorem ofString_eq_map_iff {w : String} : Text.ofString w = u.map .char ↔ w.toList = u :=
  List.map_inj_right fun _ _ h => CodePoint.char.inj h

/-- A decimal number changes unless it is spelled as it is written back. -/
theorem reworded_float_iff {x : Binary64} (h : Json.Scalar (.float x) u) :
    Reworded u ↔ x.text.toList ≠ u := by
  refine ⟨fun hreworded => ?_, .float h⟩
  cases hreworded with
  | yes => cases h.unique .yes
  | no => cases h.unique .no
  | zero => cases h.unique scalar_minusZero
  | float number differs =>
    obtain rfl := Datum.float.inj (h.unique number)
    exact differs

/-- The only whole number that is reworded is zero with a sign. -/
theorem reworded_int_iff {n : Int} (h : Json.Scalar (.int n) u) : Reworded u ↔ u = ['-', '0'] := by
  constructor
  · intro hreworded
    cases hreworded with
    | yes => cases h.unique .yes
    | no => cases h.unique .no
    | zero => rfl
    | float number => cases h.unique number
  · rintro rfl
    exact .zero

/-- A whole number is written as it was, unless it is zero with a sign. -/
theorem toString_int_iff {n : Int} (h : Json.Scalar (.int n) u) :
    (toString n).toList = u ↔ u ≠ ['-', '0'] := by
  cases h with
  | number numeral =>
    cases numeral with
    | int whole =>
      have hsame : (toString (Json.withSign false (Json.ofDigits u))).toList = u := by
        rw [Json.withSign, if_neg Bool.false_ne_true, Int.toString_eq_repr, Int.repr_eq_if,
          if_pos (Int.natCast_nonneg _), Int.toNat_natCast, Nat.toList_repr,
          whole.toDigits_ofDigits]
      refine iff_of_true hsame ?_
      rintro rfl
      exact absurd (whole.digits '-' List.mem_cons_self) (by decide)
  | @minus _ front numeral =>
    cases numeral with
    | int whole =>
      by_cases hzero : front = ['0']
      · obtain rfl := hzero
        exact iff_of_false (by decide) (not_not.mpr rfl)
      · have hpos : Json.ofDigits front ≠ 0 := by
          intro hnone
          rw [← whole.toDigits_ofDigits, hnone] at hzero
          exact hzero rfl
        have hneg : ¬0 ≤ -(Json.ofDigits front : Int) := by omega
        have hsame : (toString (Json.withSign true (Json.ofDigits front))).toList =
            '-' :: front := by
          rw [Json.withSign, if_pos rfl, Int.toString_eq_repr, Int.repr_eq_if, if_neg hneg,
            Int.neg_neg, Int.toNat_natCast, String.toList_append, Nat.toList_repr,
            whole.toDigits_ofDigits]
          rfl
        exact iff_of_true hsame fun heq => hzero (List.cons.inj heq).2

/-- A literal or a number other than null is shown as it was written exactly if it is not
reworded. -/
theorem display_eq_iff (h : Json.Scalar d u) (hd : d ≠ .null) :
    d.display = u.map .char ↔ ¬Reworded u := by
  rcases h.kind with rfl | ⟨b, rfl⟩ | ⟨n, rfl⟩ | ⟨x, rfl⟩
  · exact absurd rfl hd
  · cases h with
    | yes => exact iff_of_false (by decide) (not_not.mpr .yes)
    | no => exact iff_of_false (by decide) (not_not.mpr .no)
    | number numeral | minus numeral => cases numeral
  · have hshown : (Datum.int n).display = Text.ofString (toString n) := rfl
    rw [hshown, ofString_eq_map_iff, toString_int_iff h, reworded_int_iff h]
  · have hshown : (Datum.float x).display = Text.ofString x.text := rfl
    rw [hshown, ofString_eq_map_iff, reworded_float_iff h, not_not]

/-- A value other than a list gives a name exactly if it is shown as that name. -/
theorem namesOf_singleton_iff {w : Text} (hd : d ≠ .null) (hw : w ≠ []) :
    namesOf [d] = [w] ↔ d.display = w := by
  rw [namesOf_cons hd]
  split
  · rename_i hempty
    rw [List.isEmpty_iff] at hempty
    exact iff_of_false nofun fun heq => hw (heq ▸ hempty)
  · simp [namesOf]

/-! ### The names in a text -/

/-- Plain names in a list are given as they are. -/
theorem roleNames_of_plain (names : List PlainName) :
    roleNames (.list (names.map fun n => .str n.text)) =
      .ok (names.map fun n => Text.ofString n.text) := by
  have hnames : namesOf (names.map fun n => .str n.text) =
      names.map fun n => Text.ofString n.text := by
    induction names with
    | nil => rfl
    | cons n names ih =>
      have hne : (Text.ofString n.text).isEmpty = false := by
        rw [List.isEmpty_eq_false_iff, Text.ofString, Ne, List.map_eq_nil_iff]
        exact n.toList_ne_nil
      have hnull : Datum.str n.text ≠ .null := fun h => Datum.noConfusion h
      rw [List.map_cons, namesOf_cons hnull, ih, List.map_cons]
      exact if_neg (Bool.eq_false_iff.mp hne)
  rw [← hnames]
  rfl

/-- Joined names are read as JSON first, and else they are the names in the text. -/
theorem Joined.roleNames_eq {names : List PlainName} {s : String} (h : Joined names s.toList) :
    roleNames (.str s) = match Json.read s.toList with
      | .ok d => .ok (namesIn d)
      | .error (.beyond limit) => .error limit
      | .error (.malformed _ _ _) => .ok (names.map fun n => Text.ofString n.text) := by
  obtain ⟨htrimmed, hne⟩ := h.trimmed
  have hparts := h.commaParts_eq (List.forall_mem_nil _ : Spacing [])
  have hnonempty : s.toList.isEmpty = false := List.isEmpty_eq_false_iff.mpr hne
  rw [List.nil_append] at hparts
  rw [roleNames_str, htrimmed.stripBy_eq, hnonempty, hparts, Json.readText, Text.strip,
    String.toList_ofList, htrimmed.stripBy_eq]
  rfl

/-- A single name that is JSON is given as it is exactly if its value is shown like this. -/
theorem namesIn_eq_iff {n : PlainName} (h : Json.Scalar d n.text.toList) :
    namesIn d = [Text.ofString n.text] ↔ ¬Reworded n.text.toList := by
  have hne : n.text.toList.map CodePoint.char ≠ [] := mt List.map_eq_nil_iff.mp n.toList_ne_nil
  rw [Text.ofString]
  generalize hu : n.text.toList = u at h hne ⊢
  have hnull : d ≠ .null := by
    rintro rfl
    cases h with
    | null => exact n.notNull (String.toList_inj.mp hu)
    | number numeral | minus numeral => cases numeral
  have hone : namesIn d = namesOf [d] := by
    rcases h.kind with rfl | ⟨b, rfl⟩ | ⟨n, rfl⟩ | ⟨x, rfl⟩
    · exact absurd rfl hnull
    all_goals rfl
  rw [hone, ← display_eq_iff h hnull]
  exact namesOf_singleton_iff hnull hne

/-- Plain names in a list are given as they are. So are plain names in a text with commas between
them, unless the text starts with a whole number that has too many digits, or it is a single name
that is a literal or a number of another form. -/
theorem roleNames_of_joined {names : List PlainName} {s : String} (h : Joined names s.toList) :
    roleNames (.list (names.map fun n => .str n.text)) =
        .ok (names.map fun n => Text.ofString n.text) ∧
      (roleNames (.str s) = .ok (names.map fun n => Text.ofString n.text) ↔
        ¬Json.Oversized s.toList ∧ ∀ n, names = [n] → ¬Reworded n.text.toList) := by
  refine ⟨roleNames_of_plain names, ?_⟩
  rw [h.roleNames_eq, ← h.read_eq_beyond_iff]
  rcases hread : Json.read s.toList with (⟨complaint, line, column⟩ | limit) | d
  · -- The text is no JSON, and so no name in it is.
    refine iff_of_true rfl ⟨nofun, ?_⟩
    rintro n rfl hreworded
    obtain ⟨d, hscalar⟩ := hreworded.exists_scalar
    rw [← h.eq_of_singleton] at hscalar
    exact absurd (hread.symm.trans hscalar.denotes.read_eq) nofun
  · exact iff_of_false nofun fun hnot => hnot.1 ⟨limit, rfl⟩
  · obtain ⟨n, rfl, hs, hscalar⟩ := h.scalar_of_read hread
    rw [hs] at hscalar
    have hlimit : ¬∃ limit, (Except.ok d : Except Json.Fault Datum) = .error (.beyond limit) := nofun
    simp only [Except.ok.injEq, List.map_cons, List.map_nil, namesIn_eq_iff hscalar, hlimit,
      not_false_eq_true, true_and, List.cons.injEq, and_true, forall_eq']

/-! ### Some names -/

/-- A name that is a word. -/
def viewer : PlainName := ⟨"opsViewer", by decide, by decide, by decide⟩

/-- A name that is a truth value. -/
def yes : PlainName := ⟨"true", by decide, by decide, by decide⟩

/-- A name that is a number. -/
def seven : PlainName := ⟨"7", by decide, by decide, by decide⟩

/-- Among other names, a truth value is a name like any other one. -/
theorem roleNames_of_joined_viewer :
    Joined [viewer, yes, seven] "opsViewer, true,7".toList ∧
      roleNames (.str "opsViewer, true,7") =
        .ok (["opsViewer", "true", "7"].map Text.ofString) := by
  have hspace : Spacing [' '] := by decide
  have hjoined : Joined [viewer, yes, seven] "opsViewer, true,7".toList :=
    .more viewer hspace (.more yes (List.forall_mem_nil _ : Spacing []) (.last seven))
  have hshort : ¬Json.Oversized "opsViewer, true,7".toList := fun h =>
    absurd h.lt_length (by decide)
  obtain ⟨-, htext⟩ := roleNames_of_joined hjoined
  have hmore : ∀ n, [viewer, yes, seven] = [n] → ¬Reworded n.text.toList := fun n h =>
    absurd (congrArg List.length h) (by simp)
  exact ⟨hjoined, htext.mpr ⟨hshort, hmore⟩⟩

/-- On its own it is given in another form. -/
theorem roleNames_of_true :
    Joined [yes] "true".toList ∧
      roleNames (.list [.str "true"]) = .ok [Text.ofString "true"] ∧
      roleNames (.str "true") = .ok [Text.ofString "True"] ∧
      roleNames (.str "true") ≠ roleNames (.list [.str "true"]) := by
  have hjoined : Joined [yes] "true".toList := .last yes
  have hlist : roleNames (.list [.str "true"]) = .ok [Text.ofString "true"] :=
    roleNames_of_plain [yes]
  have hread : Json.read "true".toList = .ok (.bool true) := Json.Scalar.yes.denotes.read_eq
  have htext : roleNames (.str "true") = .ok [Text.ofString "True"] := by
    rw [hjoined.roleNames_eq, hread]
    rfl
  refine ⟨hjoined, hlist, htext, ?_⟩
  rw [hlist, htext]
  exact fun h => absurd (Except.ok.inj h) (by decide)

end FederatedLogin.Directory
