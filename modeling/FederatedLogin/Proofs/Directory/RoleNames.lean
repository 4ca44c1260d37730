import FederatedLogin.Directory.RoleNames
import FederatedLogin.Proofs.Json.RoundTrip
import FederatedLogin.Proofs.Text.LowerCase

/-!
# Role names in a list and in its JSON text

One driver gives a cell with a list of roles as a list, another one as the JSON text of the list.
`roleNames_of_items` says that both give the same names: those of the items of the list, in their
order, each as often as it comes, without nulls and empty names. A string is a name as it is, with
its blanks and commas.

The text of a list starts and ends with a bracket, so that stripping the spacing around it leaves
nothing but the text (`ListText.exists_strip`).
-/

namespace FederatedLogin.Directory

/-! ### Cells with texts -/

/-- A cell is a text that goes beyond a limit of the JSON reader. -/
def GoesBeyond (roles : Datum) (limit : Json.Limit) : Prop :=
  ∃ s : String, roles = .str s ∧ Json.readText (Text.strip s) = .error (.beyond limit)

/-- Role names in a text of characters are read from the text without the spacing around it. -/
theorem roleNames_str (s : String) :
    roleNames (.str s) =
      if (Text.stripBy Text.isSpacing s.toList).isEmpty then .ok []
      else match Json.readText (Text.strip s) with
        | .ok d => .ok (namesIn d)
        | .error (.beyond limit) => .error limit
        | .error (.malformed _ _ _) => .ok (commaParts (Text.stripBy Text.isSpacing s.toList)) := by
  have hchars : (Text.ofString s).chars? = some s.toList := Text.chars?_map_char s.toList
  have htext : Json.readText (Text.strip s) = Json.read (Text.stripBy Text.isSpacing s.toList) := by
    rw [Json.readText, Text.strip, String.toList_ofList]
  rw [htext, Datum.str, roleNames]
  exact hchars ▸ rfl

theorem roleNames_eq_error {roles : Datum} {limit : Json.Limit} :
    roleNames roles = .error limit ↔ GoesBeyond roles limit := by
  constructor
  · intro h
    cases roles with
    | text t =>
      rcases hchars : t.chars? with _ | s
      · rw [roleNames, hchars] at h
        cases h
      have ht : t = Text.ofString (String.ofList s) := by
        rw [Text.ofString, String.toList_ofList, Text.eq_map_char_of_chars? hchars]
      subst ht
      refine ⟨_, rfl, ?_⟩
      have hroles := (roleNames_str _).symm.trans h
      split at hroles
      · cases hroles
      · split at hroles
        · cases hroles
        · rename_i hread
          obtain rfl := Except.error.inj hroles
          exact hread
        · cases hroles
    | null | bool | int | float | bytes | list | record => cases h
  · rintro ⟨s, rfl, hread⟩
    have hnonempty : (Text.stripBy Text.isSpacing s.toList).isEmpty = false := by
      rw [List.isEmpty_eq_false_iff]
      intro hempty
      rw [Json.readText, Text.strip, String.toList_ofList, hempty] at hread
      cases hread
    rw [roleNames_str, hnonempty, hread]
    rfl

/-! ### The text of a list -/

/-- Nothing but spacing. -/
def Spacing (s : List Char) : Prop := ∀ c ∈ s, Text.isSpacing c = true

instance (s : List Char) : Decidable (Spacing s) :=
  decidable_of_iff (s.all Text.isSpacing = true) List.all_eq_true

theorem Spacing.append {s t : List Char} (hs : Spacing s) (ht : Spacing t) : Spacing (s ++ t) :=
  fun c hc => (List.mem_append.mp hc).elim (hs c) (ht c)

/-- What may stand between the parts of a JSON text is spacing. -/
theorem isSpacing_of_isPadding {c : Char} (h : Json.isPadding c = true) :
    Text.isSpacing c = true := by
  simp only [Json.isPadding, Bool.or_eq_true, decide_eq_true_eq] at h
  rcases h with ((rfl | rfl) | rfl) | rfl <;> decide

theorem isPadding_eq_false {c : Char} (h : Text.isSpacing c = false) : Json.isPadding c = false :=
  Bool.eq_false_iff.mpr fun hpadding =>
    Bool.eq_false_iff.mp h (isSpacing_of_isPadding hpadding)

theorem spacing_of_padding {p : List Char} (hp : Json.Padding p) : Spacing p :=
  fun c hc => isSpacing_of_isPadding (hp c hc)

/-- There is no spacing outside of the brackets. -/
theorem trimmed_of_enclosed {α : Type} {form : α → List Char → Prop} {xs : List α} {u : List Char}
    (h : Json.Enclosed '[' ']' form xs u) : Text.Trimmed u ∧ u ≠ [] := by
  have hbrackets : ∃ s, u = '[' :: (s ++ [']']) := by
    cases h with
    | none => exact ⟨_, rfl⟩
    | some => exact ⟨_, rfl⟩
  obtain ⟨s, rfl⟩ := hbrackets
  refine ⟨⟨fun c hc => ?_, fun c hc => ?_⟩, List.cons_ne_nil _ _⟩
  · obtain rfl := Option.some.inj hc
    decide
  · rw [← List.cons_append, List.getLast?_concat] at hc
    obtain rfl := Option.some.inj hc
    decide

/-- Without the spacing around it, the text of a list still is one. -/
theorem ListText.exists_strip {ds : List Datum} {before u after : List Char}
    (h : Json.ListText ds u) (hbefore : Spacing before) (hafter : Spacing after) :
    ∃ v, Text.stripBy Text.isSpacing (before ++ (u ++ after)) = v ∧ v ≠ [] ∧
      Json.Denotes (.list ds) v := by
  cases h with
  | @intro p v q padding written padding' =>
    obtain ⟨htrimmed, hne⟩ := trimmed_of_enclosed written
    refine ⟨v, ?_, hne, Json.denotes_list_iff.mpr (.of written)⟩
    have htext : before ++ (p ++ (v ++ q) ++ after) = before ++ p ++ (v ++ (q ++ after)) := by simp
    rw [htext]
    exact htrimmed.stripBy_pad hne (hbefore.append (spacing_of_padding padding))
      ((spacing_of_padding padding').append hafter)

/-- The text of a list gives the names in the list, whatever spacing is around it. -/
theorem roleNames_of_listText {ds : List Datum} {before u after : List Char}
    (h : Json.ListText ds u) (hbefore : Spacing before) (hafter : Spacing after) :
    roleNames (.str (String.ofList (before ++ (u ++ after)))) = .ok (namesOf ds) := by
  obtain ⟨v, hstrip, hne, hdenotes⟩ := ListText.exists_strip h hbefore hafter
  have hread : Json.readText (Text.strip (String.ofList (before ++ (u ++ after)))) =
      .ok (.list ds) := by
    rw [Text.strip, String.toList_ofList, hstrip, Json.readText, String.toList_ofList]
    exact hdenotes.read_eq
  have hnonempty : v.isEmpty = false := List.isEmpty_eq_false_iff.mpr hne
  rw [roleNames_str, String.toList_ofList, hstrip, hnonempty, hread]
  rfl

/-! ### The names in a list -/

/-- A value that is not null stands for itself in a list, unless its form is empty. -/
theorem namesOf_cons {d : Datum} (hd : d ≠ .null) (ds : List Datum) :
    namesOf (d :: ds) = if d.display.isEmpty then namesOf ds else d.display :: namesOf ds := by
  cases d with
  | null => exact absurd rfl hd
  | _ =>
    simp only [namesOf, List.filter_cons_of_pos, List.map_cons, List.filter_cons]
    split <;> simp_all

/-- An item of a list of roles: a string, a whole number that the JSON reader takes, true or false,
or null. -/
inductive Item where
  | text (s : String)
  | number (n : Int) (short : n.natAbs < 10 ^ Json.maxDigits)
  | truth (b : Bool)
  | null

namespace Item

/-- The item as a value. -/
def datum : Item → Datum
  | text s => .str s
  | number n _ => .int n
  | truth b => .bool b
  | null => .null

/-- The form of an item as a text; null has none. -/
def word? : Item → Option String
  | text s => some s
  | number n _ => some (toString n)
  | truth b => some (if b then "True" else "False")
  | null => none

/-- The names in a list of items. -/
def names (items : List Item) : List String := (items.filterMap word?).filter (· ≠ "")

variable {item : Item} {items : List Item} {l : Json.Layout}

/-- Items are values without parts. -/
theorem simple_write (item : Item) : Json.Simple item.datum (Json.write l item.datum).toList := by
  cases item with
  | text s =>
    rw [datum, Datum.str, Json.write]
    exact .text (Json.quoted_writeText (Json.apart_ofString s))
  | number n short => exact .scalar (Json.scalar_write_int short)
  | truth b =>
    rw [datum, Json.write]
    cases b with
    | false => exact .scalar .no
    | true => exact .scalar .yes
  | null =>
    rw [datum, Json.write]
    exact .scalar .null

/-- A list of items is written as the text of a list. -/
theorem listText_write (hl : l.Legible) (items : List Item) :
    Json.ListText (items.map datum) (Json.write l (.list (items.map datum))).toList := by
  refine Json.listText_write hl fun d hd => ?_
  obtain ⟨item, -, rfl⟩ := List.mem_map.mp hd
  exact item.simple_write

/-- An item with a form is shown in it. -/
theorem display_datum {w : String} (h : item.word? = some w) :
    item.datum ≠ .null ∧ item.datum.display = Text.ofString w := by
  cases item with
  | text | number | truth =>
    obtain rfl := Option.some.inj h
    exact ⟨nofun, rfl⟩
  | null => cases h

theorem namesOf_datum (items : List Item) :
    namesOf (items.map datum) = (names items).map Text.ofString := by
  induction items with
  | nil => rfl
  | cons item items ih =>
    rcases hword : item.word? with _ | w
    · cases item with
      | null => exact ih
      | text | number | truth => cases hword
    · obtain ⟨hnull, hdisplay⟩ := display_datum hword
      have hempty : (Text.ofString w).isEmpty = true ↔ w = "" := by
        rw [Text.ofString, List.isEmpty_iff, List.map_eq_nil_iff, String.toList_eq_nil_iff]
      rw [List.map_cons, namesOf_cons hnull, hdisplay, ih, names, names,
        List.filterMap_cons_some hword]
      by_cases hw : w = ""
      · rw [if_pos (hempty.mpr hw), List.filter_cons_of_neg (by simpa using hw)]
      · rw [if_neg (mt hempty.mp hw), List.filter_cons_of_pos (by simpa using hw), List.map_cons]

end Item

open Item (names datum)

/-- A list of items gives the names in it, and so does every text of the list, whatever spacing is
around it. There is such a text in either layout. -/
theorem roleNames_of_items (items : List Item) :
    roleNames (.list (items.map datum)) = .ok ((names items).map Text.ofString) ∧
      (∀ before u after : List Char, Spacing before → Spacing after →
        Json.Denotes (.list (items.map datum)) u →
        roleNames (.str (String.ofList (before ++ (u ++ after)))) =
          .ok ((names items).map Text.ofString)) ∧
      ∀ l : Json.Layout, l.Legible →
        Json.Denotes (.list (items.map datum))
          (Json.write l (.list (items.map datum))).toList := by
  refine ⟨?_, fun before u after hbefore hafter htext => ?_, fun l hl => ?_⟩
  · rw [← Item.namesOf_datum]
    rfl
  · rw [← Item.namesOf_datum]
    exact roleNames_of_listText (Json.denotes_list_iff.mp htext) hbefore hafter
  · exact Json.denotes_list_iff.mpr (Item.listText_write hl items)

/-- A list with all kinds of items, and with one name twice. -/
def mixed : List Item :=
  [.text "a, b", .number 1 (Nat.one_lt_pow (by decide) (by decide)), .truth true, .null, .text "",
    .text " \"c\\ ", .text "a, b"]

/-- Its text gives the names in it, between a separator and a blank that does not break. -/
theorem roleNames_of_items_mixed :
    Spacing ['\x1c'] ∧ Spacing ['\u00a0'] ∧
      roleNames (.str (String.ofList (['\x1c'] ++
        ((Json.write Json.spaced (.list (mixed.map datum))).toList ++ ['\u00a0'])))) =
        .ok (["a, b", "1", "True", " \"c\\ ", "a, b"].map Text.ofString) := by
  have hbefore : Spacing ['\x1c'] := by decide
  have hafter : Spacing ['\u00a0'] := by decide
  have hnames : names mixed = ["a, b", "1", "True", " \"c\\ ", "a, b"] := by decide
  obtain ⟨-, htext, hwritten⟩ := roleNames_of_items mixed
  have hread := htext _ _ _ hbefore hafter (hwritten _ Json.legible_spaced)
  rw [hnames] at hread
  exact ⟨hbefore, hafter, hread⟩

end FederatedLogin.Directory
