import FederatedLogin.Command.Display
import FederatedLogin.Proofs.Command.Printing
import Mathlib.Data.List.Forall2

/-!
# Which users are shown as they are

The fields of a user stand in markup as they are. A labelled line therefore shows what the markup of
its value stands for (`exec_labelled`), and not the value: a user is shown as it is exactly if the
title can be read and every value is `Faithful`, that is stands for itself (`shownAsIs_iff`). This
holds of all values that leave each line `Narrow`, also of those that name pictures.

A value is faithful if markup finds nothing in it (`Inert`), and for values that name no picture in
no other case. Two ways to miss the value are a tag in it, which is left out, and a closing tag in
it, at which nothing more is printed.
-/

namespace FederatedLogin.Command

open FederatedLogin.Terminal FederatedLogin.Text Printing

/-! ### Users with texts in their fields -/

/-- What is shown of a user, when all of it is text. -/
structure Profile where
  id : String
  email : String
  firstName : String
  lastName : String
  slug : String
  provider : String

namespace Profile

/-- The texts of a user. -/
def texts (v : Profile) : List String :=
  [v.id, v.email, v.firstName, v.lastName, v.slug, v.provider]

/-- The labels and values of a user. -/
def fields (v : Profile) : List (String × String) :=
  [("ID", v.id), ("Email", v.email), ("Name", v.firstName ++ " " ++ v.lastName), ("Role", v.slug),
    ("Provider", v.provider)]

end Profile

/-- The answered user has these texts in its fields. -/
structure Describes (u : Datum) (v : Profile) : Prop where
  id : u.field? "id" = some (.str v.id)
  email : u.field? "email" = some (.str v.email)
  firstName : u.field? "first_name" = some (.str v.firstName)
  lastName : u.field? "last_name" = some (.str v.lastName)
  role : ∃ role, u.field? "role" = some role ∧ role.field? "slug" = some (.str v.slug)
  provider : u.field? "auth_provider" = some (.str v.provider)

/-- A label, filled up with blanks. -/
def padded (label : String) : String :=
  label ++ String.ofList (List.replicate (10 - label.length) ' ')

/-- The line with exactly a label and a value. -/
def exactLine (f : String × String) : String := "  " ++ padded f.1 ++ " " ++ f.2

/-- All texts are printable and not empty, and all lines fit into the output. -/
structure Profile.Fits (v : Profile) : Prop where
  nonempty : ∀ s ∈ v.texts, s ≠ ""
  printable : ∀ s ∈ v.texts, ∀ c ∈ s.toList, ' ' ≤ c ∧ c ≤ '~'
  short : ∀ f ∈ v.fields, (exactLine f).length ≤ outputWidth

/-- The characters are checked by `List.all`, since a quantifier over characters would be decided by
going through all of them. -/
instance (v : Profile) : Decidable v.Fits :=
  decidable_of_iff
    ((∀ s ∈ v.texts, s ≠ "") ∧
      (∀ s ∈ v.texts, s.toList.all fun c => decide (' ' ≤ c ∧ c ≤ '~')) ∧
      ∀ f ∈ v.fields, (exactLine f).length ≤ outputWidth) <| by
    simp only [List.all_eq_true, decide_eq_true_eq]
    exact ⟨fun ⟨nonempty, printable, short⟩ => ⟨nonempty, printable, short⟩,
      fun h => ⟨h.nonempty, h.printable, h.short⟩⟩

/-! ### Labelled lines -/

/-- The code point ends no line and is no tab. -/
def Unbroken (p : CodePoint) : Prop := p ≠ .char '\n' ∧ p ≠ .char '\t'

theorem unbroken_of_printable {p : CodePoint} (h : Printable p) : Unbroken p := by
  constructor <;> rintro rfl <;> exact absurd h (by unfold Printable; decide)

theorem unbroken_of_isSpacing (c : Char) (h : isSpacing c = false) : Unbroken (.char c) := by
  constructor <;> rintro hc <;> obtain rfl := CodePoint.char.inj hc <;> exact absurd h (by decide)

/-- Markup finds nothing in a label. -/
def IsLabel (label : String) : Prop := ∀ p ∈ ofString (padded label), Ordinary p

/-- The six labels are ordinary text, with the blanks that fill them up. -/
theorem isLabel : ∀ label ∈ ["ID", "Email", "Name", "Role", "Provider", "Active"],
    IsLabel label := by
  unfold IsLabel Ordinary Passes Printable
  decide

/-- The markup of a labelled line, along its tags. -/
def labelMarkup (label value : String) : Text :=
  ofString "  " ++ .char '[' :: (ofString "dim" ++ .char ']' :: (ofString (padded label) ++
    .char '[' :: .char '/' :: (ofString "dim" ++ .char ']' :: ofString (" " ++ value))))

/-- A labelled line is printed from its markup. -/
theorem labelled_eq (label value : String) :
    labelled label (ofString value) = say (print (labelMarkup label value)) := by
  have hopening : ofString "  [dim]" =
      ofString "  " ++ .char '[' :: (ofString "dim" ++ [.char ']']) := rfl
  have hclosing : ofString "[/dim] " =
      .char '[' :: .char '/' :: (ofString "dim" ++ .char ']' :: ofString " ") := rfl
  simp only [labelled, labelMarkup, padded, ofString_append, hopening, hclosing, toString,
    List.append_assoc, List.cons_append, List.nil_append]

section Labelled

variable {label value w : String} (hlabel : IsLabel label)
include hlabel

/-- What the markup of a value stands for comes behind its label. -/
theorem toOption_unmarked_labelMarkup (value : String) :
    (unmarked (labelMarkup label value)).toOption =
      (unmarked (ofString (" " ++ value))).toOption.map (ofString ("  " ++ padded label) ++ ·) := by
  have hindent : ∀ p ∈ ofString "  ", Passes p := by
    unfold Passes
    decide
  have hblanks : plainText (ofString "  ") = ofString "  " := by decide
  rw [labelMarkup, toOption_unmarked_enclosed encloses_dim hindent fun p hp => (hlabel p hp).1,
    hblanks, plainText_of_ordinary hlabel]
  simp only [ofString_append, List.append_assoc]

/-- A labelled line shows what the markup of its value stands for, if that fits on the line. -/
theorem exec_labelled (hprintable : ∀ p ∈ ofString (" " ++ value), Printable p)
    (hw : unmarked (ofString (" " ++ value)) = .ok (ofString w))
    (hwidth : width (ofString ("  " ++ padded label ++ w)) ≤ outputWidth)
    (hlength : ("  " ++ padded label ++ w).length ≤ outputWidth) (printed : List String) :
    exec (labelled label (ofString value)) printed =
      (.ok (), printed ++ ["  " ++ padded label ++ w]) := by
  have hmarkup := toOption_unmarked_labelMarkup hlabel value
  rw [toOption_eq_some.mpr hw, Option.map_some, ← ofString_append] at hmarkup
  have hline : ∀ p ∈ ofString ("  " ++ padded label ++ w), Unbroken p := by
    rw [ofString_append, ofString_append]
    simp only [List.forall_mem_append]
    refine ⟨⟨?_, fun p hp => unbroken_of_printable (hlabel p hp).2.1⟩, ?_⟩
    · unfold Unbroken
      decide
    · exact forall_unmarked unbroken_of_isSpacing
        (fun p hp => unbroken_of_printable (hprintable p hp)) hw
  have hlines : wrap outputWidth .fold .none false (ofString ("  " ++ padded label ++ w)) =
      [ofString ("  " ++ padded label ++ w)] := by
    refine wrap_eq_singleton (fun hmem => (hline _ hmem).1 rfl) (fun hmem => (hline _ hmem).2 rfl)
      hwidth ?_
    rwa [ofString, List.length_map, String.length_toList]
  rw [labelled_eq]
  refine exec_say_ok ?_ printed
  rw [print, toOption_eq_some.mp hmarkup]
  exact congrArg Except.ok hlines

/-- A value whose markup cannot be read is not shown. -/
theorem exec_labelled_error (h : ∀ t, unmarked (ofString (" " ++ value)) ≠ .ok t) :
    ∃ c, ∀ printed, exec (labelled label (ofString value)) printed = (.error c, printed) := by
  have hmarkup := toOption_unmarked_labelMarkup hlabel value
  rw [labelled_eq]
  refine exec_say_error fun ls hls => ?_
  obtain ⟨t, ht, -⟩ := map_eq_ok.mp hls
  rw [ht] at hmarkup
  obtain ⟨t', ht', -⟩ := Option.map_eq_some_iff.mp hmarkup.symm
  exact h t' (toOption_eq_some.mp ht')

end Labelled

/-! ### All lines of a user -/

/-- Print labelled lines one after another. -/
def labelEach : List (String × String) → Printing Unit
  | [] => pure ()
  | f :: rest => do
    labelled f.1 (ofString f.2)
    labelEach rest

/-- A label and a printable value that fit on a line. -/
structure Row (f : String × String) : Prop where
  label : IsLabel f.1
  printable : ∀ p ∈ ofString f.2, Printable p
  short : (exactLine f).length ≤ outputWidth

theorem exactLine_eq (f : String × String) :
    exactLine f = "  " ++ padded f.1 ++ (" " ++ f.2) := by
  rw [exactLine, String.append_assoc]

theorem Row.printable_blank {f : String × String} (h : Row f) :
    ∀ p ∈ ofString (" " ++ f.2), Printable p := by
  rw [ofString_append]
  refine List.forall_mem_append.mpr ⟨?_, h.printable⟩
  unfold Printable
  decide

/-- What the markup of a value stands for is the value. -/
def Faithful (f : String × String) : Prop :=
  unmarked (ofString (" " ++ f.2)) = .ok (ofString (" " ++ f.2))

/-- What the markup of a value stands for fits on the line behind its label. -/
def Narrow (f : String × String) : Prop :=
  ∀ w, unmarked (ofString (" " ++ f.2)) = .ok (ofString w) →
    width (ofString ("  " ++ padded f.1 ++ w)) ≤ outputWidth ∧
      ("  " ++ padded f.1 ++ w).length ≤ outputWidth

/-- A line shows what the markup of a value stands for behind its label. -/
def Shows (f : String × String) (line : String) : Prop :=
  ∃ w, unmarked (ofString (" " ++ f.2)) = .ok (ofString w) ∧ line = "  " ++ padded f.1 ++ w

/-- A field is shown exactly when its value stands for itself. -/
theorem shows_exactLine_iff {f : String × String} : Shows f (exactLine f) ↔ Faithful f := by
  constructor
  · rintro ⟨w, hw, hline⟩
    rw [exactLine_eq, String.append_right_inj] at hline
    rwa [← hline] at hw
  · exact fun h => ⟨_, h, exactLine_eq f⟩

/-- Whatever is left of a row fits on a line as the row does. -/
theorem Row.fits_of_sublist {f : String × String} (h : Row f) {line : String}
    (hsub : List.Sublist (ofString line) (ofString (exactLine f))) :
    width (ofString line) ≤ outputWidth ∧ line.length ≤ outputWidth := by
  have hprintable : ∀ p ∈ ofString (exactLine f), Printable p := by
    rw [exactLine_eq, ofString_append, ofString_append]
    simp only [List.forall_mem_append]
    refine ⟨⟨?_, fun p hp => (h.label p hp).2.1⟩, h.printable_blank⟩
    unfold Printable
    decide
  have hexact : (ofString (exactLine f)).length ≤ outputWidth := by
    rw [ofString, List.length_map, String.length_toList]
    exact h.short
  have hlength := hsub.length_le.trans hexact
  refine ⟨?_, ?_⟩
  · rwa [width_eq_length fun p hp => hprintable p (hsub.subset hp)]
  · rwa [ofString, List.length_map, String.length_toList] at hlength

/-- A row that stands for itself is as narrow as it is written. -/
theorem Faithful.narrow {f : String × String} (h : Faithful f) (hrow : Row f) : Narrow f := by
  intro w hw
  obtain rfl := ofString_inj.mp (Except.ok.inj (h.symm.trans hw))
  exact hrow.fits_of_sublist (exactLine_eq f ▸ List.Sublist.refl _)

/-- A row with an inert value stands for itself. -/
theorem Row.faithful_of_inert {f : String × String} (h : Row f) (hinert : Inert (ofString f.2)) :
    Faithful f := by
  have hvalue : Inert (ofString (" " ++ f.2)) := by
    rw [ofString_append]
    exact inert_blank_cons.mpr hinert
  exact hvalue.unmarked_eq h.printable_blank

/-- The blank in front of a value is part of no picture. -/
theorem unpictured_blank {value : String} (h : Unpictured (ofString value)) :
    Unpictured (ofString (" " ++ value)) := by
  rw [ofString_append]
  exact h.blank_cons

section Unpictured

variable {f : String × String} (hrow : Row f) (hnone : Unpictured (ofString f.2))
include hrow hnone

/-- Without pictures a value stands for some of its own characters, so the line does not grow. -/
theorem Row.narrow_of_unpictured : Narrow f := by
  intro w hw
  have hsub := ((unpictured_blank hnone).sublist hw).trans (cut_pieces _).parts_sublist
  rw [List.reverse_nil, List.nil_append] at hsub
  have hline : List.Sublist (ofString ("  " ++ padded f.1 ++ w)) (ofString (exactLine f)) := by
    rw [exactLine_eq, ofString_append, ofString_append _ (" " ++ f.2)]
    exact (List.Sublist.refl _).append hsub
  exact hrow.fits_of_sublist hline

/-- Without pictures only the values in which markup finds nothing stand for themselves. -/
theorem Row.inert_of_faithful (h : Faithful f) : Inert (ofString f.2) := by
  have hinert := (unmarked_eq_self_iff hrow.printable_blank (unpictured_blank hnone)).mp h
  rw [ofString_append] at hinert
  exact inert_blank_cons.mp hinert

end Unpictured

/-- Values are printed line by line, each as what its markup stands for. -/
theorem exec_labelEach_eq_ok_iff {fs : List (String × String)} (hrows : ∀ f ∈ fs, Row f)
    (hnarrow : ∀ f ∈ fs, Narrow f) {printed out : List String} :
    exec (labelEach fs) printed = (.ok (), out) ↔
      ∃ ls, out = printed ++ ls ∧ List.Forall₂ Shows fs ls := by
  induction fs generalizing printed with
  | nil => simp [labelEach, List.forall₂_nil_left_iff, eq_comm]
  | cons f rest ih =>
    obtain ⟨hf, hrest⟩ := List.forall_mem_cons.mp hrows
    obtain ⟨hfirst, hnarrow⟩ := List.forall_mem_cons.mp hnarrow
    rw [labelEach]
    by_cases hread : ∃ w, unmarked (ofString (" " ++ f.2)) = .ok (ofString w)
    · obtain ⟨w, hw⟩ := hread
      obtain ⟨hwidth, hlength⟩ := hfirst w hw
      rw [exec_bind_ok (exec_labelled hf.label hf.printable_blank hw hwidth hlength printed),
        ih hrest hnarrow]
      constructor
      · rintro ⟨ls, rfl, hls⟩
        exact ⟨("  " ++ padded f.1 ++ w) :: ls, by simp, .cons ⟨w, hw, rfl⟩ hls⟩
      · rintro ⟨_, rfl, hall⟩
        obtain ⟨_, ls, ⟨w', hw', rfl⟩, hls, rfl⟩ := List.forall₂_cons_left_iff.mp hall
        obtain rfl := ofString_inj.mp (Except.ok.inj (hw.symm.trans hw'))
        exact ⟨ls, by simp, hls⟩
    · obtain ⟨c, hc⟩ := exec_labelled_error hf.label fun t ht => by
        obtain ⟨w, rfl⟩ := whole_iff.mp ((whole_ofString _).of_unmarked ht)
        exact hread ⟨w, ht⟩
      rw [exec_bind_error (hc printed)]
      refine iff_of_false (fun h => nomatch (Prod.mk.inj h).1) ?_
      rintro ⟨_, -, hall⟩
      obtain ⟨_, _, ⟨w, hw, -⟩, -⟩ := List.forall₂_cons_left_iff.mp hall
      exact hread ⟨w, hw⟩

/-! ### Users -/

/-- The labels and values that are shown of a user. -/
def Profile.rows (v : Profile) (u : Datum) : List (String × String) :=
  v.fields ++ [("Active", if ((u.field? "is_active").getD .null).truthy then "yes" else "no")]

theorem row_active (active : Bool) : Row ("Active", if active then "yes" else "no") := by
  refine ⟨isLabel "Active" (by simp), ?_, ?_⟩
  · unfold Printable
    revert active
    decide
  · revert active
    decide

theorem free_active (active : Bool) : .char '[' ∉ ofString (if active then "yes" else "no") ∧
    .char ':' ∉ ofString (if active then "yes" else "no") := by
  revert active
  decide

/-- The lines of a profile that fits are rows. -/
theorem Profile.Fits.row {v : Profile} (h : v.Fits) (u : Datum) : ∀ f ∈ v.rows u, Row f := by
  have htexts : ∀ s ∈ v.texts, ∀ p ∈ ofString s, Printable p := fun s hs =>
    List.forall_mem_map.mpr (h.printable s hs)
  simp only [texts, List.forall_mem_cons] at htexts
  obtain ⟨hid, hemail, hfirst, hlast, hslug, hprovider, -⟩ := htexts
  have hblank : ∀ p ∈ ofString " ", Printable p := by
    unfold Printable
    decide
  have hname : ∀ p ∈ ofString (v.firstName ++ " " ++ v.lastName), Printable p := by
    rw [ofString_append, ofString_append]
    exact List.forall_mem_append.mpr ⟨List.forall_mem_append.mpr ⟨hfirst, hblank⟩, hlast⟩
  have hshort := h.short
  simp only [fields, List.forall_mem_cons] at hshort
  obtain ⟨sid, semail, sname, sslug, sprovider, -⟩ := hshort
  refine List.forall_mem_append.mpr ⟨?_, List.forall_mem_singleton.mpr (row_active _)⟩
  simp only [fields, List.forall_mem_cons]
  exact ⟨⟨isLabel "ID" (by simp), hid, sid⟩, ⟨isLabel "Email" (by simp), hemail, semail⟩,
    ⟨isLabel "Name" (by simp), hname, sname⟩, ⟨isLabel "Role" (by simp), hslug, sslug⟩,
    ⟨isLabel "Provider" (by simp), hprovider, sprovider⟩, List.forall_mem_nil _⟩

theorem Profile.Fits.row_of_mem {v : Profile} (h : v.Fits) {f : String × String}
    (hf : f ∈ v.fields) : Row f :=
  h.row .null f (List.mem_append_left _ hf)

theorem fieldOf_eq {u d : Datum} {name : String} (h : u.field? name = some d) :
    fieldOf u name = pure d := by
  cases u with
  | record entries => rw [fieldOf, h]; rfl
  | null | bool | int | float | text | bytes | list => exact absurd h nofun

/-- A field that may be missing is read as null. -/
theorem fieldOf_getD {u d : Datum} {name : String} (h : u.field? name = some d) (name' : String) :
    fieldOf u name' = pure ((u.field? name').getD .null) := by
  cases u with
  | record entries => rfl
  | null | bool | int | float | text | bytes | list => exact absurd h nofun

/-- An answer with a field is not empty. -/
theorem truthy_of_field? {u d : Datum} {name : String} (h : u.field? name = some d) :
    u.truthy = true := by
  cases u with
  | record entries =>
    cases entries with
    | nil => exact absurd h nofun
    | cons => rfl
  | null | bool | int | float | text | bytes | list => exact absurd h nofun

theorem truthy_str {s : String} (h : s ≠ "") : (Datum.str s).truthy = true := by
  simpa [Datum.str, Datum.truthy, ofString] using h

theorem display_str (s : String) : (Datum.str s).display = ofString s := rfl

/-- The user of a login is shown as a title and labelled lines. -/
theorem Describes.showUser_eq {u : Datum} {v : Profile} (h : Describes u v) (hv : v.Fits) :
    showUser u = (say (rule (ofString "[bold cyan]User — " ++ ofString v.email)) >>= fun _ =>
      labelEach (v.rows u)) := by
  obtain ⟨role, hrole, hslug⟩ := h.role
  have hfirst := truthy_str (hv.nonempty v.firstName (by simp [Profile.texts]))
  have hlast := truthy_str (hv.nonempty v.lastName (by simp [Profile.texts]))
  have hname : joinedTexts 0 ([Datum.str v.firstName, Datum.str v.lastName].filter Datum.truthy) =
      .ok (ofString (v.firstName ++ " " ++ v.lastName)) := by
    rw [List.filter_cons_of_pos hfirst, List.filter_cons_of_pos hlast, ofString_append,
      ofString_append, List.append_assoc]
    rfl
  have hshown : orDash (ofString (v.firstName ++ " " ++ v.lastName)) =
      ofString (v.firstName ++ " " ++ v.lastName) := by
    rw [orDash, if_neg (by simp [ofString])]
  simp only [showUser, fieldOf_eq h.email, fieldOf_eq h.id, fieldOf_eq h.firstName,
    fieldOf_eq h.lastName, fieldOf_eq hrole, fieldOf_eq hslug, fieldOf_eq h.provider,
    fieldOf_getD h.id "is_active", truthy_of_field? hslug, if_pos, hname, of, pure_bind,
    hshown, display_str, Profile.rows, Profile.fields, List.cons_append, List.nil_append, labelEach,
    bind_pure_unit]

theorem encloses_boldCyan : Encloses (ofString "bold cyan") where
  begins := fun _ => rfl
  ends := fun _ => rfl
  plain := by decide
  opening := nofun
  trimmed := by decide
  styled := exists_styleName (by unfold Unnumbered; decide)

/-- The title with the address of a user can be printed. -/
def Profile.Titled (v : Profile) : Prop :=
  ∃ title : List String,
    rule (ofString "[bold cyan]User — " ++ ofString v.email) = .ok (title.map ofString)

/-- That is so if no tag begins in the address. -/
theorem titled_of_tagless {v : Profile} (h : Tagless (ofString v.email)) : v.Titled := by
  have hopening : ofString "[bold cyan]User — " ++ ofString v.email =
      .char '[' ::
        (ofString "bold cyan" ++ .char ']' :: (ofString "User — " ++ ofString v.email)) :=
    rfl
  have htagless : Tagless (ofString "User — " ++ ofString v.email) :=
    (tagless_append (by decide)).mpr h
  obtain ⟨lines, hlines⟩ : ∃ lines,
      rule (ofString "[bold cyan]User — " ++ ofString v.email) = .ok lines := by
    rw [hopening, rule, unmarked_opened encloses_boldCyan htagless]
    exact ⟨_, rfl⟩
  have hwhole := whole_append.mpr ⟨whole_ofString "[bold cyan]User — ", whole_ofString v.email⟩
  obtain ⟨title, rfl⟩ := forall_whole_iff.mp (hwhole.rule hlines)
  exact ⟨title, hlines⟩

/-- The command shows the user without a crash, with exactly the texts of its fields behind their
labels. -/
def ShownAsIs (u : Datum) (v : Profile) : Prop :=
  ∃ title, run (showUser u) = (.ok (), title ++ (v.rows u).map exactLine)

section Shown

variable {u : Datum} {v : Profile} (h : Describes u v) (hv : v.Fits)
include h hv

/-- A user is shown as it is exactly if the title can be read and all values stand for themselves. -/
theorem shownAsIs_iff (hnarrow : ∀ f ∈ v.fields, Narrow f) :
    ShownAsIs u v ↔ v.Titled ∧ ∀ f ∈ v.fields, Faithful f := by
  have hrows := hv.row u
  have hactive : Faithful ("Active",
      if ((u.field? "is_active").getD .null).truthy then "yes" else "no") :=
    (row_active _).faithful_of_inert (inert_of_notMem (free_active _).1 (free_active _).2)
  have hnarrows : ∀ f ∈ v.rows u, Narrow f :=
    List.forall_mem_append.mpr
      ⟨hnarrow, List.forall_mem_singleton.mpr (hactive.narrow (row_active _))⟩
  have hexact : List.Forall₂ Shows (v.rows u) ((v.rows u).map exactLine) ↔
      ∀ f ∈ v.fields, Faithful f := by
    rw [List.forall₂_map_right_iff, List.forall₂_same]
    simp only [shows_exactLine_iff]
    exact List.forall_mem_append.trans
      (and_iff_left (List.forall_mem_singleton.mpr hactive))
  rw [← hexact, ShownAsIs, run_eq, h.showUser_eq hv]
  constructor
  · rintro ⟨title, hrun⟩
    by_cases htitled : v.Titled
    · obtain ⟨ls, hls⟩ := htitled
      rw [exec_bind_ok (exec_say_ok hls []), exec_labelEach_eq_ok_iff hrows hnarrows] at hrun
      obtain ⟨out, hout, hlines⟩ := hrun
      -- Each row prints one line, so the rows are the last lines, however long the title is.
      have hlength : ((v.rows u).map exactLine).length = out.length := by
        rw [List.length_map, hlines.length_eq]
      obtain rfl := (List.append_inj' hout hlength).2
      exact ⟨⟨ls, hls⟩, hlines⟩
    · obtain ⟨c, hc⟩ := exec_say_error (not_exists.mp htitled)
      rw [exec_bind_error (hc [])] at hrun
      cases (Prod.mk.inj hrun).1
  · rintro ⟨⟨title, htitle⟩, hlines⟩
    refine ⟨title, ?_⟩
    rw [exec_bind_ok (exec_say_ok htitle []), exec_labelEach_eq_ok_iff hrows hnarrows]
    exact ⟨_, rfl, hlines⟩

/-- Inert values are shown as they are. -/
theorem shownAsIs_of_inert (hinert : ∀ f ∈ v.fields, Inert (ofString f.2)) : ShownAsIs u v := by
  have hemail := hinert ("Email", v.email) (by simp [Profile.fields])
  have hfaithful : ∀ f ∈ v.fields, Faithful f := fun f hf =>
    (hv.row_of_mem hf).faithful_of_inert (hinert f hf)
  have hnarrow : ∀ f ∈ v.fields, Narrow f := fun f hf => (hfaithful f hf).narrow (hv.row_of_mem hf)
  exact (shownAsIs_iff h hv hnarrow).mpr ⟨titled_of_tagless hemail.tagless, hfaithful⟩

/-- Without pictures only inert values are shown as they are. -/
theorem inert_of_shownAsIs (hnone : ∀ f ∈ v.fields, Unpictured (ofString f.2))
    (hshown : ShownAsIs u v) : ∀ f ∈ v.fields, Inert (ofString f.2) := by
  have hnarrow : ∀ f ∈ v.fields, Narrow f := fun f hf =>
    (hv.row_of_mem hf).narrow_of_unpictured (hnone f hf)
  have hfaithful := ((shownAsIs_iff h hv hnarrow).mp hshown).2
  exact fun f hf => (hv.row_of_mem hf).inert_of_faithful (hnone f hf) (hfaithful f hf)

end Shown

/-- A user whose fields are printable texts that fit into the output is shown as it is, without a
crash, if markup finds nothing in the values: no tag, no backslash in front of a bracket and no name
of a picture. If no picture is named in the values, this is the only case. Whatever is named, if
what the values stand for fits on the lines, the user is shown as it is exactly if the title can be
read and the values stand for themselves. -/
theorem showUser_outcome {u : Datum} {v : Profile} (h : Describes u v) (hv : v.Fits) :
    ((∀ f ∈ v.fields, Inert (ofString f.2)) → ShownAsIs u v) ∧
      ((∀ f ∈ v.fields, Unpictured (ofString f.2)) → ShownAsIs u v →
        ∀ f ∈ v.fields, Inert (ofString f.2)) ∧
      ((∀ f ∈ v.fields, Narrow f) →
        (ShownAsIs u v ↔ v.Titled ∧ ∀ f ∈ v.fields, Faithful f)) :=
  ⟨shownAsIs_of_inert h hv, inert_of_shownAsIs h hv, shownAsIs_iff h hv⟩

/-- An answered user with these texts. -/
def Profile.answered (v : Profile) : Datum :=
  .object [("id", .str v.id), ("email", .str v.email), ("first_name", .str v.firstName),
    ("last_name", .str v.lastName), ("role", .object [("slug", .str v.slug)]),
    ("auth_provider", .str v.provider), ("is_active", .bool true)]

theorem field?_object_cons (first name : String) (d : Datum) (rest : List (String × Datum)) :
    (Datum.object ((first, d) :: rest)).field? name =
      if first = name then some d else (Datum.object rest).field? name := by
  by_cases h : first = name <;> simp [Datum.object, Datum.field?, Datum.lookup, ofString_inj, h]

theorem describes_answered (v : Profile) : Describes v.answered v where
  id := by simp [Profile.answered, field?_object_cons]
  email := by simp [Profile.answered, field?_object_cons]
  firstName := by simp [Profile.answered, field?_object_cons]
  lastName := by simp [Profile.answered, field?_object_cons]
  role := ⟨.object [("slug", .str v.slug)], by simp [Profile.answered, field?_object_cons],
    by simp [field?_object_cons]⟩
  provider := by simp [Profile.answered, field?_object_cons]

/-- A user without brackets and colons. -/
def ada : Profile := ⟨"u-1", "ada@example.org", "Ada", "Lovelace", "member", "oidc"⟩

/-- A user whose address begins with a tag. -/
def tagged : Profile := { ada with email := "[b]ada@example.org" }

theorem fits_ada : ada.Fits := by decide +kernel

theorem fits_tagged : tagged.Fits := by decide +kernel

/-- Ada is shown as she is. -/
theorem showUser_outcome_ada :
    Describes ada.answered ada ∧ ada.Fits ∧ ShownAsIs ada.answered ada := by
  refine ⟨describes_answered ada, fits_ada,
    (showUser_outcome (describes_answered ada) fits_ada).1 fun f hf => ?_⟩
  have hfree : ∀ f ∈ ada.fields, .char '[' ∉ ofString f.2 ∧ .char ':' ∉ ofString f.2 := by decide
  exact inert_of_notMem (hfree f hf).1 (hfree f hf).2

/-- The tag in the address is not shown. -/
theorem not_shownAsIs_tagged :
    Describes tagged.answered tagged ∧ tagged.Fits ∧ ¬ShownAsIs tagged.answered tagged := by
  refine ⟨describes_answered tagged, fits_tagged, fun h => ?_⟩
  have hfree : ∀ f ∈ tagged.fields, .char ':' ∉ ofString f.2 := by decide
  have hinert := inert_of_shownAsIs (describes_answered tagged) fits_tagged
    (fun f hf => unpictured_of_notMem (hfree f hf)) h
  have htag := (hinert ("Email", tagged.email) (by simp [Profile.fields])).tagless _ List.suffix_rfl
  exact absurd htag (by decide)

end FederatedLogin.Command
