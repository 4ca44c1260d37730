import FederatedLogin.Proofs.Results
import FederatedLogin.Terminal.Markup

/-!
# What markup stands for

`Cut` says how a text is cut into pieces, one constructor for each way to go on: to the end, past
what begins no tag, past a tag after an odd number of backslashes, and past a tag. `pieces` cuts a
text like that (`cut_pieces`), and everything below is an induction on the cut.

A text without tags is one piece (`Cut.of_tagless`) and so stands for its plain text. The text
between a tag and the tag that closes it is read as a text by itself
(`toOption_unmarked_enclosed`). Whether a text stands for itself is decided by `Inert`: it holds no
tag, no backslash in front of a bracket and no name of a picture. Of the texts that name no picture
anywhere (`Unpictured`), no others stand for themselves (`unmarked_eq_self_iff`), because tags and
backslashes make a text shorter.
-/

namespace FederatedLogin.Terminal

open FederatedLogin.Text

variable {t s rest body after name a b u : Text} {got : List CodePoint} {ps : List Piece}
  {position fuel : Nat} {opened : List Text} {p : CodePoint} {word : List Char}
  {ws : List (List Char)}

theorem ofString_append (s s' : String) : ofString (s ++ s') = ofString s ++ ofString s' := by
  rw [ofString, String.toList_append, List.map_append]
  rfl

/-! ### Tags -/

/-- What is read up to the closing bracket stands before it in the text. -/
theorem bracketed?_eq_some (h : bracketed? got t = some (body, after)) :
    ∃ inside, body = got.reverse ++ inside ∧ t = inside ++ .char ']' :: after := by
  fun_induction bracketed? got t with
  | case1 => exact absurd h nofun
  | case2 got rest =>
    obtain ⟨rfl, rfl⟩ := Prod.mk.inj (Option.some.inj h)
    exact ⟨[], (List.append_nil _).symm, rfl⟩
  | case3 => exact absurd h nofun
  | case4 got p rest _ _ ih =>
    obtain ⟨inside, rfl, rfl⟩ := ih h
    exact ⟨p :: inside, by simp, rfl⟩

/-- A tag stands between brackets. -/
theorem eq_of_tagAt? (h : tagAt? t = some (body, after)) :
    t = .char '[' :: (body ++ .char ']' :: after) := by
  rw [tagAt?.eq_def] at h
  split at h
  · split at h
    · obtain ⟨inside, rfl, rfl⟩ := bracketed?_eq_some h
      rfl
    · exact absurd h nofun
  · exact absurd h nofun

theorem tagAt?_of_ne (h : p ≠ .char '[') : tagAt? (p :: rest) = none := by
  rw [tagAt?]
  exact fun q s hq => h (List.cons.inj hq).1

/-- No tag begins anywhere in a text. -/
def Tagless (t : Text) : Prop := ∀ s, s <:+ t → tagAt? s = none

theorem Tagless.of_suffix (h : Tagless t) (hs : s <:+ t) : Tagless s :=
  fun u hu => h u (hu.trans hs)

theorem tagless_nil : Tagless [] := by
  rintro s hs
  rw [List.suffix_nil.mp hs]
  rfl

theorem tagless_cons : Tagless (p :: t) ↔ tagAt? (p :: t) = none ∧ Tagless t := by
  constructor
  · exact fun h => ⟨h _ List.suffix_rfl, h.of_suffix (List.suffix_cons p t)⟩
  · rintro ⟨hfirst, hrest⟩ s hs
    rcases List.suffix_cons_iff.mp hs with rfl | hs
    · exact hfirst
    · exact hrest s hs

/-- What holds no bracket begins no tag, whatever follows. -/
theorem tagless_append (ha : .char '[' ∉ a) : Tagless (a ++ t) ↔ Tagless t := by
  induction a with
  | nil => rfl
  | cons p a ih =>
    obtain ⟨hp, ha⟩ := List.ne_and_not_mem_of_not_mem_cons ha
    rw [List.cons_append, tagless_cons, ih ha, and_iff_right (tagAt?_of_ne hp.symm)]

theorem tagless_of_notMem (ht : .char '[' ∉ t) : Tagless t := by
  have h := (tagless_append (t := []) ht).mpr tagless_nil
  rwa [List.append_nil] at h

/-! ### Cutting a text into pieces -/

/-- The backslashes at the beginning of a text. -/
def slashes (t : Text) : Text := t.takeWhile (· == .char '\\')

/-- How a text is cut into pieces from a position on; `got` is the plain text before it,
reversed. -/
inductive Cut : Nat → List CodePoint → Text → List Piece → Prop
  | done (position : Nat) (got : List CodePoint) : Cut position got [] (plainPiece got.reverse)
  | pass {position : Nat} {got : List CodePoint} {t : Text} {ps : List Piece} (ne : t ≠ [])
      (free : tagAt? (t.drop (slashes t).length) = none)
      (next : Cut (position + (t.take (max (slashes t).length 1)).length)
        ((t.take (max (slashes t).length 1)).reverse ++ got)
        (t.drop (max (slashes t).length 1)) ps) :
      Cut position got t ps
  | escaped {position : Nat} {got : List CodePoint} {t body after : Text} {ps : List Piece}
      (found : tagAt? (t.drop (slashes t).length) = some (body, after))
      (odd : (slashes t).length % 2 = 1)
      (next : Cut (position + (slashes t).length + body.length + 2) [] after ps) :
      Cut position got t (plainPiece got.reverse ++
        plainPiece ((slashes t).take ((slashes t).length / 2)) ++
          .plain (.char '[' :: (body ++ [.char ']'])) :: ps)
  | tag {position : Nat} {got : List CodePoint} {t body after : Text} {ps : List Piece}
      (found : tagAt? (t.drop (slashes t).length) = some (body, after))
      (even : (slashes t).length % 2 ≠ 1)
      (next : Cut (position + (slashes t).length + body.length + 2) [] after ps) :
      Cut position got t (plainPiece got.reverse ++
        plainPiece ((slashes t).take ((slashes t).length / 2)) ++
          .tag (position + (slashes t).length) (splitParameters [] body).1
            (splitParameters [] body).2 :: ps)

theorem slashes_append_drop (t : Text) : slashes t ++ t.drop (slashes t).length = t :=
  List.prefix_iff_eq_append.mp (List.takeWhile_prefix _)

theorem notMem_slashes : .char '[' ∉ slashes t := fun h => by
  simpa using List.all_eq_true.mp List.all_takeWhile _ h

/-- What a text is made of that begins with backslashes and a tag. -/
theorem eq_of_found (h : tagAt? (t.drop (slashes t).length) = some (body, after)) :
    t = slashes t ++ .char '[' :: (body ++ .char ']' :: after) := by
  rw [← eq_of_tagAt? h, slashes_append_drop]

/-- The text shrinks by the backslashes, the two brackets and what they enclose. -/
theorem length_of_found (h : tagAt? (t.drop (slashes t).length) = some (body, after)) :
    t.length = (slashes t).length + (body.length + 2 + after.length) := by
  have hlength := congrArg List.length (eq_of_found h)
  simp only [List.length_append, List.length_cons] at hlength
  omega

/-- Fuel for every code point is enough for the cutting to follow the relation `Cut`. -/
theorem cut_piecesFrom (hfuel : t.length ≤ fuel) :
    Cut position got t (piecesFrom position got fuel t) := by
  induction fuel generalizing position got t with
  | zero =>
    obtain rfl := List.length_eq_zero_iff.mp (Nat.le_zero.mp hfuel)
    rw [piecesFrom, List.append_nil]
    exact .done position got
  | succ fuel ih =>
    cases t with
    | nil =>
      rw [piecesFrom]
      · exact .done position got
      · exact nofun
    | cons p rest =>
      rw [piecesFrom]
      split
      · rename_i body after found
        have hlength := length_of_found (t := p :: rest) found
        -- A tag takes two brackets at least, so the fuel lasts for what follows.
        have hafter : after.length ≤ fuel := by omega
        split
        · exact .escaped found ‹_› (ih hafter)
        · exact .tag found ‹_› (ih hafter)
      · rename_i free
        refine .pass (List.cons_ne_nil p rest) free (ih ?_)
        rw [List.length_drop]
        omega

theorem cut_pieces (t : Text) : Cut 0 [] t (pieces t) := cut_piecesFrom (Nat.le_refl _)

/-- A text without tags is one piece. -/
theorem Cut.of_tagless (h : Cut position got t ps) (ht : Tagless t) :
    ps = plainPiece (got.reverse ++ t) := by
  induction h with
  | done => rw [List.append_nil]
  | pass _ _ _ ih =>
    rw [ih (ht.of_suffix (List.drop_suffix _ _)), List.reverse_append, List.reverse_reverse,
      List.append_assoc, List.take_append_drop]
  | escaped found | tag found =>
    rw [ht _ (List.drop_suffix _ _)] at found
    exact absurd found nofun

/-- A code point that is neither a bracket nor a backslash is passed over. -/
def Passes (p : CodePoint) : Prop := p ≠ .char '[' ∧ p ≠ .char '\\'

theorem slashes_cons_of_ne (h : p ≠ .char '\\') : slashes (p :: rest) = [] := by
  rw [slashes, List.takeWhile_cons_of_neg (by simpa using h)]

/-- Code points that are passed over only join what has been gathered. -/
theorem Cut.of_append (h : Cut position got (a ++ rest) ps) (ha : ∀ p ∈ a, Passes p) :
    ∃ position', Cut position' (a.reverse ++ got) rest ps := by
  induction a generalizing position got with
  | nil => exact ⟨position, h⟩
  | cons p a ih =>
    obtain ⟨⟨hopen, hslash⟩, ha⟩ := List.forall_mem_cons.mp ha
    have hnone : slashes (p :: a ++ rest) = [] := slashes_cons_of_ne hslash
    have hfree : tagAt? ((p :: a ++ rest).drop (slashes (p :: a ++ rest)).length) = none := by
      rw [hnone]
      exact tagAt?_of_ne hopen
    generalize htext : p :: a ++ rest = t at h hnone hfree
    -- No tag begins here and no backslash stands here, so the cut takes this one code point.
    cases h with
    | done => exact absurd htext nofun
    | escaped found | tag found =>
      rw [hfree] at found
      exact absurd found nofun
    | pass _ _ next =>
      subst htext
      rw [hnone] at next
      obtain ⟨position', hcut⟩ := ih next ha
      exact ⟨position', by simpa using hcut⟩

/-- A tag at the beginning becomes a piece. -/
theorem Cut.of_tagAt? (h : Cut position got t ps) (htag : tagAt? t = some (body, after)) :
    ∃ start position' qs, ps = plainPiece got.reverse ++
        .tag start (splitParameters [] body).1 (splitParameters [] body).2 :: qs ∧
      Cut position' [] after qs := by
  have hnone : slashes t = [] := by
    rw [eq_of_tagAt? htag]
    exact slashes_cons_of_ne (by decide)
  cases h with
  | done => exact absurd htag nofun
  | pass _ free =>
    rw [hnone] at free
    exact absurd (htag.symm.trans free) nofun
  | escaped _ odd =>
    rw [hnone] at odd
    exact absurd odd (by decide)
  | tag found _ next =>
    rw [hnone] at found
    obtain ⟨rfl, rfl⟩ := Prod.mk.inj (Option.some.inj (htag.symm.trans found))
    exact ⟨position + (slashes t).length, _, _, by simp [hnone, plainPiece], next⟩

/-! ### What the pieces stand for -/

@[simp]
theorem toOption_map {ε α β : Type} (x : Except ε α) (f : α → β) :
    (x.map f).toOption = x.toOption.map f := by
  cases x <;> rfl

@[simp]
theorem toOption_bind {ε α β : Type} (x : Except ε α) (f : α → Except ε β) :
    (x >>= f).toOption = x.toOption.bind fun a => (f a).toOption := by
  cases x <;> rfl

theorem toOption_eq_some {ε α : Type} {x : Except ε α} {c : α} :
    x.toOption = some c ↔ x = .ok c := by
  cases x <;> simp [Except.toOption]

/-- A plain piece stands for its text wherever styles are open. -/
theorem textOf_plainPiece (opened : List Text) (t : Text) (ps : List Piece) :
    textOf opened (plainPiece t ++ ps) = (textOf opened ps).map (plainText t ++ ·) := by
  rcases t with _ | ⟨p, t⟩
  · cases h : textOf opened ps <;> simp [plainPiece, h, Except.map, plainText, unescapeBrackets,
      withPictures, withPicturesFrom]
  · rfl

/-- The open styles after a tag, if the tag can be read. -/
def afterTag? (opened : List Text) : Text → Option (List Text)
  | .char '/' :: closed =>
    if (trimSpacing closed).isEmpty then opened.tail?
    else (styleName (trimSpacing closed)).toOption.bind fun style =>
      if opened.contains style then some (opened.erase style) else none
  | name => (styleName name).toOption.map (· :: opened)

/-- A tag adds no text; whether it can be read depends on the open styles. -/
theorem toOption_textOf_tag (opened : List Text) (position : Nat) (name : Text)
    (parameters : Option Text) (ps : List Piece) :
    (textOf opened (.tag position name parameters :: ps)).toOption =
      (afterTag? opened name).bind fun opened => (textOf opened ps).toOption := by
  by_cases hclosing : ∃ closed, name = .char '/' :: closed
  · obtain ⟨closed, rfl⟩ := hclosing
    simp only [textOf, afterTag?]
    split
    · cases opened <;> rfl
    · rw [toOption_bind, Option.bind_assoc]
      refine congrArg _ (funext fun style => ?_)
      split <;> rfl
  · have hopening : ∀ closed, name = .char '/' :: closed → False := not_exists.mp hclosing
    rw [textOf, afterTag?, toOption_bind, Option.bind_map]
    · rfl
    · exact hopening
    · exact hopening

/-- The position of a text makes no difference to what it stands for. -/
theorem Cut.toOption_textOf {position' : Nat} {ps' : List Piece} (h : Cut position got t ps)
    (h' : Cut position' got t ps') (opened : List Text) :
    (textOf opened ps).toOption = (textOf opened ps').toOption := by
  induction h generalizing position' ps' opened with
  | done =>
    cases h' with
    | done => rfl
    | pass ne => exact absurd rfl ne
    | escaped found | tag found => exact absurd found nofun
  | pass ne free _ ih =>
    cases h' with
    | done => exact absurd rfl ne
    | pass _ _ next => exact ih next opened
    | escaped found | tag found => exact absurd (free.symm.trans found) nofun
  | escaped found odd _ ih =>
    cases h' with
    | done => exact absurd found nofun
    | pass _ free => exact absurd (free.symm.trans found) nofun
    | tag _ even => exact absurd odd even
    | escaped found' _ next =>
      obtain ⟨rfl, rfl⟩ := Prod.mk.inj (Option.some.inj (found.symm.trans found'))
      simp [List.append_assoc, textOf_plainPiece, textOf, ih next opened]
  | tag found even _ ih =>
    cases h' with
    | done => exact absurd found nofun
    | pass _ free => exact absurd (free.symm.trans found) nofun
    | escaped _ odd => exact absurd odd even
    | tag found' _ next =>
      obtain ⟨rfl, rfl⟩ := Prod.mk.inj (Option.some.inj (found.symm.trans found'))
      simp [List.append_assoc, textOf_plainPiece, toOption_textOf_tag, ih next]

/-- A text without tags stands for its plain text. -/
theorem unmarked_of_tagless (h : Tagless t) : unmarked t = .ok (plainText t) := by
  have hpieces := (cut_pieces t).of_tagless h
  rw [List.reverse_nil, List.nil_append] at hpieces
  have htext := textOf_plainPiece [] t []
  rw [List.append_nil] at htext
  rw [unmarked, hpieces, htext]
  simp [textOf, Except.map]

/-! ### Styles -/

/-- No word is a colour given by three numbers. -/
def Unnumbered (ws : List (List Char)) : Prop :=
  ∀ w ∈ ws, between? "rgb(" ")" (lowerChars w) = none

theorem Unnumbered.tail (h : Unnumbered (word :: ws)) : Unnumbered ws :=
  fun w hw => h w (List.mem_cons_of_mem word hw)

/-- After a word that is no numbered colour, the reading fails only where its continuation does. -/
theorem Style.exists_after_colour {x : Except NumberFault (Option Style)}
    (hword : between? "rgb(" ")" (lowerChars word) = none) (hx : ∃ read, x = .ok read) :
    ∃ read, (do if ← colour? (lowerChars word) then x else return none) = .ok read := by
  have hcolour : colour? (lowerChars word) = .ok (isColour (lowerChars word)) := by
    rw [colour?, hword]
  obtain ⟨read, rfl⟩ := hx
  rw [hcolour]
  rcases isColour (lowerChars word) with _ | _
  · exact ⟨none, rfl⟩
  · exact ⟨read, rfl⟩

/-- Words without colours given by numbers can be read, whether they make a style or not. -/
theorem Style.exists_readWords (h : Unnumbered ws) (style : Style) :
    ∃ read, style.readWords ws = .ok read := by
  fun_induction Style.readWords style ws with
  | case1 | case2 | case4 | case6 | case7 => exact ⟨_, rfl⟩
  | case3 _ _ _ _ _ _ ih => exact exists_after_colour (h.tail _ List.mem_cons_self) (ih h.tail.tail)
  | case5 _ _ _ _ _ _ _ _ _ ih => exact ih h.tail.tail
  | case8 _ _ _ _ _ _ _ _ ih => exact ih h.tail.tail
  | case9 _ _ _ _ _ _ _ _ _ ih => exact ih h.tail
  | case10 _ _ _ _ _ _ _ _ ih => exact exists_after_colour (h _ List.mem_cons_self) (ih h.tail)

/-- A tag whose words name no colour by numbers has a style name. -/
theorem exists_styleName {w : List Char} (h : Unnumbered (words w)) :
    ∃ style, styleName (w.map .char) = .ok style := by
  have hread : ∃ read, Style.read w = .ok read := by
    rw [Style.read]
    split
    · exact ⟨_, rfl⟩
    · exact Style.exists_readWords h {}
  have hname : ∃ style, Style.name w = .ok style := by
    obtain ⟨read, hread⟩ := hread
    simp only [Style.name, hread, bind, Except.bind]
    rcases read with _ | style <;> exact ⟨_, rfl⟩
  obtain ⟨style, hname⟩ := hname
  exact ⟨style.map .char, by simp [styleName, chars?_map_char, hname, Except.map]⟩

/-- A name opens and closes a style. -/
structure Encloses (name : Text) : Prop where
  begins : ∀ after, tagAt? (.char '[' :: (name ++ .char ']' :: after)) = some (name, after)
  ends : ∀ after, tagAt? (.char '[' :: .char '/' :: (name ++ .char ']' :: after)) =
    some (.char '/' :: name, after)
  plain : (splitParameters [] name).1 = name ∧
    (splitParameters [] (.char '/' :: name)).1 = .char '/' :: name
  opening : ∀ closed, name ≠ .char '/' :: closed
  trimmed : trimSpacing name = name
  styled : ∃ style, styleName name = .ok style

/-- The pair of tags in which an unconfigured provider is reported. -/
theorem encloses_dim : Encloses (ofString "dim") where
  begins := fun _ => rfl
  ends := fun _ => rfl
  plain := by decide
  opening := nofun
  trimmed := by decide
  styled := exists_styleName (by unfold Unnumbered; decide)

/-- The pair of tags in which a refused mapping is reported. -/
theorem encloses_red : Encloses (ofString "red") where
  begins := fun _ => rfl
  ends := fun _ => rfl
  plain := by decide
  opening := nofun
  trimmed := by decide
  styled := exists_styleName (by unfold Unnumbered; decide)

/-- The opening tag pushes one style and the closing tag takes it away again. -/
theorem Encloses.exists_style (h : Encloses name) : ∃ style,
    afterTag? [] name = some [style] ∧ afterTag? [style] (.char '/' :: name) = some [] := by
  obtain ⟨style, hstyle⟩ := h.styled
  have hne : name ≠ [] := fun hname => absurd (hname ▸ h.begins []) nofun
  refine ⟨style, ?_, ?_⟩
  · rw [afterTag?, hstyle]
    · rfl
    · exact h.opening
  · rw [afterTag?, h.trimmed, if_neg (by simpa using hne), hstyle]
    simp [Except.toOption]

/-- The text between a tag and the one that closes it is read by itself, and so is what follows. -/
theorem toOption_unmarked_enclosed (hname : Encloses name) (ha : ∀ p ∈ a, Passes p)
    (hb : ∀ p ∈ b, Passes p) (rest : Text) :
    (unmarked (a ++ .char '[' :: (name ++ .char ']' ::
      (b ++ .char '[' :: .char '/' :: (name ++ .char ']' :: rest))))).toOption =
      (unmarked rest).toOption.map fun t => plainText a ++ (plainText b ++ t) := by
  obtain ⟨style, hopen, hclose⟩ := hname.exists_style
  -- Cut along `a`, the opening tag, `b` and the closing tag; a cut of `rest` is left.
  obtain ⟨_, hcut⟩ := (cut_pieces _).of_append ha
  obtain ⟨start, _, ps, hps, hcut⟩ := hcut.of_tagAt? (hname.begins _)
  obtain ⟨_, hcut⟩ := hcut.of_append hb
  obtain ⟨start', _, qs, hqs, hcut⟩ := hcut.of_tagAt? (hname.ends _)
  have hrest := hcut.toOption_textOf (cut_pieces rest) []
  rw [hname.plain.1] at hps
  rw [hname.plain.2] at hqs
  rw [unmarked, hps, hqs]
  simp [textOf_plainPiece, toOption_textOf_tag, hopen, hclose, hrest, unmarked, Function.comp_def]

/-- The case of `toOption_unmarked_enclosed` with nothing before the tag. -/
theorem toOption_unmarked_tagged (hname : Encloses name) (hb : ∀ p ∈ b, Passes p) (rest : Text) :
    (unmarked (.char '[' :: (name ++ .char ']' ::
      (b ++ .char '[' :: .char '/' :: (name ++ .char ']' :: rest))))).toOption =
      (unmarked rest).toOption.map (plainText b ++ ·) :=
  toOption_unmarked_enclosed (a := []) hname nofun hb rest

/-- A text without tags stands for its plain text also behind a tag that is left open. -/
theorem unmarked_opened (hname : Encloses name) (ht : Tagless t) :
    unmarked (.char '[' :: (name ++ .char ']' :: t)) = .ok (plainText t) := by
  obtain ⟨style, hopen, _⟩ := hname.exists_style
  obtain ⟨start, _, ps, hps, hcut⟩ := (cut_pieces _).of_tagAt? (hname.begins t)
  have htail : (textOf [style] ps).toOption = some (plainText t) := by
    have htext := textOf_plainPiece [style] t []
    rw [List.append_nil] at htext
    rw [hcut.of_tagless ht, List.reverse_nil, List.nil_append, htext]
    simp [textOf, Except.map, Except.toOption]
  rw [hname.plain.1] at hps
  rw [← toOption_eq_some, unmarked, hps]
  have htag := toOption_textOf_tag [] start name (splitParameters [] name).2 ps
  rw [hopen, Option.bind_some, htail] at htag
  exact htag

/-! ### Texts that stand for themselves -/

/-- No picture is named where there is no colon. -/
theorem withPicturesFrom_append (h : .char ':' ∉ a) (fuel : Nat) (t : Text) :
    withPicturesFrom (a.length + fuel) (a ++ t) = a ++ withPicturesFrom fuel t := by
  induction a with
  | nil => rw [List.length_nil, Nat.zero_add, List.nil_append, List.nil_append]
  | cons p a ih =>
    obtain ⟨hp, ha⟩ := List.ne_and_not_mem_of_not_mem_cons h
    have hlength : (p :: a).length + fuel = (a.length + fuel) + 1 := by
      rw [List.length_cons]
      omega
    rw [hlength, List.cons_append, withPicturesFrom, if_neg hp.symm, ih ha, List.cons_append]

/-- Text without a colon is not part of the name of a picture. -/
theorem withPictures_append (h : .char ':' ∉ a) :
    withPictures (a ++ t) = a ++ withPictures t := by
  rw [withPictures, List.length_append, withPicturesFrom_append h, withPictures]

theorem withPictures_of_notMem (h : .char ':' ∉ t) : withPictures t = t := by
  have happend := withPictures_append (t := []) h
  have hnil : withPictures [] = [] := rfl
  rwa [hnil, List.append_nil] at happend

/-- A colon with a blank behind it begins no name. -/
theorem withPictures_colon_blank (t : Text) :
    withPictures (.char ':' :: .char ' ' :: t) = .char ':' :: .char ' ' :: withPictures t := by
  have hspan : nameSpan? [] (.char ' ' :: t) = none := rfl
  have hblank : .char ':' ∉ [CodePoint.char ' '] := by decide
  have hrest := withPicturesFrom_append hblank t.length t
  rw [withPictures, List.length_cons, withPicturesFrom, if_pos rfl, hspan]
  rw [List.length_singleton, Nat.add_comm, List.singleton_append] at hrest
  exact congrArg _ hrest

/-- A printable character of ASCII. -/
def Printable (p : CodePoint) : Prop := 32 ≤ p.toNat ∧ p.toNat ≤ 126

theorem isControl_of_printable (h : Printable p) : isControl p = false := by
  rw [isControl, Bool.eq_false_iff]
  simp only [ne_eq, List.contains_iff_mem, List.mem_cons, List.not_mem_nil, or_false]
  rw [Printable] at h
  omega

/-- Taking the backslashes before brackets away drops code points and adds none. -/
theorem unescapeBrackets_sublist (t : Text) : List.Sublist (unescapeBrackets t) t := by
  fun_induction unescapeBrackets t with
  | case1 rest ih => exact (ih.cons_cons _).cons _
  | case2 p rest _ ih => exact ih.cons_cons p
  | case3 => exact List.Sublist.slnil

/-- Brackets are left as they are exactly where none of them has a backslash in front. -/
theorem unescapeBrackets_eq_self_iff :
    unescapeBrackets t = t ↔ ¬[.char '\\', .char '['] <:+: t := by
  fun_induction unescapeBrackets t with
  | case1 rest ih =>
    constructor
    · intro heq
      have hlength := congrArg List.length heq
      have hle := (unescapeBrackets_sublist rest).length_le
      simp only [List.length_cons] at hlength
      omega
    · exact fun h => absurd ⟨[], rest, rfl⟩ h
  | case2 p rest hp ih =>
    rw [List.cons.injEq, and_iff_right rfl, ih, List.infix_cons_iff]
    have hfirst : ¬[.char '\\', .char '['] <+: p :: rest := by
      rintro ⟨after, hafter⟩
      obtain ⟨rfl, hrest⟩ := List.cons.inj hafter
      exact hp after rfl hrest.symm
    rw [not_or, and_iff_right hfirst]
  | case3 => simp

/-- A text in which markup finds nothing. -/
structure Inert (t : Text) : Prop where
  tagless : Tagless t
  unescaped : ¬[.char '\\', .char '['] <:+: t
  unnamed : withPictures t = t

/-- Without brackets and colons there is nothing to find. -/
theorem inert_of_notMem (hopen : .char '[' ∉ t) (hcolon : .char ':' ∉ t) : Inert t where
  tagless := tagless_of_notMem hopen
  unescaped := fun h => hopen (h.subset (by simp))
  unnamed := withPictures_of_notMem hcolon

theorem inert_blank_cons : Inert (.char ' ' :: t) ↔ Inert t := by
  have htag : tagAt? (.char ' ' :: t) = none := tagAt?_of_ne (by decide)
  have hpictures : withPictures (.char ' ' :: t) = .char ' ' :: withPictures t :=
    withPictures_append (a := [.char ' ']) (by decide)
  have hfirst : ¬[.char '\\', .char '['] <+: CodePoint.char ' ' :: t := fun h => by
    simpa using (List.cons_prefix_cons.mp h).1
  constructor
  · intro h
    refine ⟨(tagless_cons.mp h.tagless).2, fun hmem => ?_, ?_⟩
    · exact h.unescaped (hmem.trans (List.suffix_cons _ t).isInfix)
    · exact List.tail_eq_of_cons_eq (hpictures.symm.trans h.unnamed)
  · intro h
    refine ⟨tagless_cons.mpr ⟨htag, h.tagless⟩, ?_, hpictures.trans (congrArg _ h.unnamed)⟩
    rw [List.infix_cons_iff, not_or]
    exact ⟨hfirst, h.unescaped⟩

/-- Inert text that can be printed stands for itself, without control characters to drop. -/
theorem Inert.plainText_eq (h : Inert t) (hprintable : ∀ p ∈ t, Printable p) :
    plainText t = t := by
  rw [plainText, unescapeBrackets_eq_self_iff.mpr h.unescaped, h.unnamed]
  exact List.filter_eq_self.mpr fun p hp => by rw [isControl_of_printable (hprintable p hp)]; rfl

/-- A printable character that has no meaning in markup. -/
def Ordinary (p : CodePoint) : Prop := Passes p ∧ Printable p ∧ p ≠ .char ':'

theorem plainText_of_ordinary (h : ∀ p ∈ t, Ordinary p) : plainText t = t :=
  (inert_of_notMem (fun hmem => (h _ hmem).1.1 rfl) (fun hmem => (h _ hmem).2.2 rfl)).plainText_eq
    fun p hp => (h p hp).2.1

/-- Inert text that can be printed is shown as it is written. -/
theorem Inert.unmarked_eq (h : Inert t) (hprintable : ∀ p ∈ t, Printable p) :
    unmarked t = .ok t := by
  rw [unmarked_of_tagless h.tagless, h.plainText_eq hprintable]

/-! ### Texts that do not -/

/-- The plain parts of a text. -/
def parts : List Piece → List Text
  | [] => []
  | .plain t :: ps => t :: parts ps
  | .tag .. :: ps => parts ps

theorem parts_append (ps qs : List Piece) : parts (ps ++ qs) = parts ps ++ parts qs := by
  induction ps with
  | nil => rfl
  | cons piece ps ih => cases piece <;> simp [parts, ih]

/-- A plain piece is all of the text it was made of, also when that is empty. -/
theorem flatten_parts_plainPiece (t : Text) : (parts (plainPiece t)).flatten = t := by
  cases t <;> simp [plainPiece, parts]

/-- Whatever the tags do, what comes of a text is made of its plain parts. -/
theorem eq_of_textOf (h : textOf opened ps = .ok u) : u = (parts ps).flatMap plainText := by
  induction ps generalizing opened u with
  | nil => exact (Except.ok.inj h).symm
  | cons piece ps ih =>
    cases piece with
    | plain t =>
      obtain ⟨u, hu, rfl⟩ := map_eq_ok.mp h
      rw [parts, List.flatMap_cons, ← ih hu]
    | tag position name parameters =>
      have htag := toOption_textOf_tag opened position name parameters ps
      rw [toOption_eq_some.mpr h] at htag
      obtain ⟨opened, _, hrest⟩ := Option.bind_eq_some_iff.mp htag.symm
      exact ih (toOption_eq_some.mp hrest)

/-- The plain parts of a text stand in it, in their order. -/
theorem Cut.parts_sublist (h : Cut position got t ps) :
    List.Sublist (parts ps).flatten (got.reverse ++ t) := by
  induction h with
  | done => simp only [flatten_parts_plainPiece, List.append_nil, List.Sublist.refl]
  | pass _ _ _ ih =>
    rwa [List.reverse_append, List.reverse_reverse, List.append_assoc,
      List.take_append_drop] at ih
  | @escaped _ got t body _ ps found _ _ ih =>
    have hslashes := List.take_sublist ((slashes t).length / 2) (slashes t)
    have hbody := (List.Sublist.refl body).append (ih.cons_cons (.char ']'))
    have hfound := hslashes.append (hbody.cons_cons (.char '['))
    rw [List.reverse_nil, List.nil_append, ← eq_of_found found] at hfound
    have hall := (List.Sublist.refl got.reverse).append hfound
    simpa [parts_append, flatten_parts_plainPiece, parts] using hall
  | @tag _ got t body _ ps found _ _ ih =>
    have hslashes := List.take_sublist ((slashes t).length / 2) (slashes t)
    have hbody := (List.nil_sublist body).append (ih.cons (.char ']'))
    have hfound := hslashes.append (hbody.cons (.char '['))
    rw [List.nil_append, List.reverse_nil, List.nil_append, ← eq_of_found found] at hfound
    have hall := (List.Sublist.refl got.reverse).append hfound
    simpa [parts_append, flatten_parts_plainPiece, parts] using hall

/-- A tag makes the plain parts shorter than the text. -/
theorem Cut.tagless_or_length_lt (h : Cut position got t ps) :
    Tagless t ∨ (parts ps).flatten.length < got.length + t.length := by
  induction h with
  | done => exact .inl tagless_nil
  | @pass _ _ t _ ne free _ ih =>
    rcases ih with hrest | hlt
    · -- With backslashes in front they are passed over, and without them one code point is.
      left
      rcases hslashes : slashes t with _ | ⟨slash, more⟩
      · obtain ⟨p, rest, rfl⟩ := List.exists_cons_of_ne_nil ne
        rw [hslashes] at free hrest
        exact tagless_cons.mpr ⟨free, hrest⟩
      · have hdrop : t.drop (max (slashes t).length 1) = t.drop (slashes t).length := by
          rw [hslashes, List.length_cons, Nat.max_eq_left (Nat.le_add_left 1 _)]
        rw [hdrop] at hrest
        rw [← slashes_append_drop t]
        exact (tagless_append notMem_slashes).mpr hrest
    · right
      simp only [List.length_append, List.length_reverse, List.length_take, List.length_drop] at hlt
      omega
  | escaped found odd next | tag found _ next =>
    have hlength := length_of_found found
    have hparts := next.parts_sublist.length_le
    right
    simp only [parts_append, List.flatten_append, flatten_parts_plainPiece, parts,
      List.flatten_cons, List.length_append, List.length_cons, List.length_take,
      List.length_reverse, List.length_nil] at hparts ⊢
    omega

/-- A plain piece has no part but the text it was made of. -/
theorem eq_of_mem_parts_plainPiece {part : Text} (h : part ∈ parts (plainPiece t)) : part = t := by
  cases t with
  | nil => exact absurd h List.not_mem_nil
  | cons => exact List.mem_singleton.mp h

/-- Each plain part is a stretch of the text. -/
theorem Cut.infix_of_mem_parts (h : Cut position got t ps) :
    ∀ part ∈ parts ps, part <:+: got.reverse ++ t := by
  have hgot (got : List CodePoint) (t : Text) :
      ∀ part ∈ parts (plainPiece got.reverse), part <:+: got.reverse ++ t := fun part hpart =>
    eq_of_mem_parts_plainPiece hpart ▸ (List.prefix_append _ t).isInfix
  have hslashes (got : List CodePoint) (t : Text) (n : Nat) :
      ∀ part ∈ parts (plainPiece ((slashes t).take n)), part <:+: got.reverse ++ t := by
    intro part hpart
    rw [eq_of_mem_parts_plainPiece hpart]
    have hprefix : (slashes t).take n <+: t :=
      (List.take_prefix n _).trans (List.takeWhile_prefix _)
    exact hprefix.isInfix.trans (List.suffix_append _ t).isInfix
  have hafter {got t body after : Text} {part : Text} (hpart : part <:+: [].reverse ++ after)
      (found : tagAt? (t.drop (slashes t).length) = some (body, after)) :
      part <:+: got.reverse ++ t := by
    rw [eq_of_found found]
    exact hpart.trans ⟨got.reverse ++ slashes t ++ .char '[' :: (body ++ [.char ']']), [], by simp⟩
  induction h with
  | done position got => exact hgot got []
  | pass _ _ _ ih =>
    rwa [List.reverse_append, List.reverse_reverse, List.append_assoc,
      List.take_append_drop] at ih
  | @escaped _ got t body after _ found _ _ ih =>
    simp only [parts_append, parts, List.forall_mem_append, List.forall_mem_cons]
    refine ⟨⟨hgot got t, hslashes got t _⟩, ?_, fun part hpart => hafter (ih part hpart) found⟩
    rw [eq_of_found found]
    exact ⟨got.reverse ++ slashes t, after, by simp⟩
  | @tag _ got t _ _ _ found _ _ ih =>
    simp only [parts_append, parts, List.forall_mem_append]
    exact ⟨⟨hgot got t, hslashes got t _⟩, fun part hpart => hafter (ih part hpart) found⟩

/-- No stretch of a text is the name of a picture between colons. -/
def Unpictured (t : Text) : Prop :=
  ∀ s, s <:+: t → withPictures (unescapeBrackets s) = unescapeBrackets s

theorem unpictured_of_notMem (hcolon : .char ':' ∉ t) : Unpictured t := fun _ hs =>
  withPictures_of_notMem fun hmem =>
    hcolon (hs.subset ((unescapeBrackets_sublist _).subset hmem))

theorem Unpictured.blank_cons (h : Unpictured t) : Unpictured (.char ' ' :: t) := by
  intro s hs
  rcases List.infix_cons_iff.mp hs with hprefix | hinfix
  · rcases List.prefix_cons_iff.mp hprefix with rfl | ⟨s, rfl, hrest⟩
    · rfl
    · have hpictures := withPictures_append (a := [.char ' ']) (t := unescapeBrackets s) (by decide)
      rw [List.singleton_append, List.singleton_append, h s hrest.isInfix] at hpictures
      exact hpictures
  · exact h s hinfix

/-- Where no picture is named, what pieces stand for is found in order in what is written. -/
theorem flatMap_plainText_sublist {ts : List Text}
    (h : ∀ t ∈ ts, withPictures (unescapeBrackets t) = unescapeBrackets t) :
    List.Sublist (ts.flatMap plainText) ts.flatten := by
  induction ts with
  | nil => exact .refl _
  | cons t ts ih =>
    obtain ⟨ht, hts⟩ := List.forall_mem_cons.mp h
    have hplain : List.Sublist (plainText t) t := by
      rw [plainText, ht]
      exact List.filter_sublist.trans (unescapeBrackets_sublist t)
    exact hplain.append (ih hts)

/-- Where no picture is named, a text stands for some of its own code points. -/
theorem Unpictured.sublist (hnone : Unpictured t) (h : unmarked t = .ok u) :
    List.Sublist u (parts (pieces t)).flatten := by
  rw [eq_of_textOf h]
  exact flatMap_plainText_sublist fun part hpart =>
    hnone part ((cut_pieces t).infix_of_mem_parts part hpart)

/-- Of the texts that name no picture, only those in which markup finds nothing stand for
themselves. -/
theorem unmarked_eq_self_iff (hprintable : ∀ p ∈ t, Printable p) (hnone : Unpictured t) :
    unmarked t = .ok t ↔ Inert t := by
  refine ⟨fun h => ?_, fun h => h.unmarked_eq hprintable⟩
  have htagless : Tagless t := by
    rcases (cut_pieces t).tagless_or_length_lt with htagless | hlt
    · exact htagless
    · -- What a text with tags stands for is shorter than the text.
      have hle := (hnone.sublist h).length_le
      rw [List.length_nil] at hlt
      omega
  have hunnamed := hnone t List.infix_rfl
  rw [unmarked_of_tagless htagless, plainText, hunnamed] at h
  have hlength := congrArg List.length (Except.ok.inj h)
  have hfilter := List.length_filter_le (fun p => !isControl p) (unescapeBrackets t)
  have hsame := (unescapeBrackets_sublist t).eq_of_length_le (hlength ▸ hfilter)
  rw [hsame] at hunnamed
  exact ⟨htagless, unescapeBrackets_eq_self_iff.mp hsame, hunnamed⟩

end FederatedLogin.Terminal
