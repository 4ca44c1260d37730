import FederatedLogin.Proofs.Terminal.Markup
import FederatedLogin.Terminal.Wrap

/-!
# What becomes of the lines

A text without line feeds and tabs that fits into a line is printed as this one line, character for
character (`wrap_eq_singleton`): no break is set where the whole text fits (`breaksFrom_eq_nil`).

Reading markup brings in pictures, and breaking and placing a text brings in blanks and ellipses.
None of these is a lone surrogate, so what has none is printed without one: as lines (`Whole.wrap`)
and as a title (`Whole.rule`).
-/

namespace FederatedLogin.Terminal

open FederatedLogin.Text

variable {t u a b : Text} {ts : List Text} {p : CodePoint} {got : List CodePoint}
  {n used start : Nat} {o : Overflow} {j : Justify} {inside ended keepWhole : Bool}

/-! ### Widths -/

/-- A code point of the printable range of ASCII takes one cell. -/
theorem cells_of_printable (h : Printable p) : cells p = 1 := by
  have hout : ∀ r ∈ zeroWidthRanges ++ wideRanges, r.2 < 32 ∨ 126 < r.1 := by decide +kernel
  have hnot : ∀ ranges ⊆ zeroWidthRanges ++ wideRanges, inRanges ranges p.toNat = false := by
    intro ranges hsub
    rw [Bool.eq_false_iff, ne_eq, inRanges_iff]
    rintro ⟨r, hr, hle⟩
    have hr := hout r (hsub hr)
    rw [Printable] at h
    omega
  rw [cells, hnot _ (List.subset_append_left _ _), hnot _ (List.subset_append_right _ _)]
  rfl

theorem width_append (t u : Text) : width (t ++ u) = width t + width u := by
  induction t with
  | nil => exact (Nat.zero_add _).symm
  | cons p t ih =>
    have hcons : ∀ t, width (p :: t) = cells p + width t := fun _ => rfl
    rw [List.cons_append, hcons, hcons, ih, Nat.add_assoc]

/-- Text of printable ASCII is as wide as it is long. -/
theorem width_eq_length (h : ∀ p ∈ t, Printable p) : width t = t.length := by
  induction t with
  | nil => rfl
  | cons p t ih =>
    obtain ⟨hp, ht⟩ := List.forall_mem_cons.mp h
    have hcons : width (p :: t) = cells p + width t := rfl
    rw [hcons, ih ht, cells_of_printable hp, List.length_cons, Nat.add_comm]

theorem width_le_of_sublist (h : List.Sublist t u) : width t ≤ width u := by
  induction h with
  | slnil => exact Nat.le_refl _
  | cons p _ ih => exact Nat.le_trans ih (Nat.le_add_left _ _)
  | cons_cons p _ ih => exact Nat.add_le_add_left ih _

/-! ### A text that fits -/

theorem splitLines_of_notMem (h : .char '\n' ∉ t) : splitLines got t = [got.reverse ++ t] := by
  induction t generalizing got with
  | nil => rw [splitLines, List.append_nil]
  | cons p t ih =>
    obtain ⟨hp, ht⟩ := List.ne_and_not_mem_of_not_mem_cons h
    rw [splitLines, ih ht, List.reverse_cons, List.append_assoc, List.singleton_append]
    exact hp.symm

theorem expandTabs_of_notMem (h : .char '\t' ∉ t) : expandTabs used t = t := by
  induction t generalizing used with
  | nil => rfl
  | cons p t ih =>
    obtain ⟨hp, ht⟩ := List.ne_and_not_mem_of_not_mem_cons h
    rw [expandTabs, ih ht]
    exact hp.symm

/-- The words of a line stand in it one after another; spacing alone is in none of them. -/
theorem flatten_wordsWithSpacing (got : List CodePoint) (inside ended : Bool) (t : Text) :
    List.Sublist (wordsWithSpacing got inside ended t).flatten (got.reverse ++ t) := by
  induction t generalizing got inside ended with
  | nil =>
    rw [wordsWithSpacing]
    cases inside <;> simp
  | cons p rest ih =>
    rw [wordsWithSpacing]
    split
    · simpa using ih (p :: got) inside inside
    · split
      · simpa using ih [p] true false
      · simpa using ih (p :: got) true false

theorem trimEnd_sublist (t : Text) : List.Sublist (trimEnd t) t := by
  have hreverse := (List.dropWhile_suffix isSpacingPoint (l := t.reverse)).sublist.reverse
  rwa [List.reverse_reverse] at hreverse

/-- No line is broken that has room for all of its words. -/
theorem breaksFrom_eq_nil (h : used + width ts.flatten ≤ n) :
    breaksFrom n o used start ts = [] := by
  induction ts generalizing used start with
  | nil => rfl
  | cons word rest ih =>
    rw [List.flatten_cons, width_append] at h
    -- Only what a word needs without its spacing is compared, and that is no more.
    have hword := width_le_of_sublist (trimEnd_sublist word)
    rw [breaksFrom.eq_def]
    exact (if_pos (by omega)).trans (ih (by omega))

theorem truncate_of_le (h : width t ≤ n) : truncate n o t = t :=
  if_neg (Nat.not_lt.mpr h)

theorem trimBeyond_of_le (h : t.length ≤ n) : trimBeyond n t = t := by
  rw [trimBeyond, Nat.sub_eq_zero_of_le h, Nat.min_zero, Nat.sub_zero, List.take_length]

/-- A text that fits is printed on one line as it is. -/
theorem wrap_eq_singleton (hfeed : .char '\n' ∉ t) (htab : .char '\t' ∉ t) (hwidth : width t ≤ n)
    (hlength : t.length ≤ n) : wrap n o .none keepWhole t = [t] := by
  have hwords := width_le_of_sublist (flatten_wordsWithSpacing [] false false t)
  rw [List.reverse_nil, List.nil_append] at hwords
  have hbreaks : breaksFrom n o 0 0 (wordsWithSpacing [] false false t) = [] :=
    breaksFrom_eq_nil (by omega)
  have hline : wrapLine n o .none keepWhole t = [t] := by
    rw [wrapLine, expandTabs_of_notMem htab, hbreaks, cutAt, ite_self, List.map_cons, List.map_nil,
      trimBeyond_of_le hlength, justify, truncate_of_le hwidth]
  rw [wrap, splitLines_of_notMem hfeed, List.reverse_nil, List.nil_append, List.flatMap_cons, hline,
    List.flatMap_nil, List.append_nil]

/-- Printable text is as wide as it is long. -/
theorem wrap_of_printable (h : ∀ p ∈ t, Printable p) (hlength : t.length ≤ n) :
    wrap n o .none keepWhole t = [t] :=
  wrap_eq_singleton (fun hmem => absurd (h _ hmem) (by simp [Printable, CodePoint.toNat]))
    (fun hmem => absurd (h _ hmem) (by simp [Printable, CodePoint.toNat]))
    ((width_eq_length h).symm ▸ hlength) hlength

/-! ### Text without lone surrogates -/

/-- No code point of a text is a lone surrogate. -/
def Whole (t : Text) : Prop := ∀ p ∈ t, ∃ c, p = .char c

theorem whole_map_char (l : List Char) : Whole (l.map .char) := by
  simp [Whole]

theorem whole_ofString (s : String) : Whole (ofString s) := whole_map_char s.toList

/-- The texts without surrogates are those of strings. -/
theorem whole_iff : Whole t ↔ ∃ s, t = ofString s := by
  refine ⟨fun h => ?_, fun ⟨s, hs⟩ => hs ▸ whole_ofString s⟩
  induction t with
  | nil => exact ⟨"", rfl⟩
  | cons p t ih =>
    obtain ⟨⟨c, rfl⟩, ht⟩ := List.forall_mem_cons.mp h
    obtain ⟨s, rfl⟩ := ih ht
    exact ⟨String.ofList (c :: s.toList), by simp [ofString]⟩

/-- Texts without lone surrogates are strings. -/
theorem forall_whole_iff : (∀ t ∈ ts, Whole t) ↔ ∃ ls : List String, ts = ls.map ofString := by
  constructor
  · intro h
    induction ts with
    | nil => exact ⟨[], rfl⟩
    | cons t ts ih =>
      obtain ⟨ht, hts⟩ := List.forall_mem_cons.mp h
      obtain ⟨s, rfl⟩ := whole_iff.mp ht
      obtain ⟨ls, rfl⟩ := ih hts
      exact ⟨s :: ls, rfl⟩
  · rintro ⟨ls, rfl⟩
    rw [List.forall_mem_map]
    exact fun s _ => whole_ofString s

theorem Whole.of_subset (h : Whole t) (hsub : u ⊆ t) : Whole u :=
  fun p hp => h p (hsub hp)

theorem whole_append : Whole (t ++ u) ↔ Whole t ∧ Whole u := List.forall_mem_append

theorem whole_cons (c : Char) : Whole (.char c :: t) ↔ Whole t := by
  simp [Whole]

theorem whole_replicate (n : Nat) (c : Char) : Whole (List.replicate n (.char c)) :=
  fun _ hp => ⟨c, List.eq_of_mem_replicate hp⟩

theorem Whole.sublist (h : Whole t) (hsub : List.Sublist u t) : Whole u := h.of_subset hsub.subset

theorem whole_flatten : Whole ts.flatten ↔ ∀ t ∈ ts, Whole t := by
  simp only [Whole, List.mem_flatten]
  exact ⟨fun h t ht p hp => h p ⟨t, ht, hp⟩, fun h p ⟨t, ht, hp⟩ => h t ht p hp⟩

/-! ### What markup stands for -/

/-- What follows the closing colon of a name is the end of the text. -/
theorem closing?_suffix {v : Variant} (h : closing? t = some (v, u)) : u <:+ t := by
  rw [closing?] at h
  split at h
  · exact (Prod.mk.inj (Option.some.inj h)).2 ▸ List.drop_suffix 7 t
  · split at h
    · exact (Prod.mk.inj (Option.some.inj h)).2 ▸ List.drop_suffix 6 t
    · split at h
      · exact (Prod.mk.inj (Option.some.inj h)).2 ▸ List.drop_suffix 1 t
      · exact absurd h nofun

/-- What follows the name of a picture is the end of the text. -/
theorem nameSpan?_suffix {name : Text} {v : Variant}
    (h : nameSpan? got t = some (name, v, u)) : u <:+ t := by
  induction t generalizing got with
  | nil => exact absurd h nofun
  | cons p rest ih =>
    rw [nameSpan?] at h
    split at h
    · rename_i hclosing
      obtain ⟨-, rfl, rfl⟩ := by simpa using h
      exact closing?_suffix hclosing
    · split at h
      · exact absurd h nofun
      · exact (ih h).trans (List.suffix_cons p rest)

/-- A picture that is found by a name stands in the table. -/
theorem mem_of_pictureIn? {name picture : List Char} {table : List (List Char)}
    (h : pictureIn? name table = some picture) : picture ∈ table := by
  fun_induction pictureIn? name table with
  | case1 => exact Option.some.inj h ▸ List.mem_cons_of_mem _ List.mem_cons_self
  | case2 _ _ _ _ ih => exact List.mem_cons_of_mem _ (List.mem_cons_of_mem _ (ih h))
  | case3 => exact absurd h nofun

/-- A picture is a word of the table, so it has no spacing; nor has the mark of its form. -/
theorem isSpacing_of_picture? {name picture : List Char} (h : picture? name = some picture)
    (v : Variant) : ∀ c ∈ picture ++ v.mark, isSpacing c = false := by
  refine List.forall_mem_append.mpr ⟨?_, ?_⟩
  · exact isSpacing_of_mem_wordsFrom (List.forall_mem_nil _) (mem_of_pictureIn? h)
  · cases v with
    | plain => exact List.forall_mem_nil _
    | text | emoji => exact List.forall_mem_singleton.mpr (by decide)

section Pictures

variable {P : CodePoint → Prop} (hspaceless : ∀ c, isSpacing c = false → P (.char c))
include hspaceless

/-- What holds of all code points of a text, and of characters that are no spacing, is still so with
pictures in the text. -/
theorem forall_withPicturesFrom (h : ∀ p ∈ t, P p) (fuel : Nat) :
    ∀ p ∈ withPicturesFrom fuel t, P p := by
  fun_induction withPicturesFrom fuel t with
  | case1 | case2 => exact h
  | case3 _ rest _ v after hspan picture hpicture ih =>
    have hafter := (nameSpan?_suffix hspan).subset
    obtain ⟨name, -, hname⟩ := Option.bind_eq_some_iff.mp hpicture
    refine List.forall_mem_append.mpr ⟨List.forall_mem_map.mpr fun c hc => ?_, ih fun p hp => ?_⟩
    · exact hspaceless c (isSpacing_of_picture? hname v c hc)
    · exact h p (List.mem_cons_of_mem _ (hafter hp))
  | case4 _ rest _ _ after hspan _ ih =>
    obtain ⟨hcolon, hrest⟩ := List.forall_mem_cons.mp h
    have hafter := (nameSpan?_suffix hspan).subset
    refine List.forall_mem_cons.mpr ⟨hcolon, List.forall_mem_append.mpr ⟨fun p hp => ?_, ?_⟩⟩
    · exact hrest p (List.mem_of_mem_take hp)
    · exact ih fun p hp => hrest p (hafter hp)
  | case5 _ _ _ ih | case6 _ _ _ _ ih =>
    obtain ⟨hp, hrest⟩ := List.forall_mem_cons.mp h
    exact List.forall_mem_cons.mpr ⟨hp, ih hrest⟩

/-- It is still so of what a piece shows. -/
theorem forall_plainText (h : ∀ p ∈ t, P p) : ∀ p ∈ plainText t, P p := fun p hp =>
  forall_withPicturesFrom hspaceless (fun q hq => h q ((unescapeBrackets_sublist t).subset hq)) _ p
    (List.mem_filter.mp hp).1

/-- It is still so when markup is read. -/
theorem forall_unmarked (h : ∀ p ∈ t, P p) (hu : unmarked t = .ok u) : ∀ p ∈ u, P p := by
  rw [eq_of_textOf hu]
  intro p hp
  obtain ⟨part, hpart, hp⟩ := List.mem_flatMap.mp hp
  refine forall_plainText hspaceless (fun q hq => h q ?_) p hp
  exact (cut_pieces t).parts_sublist.subset (List.mem_flatten_of_mem hpart hq)

end Pictures

/-- Reading markup brings no surrogates in. -/
theorem Whole.of_unmarked (h : Whole t) (hu : unmarked t = .ok u) : Whole u :=
  forall_unmarked (fun c _ => ⟨c, rfl⟩) h hu

/-! ### What is printed -/

theorem whole_blanks (n : Nat) : Whole (blanks n) := whole_replicate n ' '

theorem Whole.padTo (h : Whole t) (n : Nat) : Whole (padTo n t) :=
  whole_append.mpr ⟨h, whole_blanks _⟩

/-- Cutting a text to a width keeps it free of surrogates. -/
theorem Whole.bisect (h : Whole t) (n start stop fuel : Nat) :
    Whole (bisect t n start stop fuel) := by
  induction fuel generalizing start stop with
  | zero => exact fun _ hp => absurd hp List.not_mem_nil
  | succ fuel ih =>
    have htake (k : Nat) : Whole (t.take k) := h.sublist (List.take_sublist k t)
    rw [Terminal.bisect]
    split
    · exact whole_append.mpr ⟨(htake _).sublist (List.dropLast_sublist _), whole_blanks 1⟩
    · split
      · exact htake _
      · split <;> exact ih _ _

theorem Whole.fitTo (h : Whole t) (n : Nat) : Whole (fitTo n t) := by
  rw [Terminal.fitTo]
  split
  · exact h.padTo n
  · split
    · exact fun _ hp => absurd hp List.not_mem_nil
    · exact h.bisect n 0 _ _

/-- Cutting off brings no surrogates in, with the ellipsis or without. -/
theorem Whole.truncate (h : Whole t) (n : Nat) (o : Overflow) : Whole (truncate n o t) := by
  rw [Terminal.truncate.eq_def]
  split
  · cases o with
    | fold => exact h.fitTo n
    | ellipsis => exact whole_append.mpr ⟨h.fitTo _, whole_map_char ['…']⟩
  · exact h

theorem Whole.justify (h : Whole t) (n : Nat) (o : Overflow) (j : Justify) :
    Whole (justify n o j t) := by
  cases j with
  | none => exact h
  | left => exact (h.truncate n o).padTo n
  | centre =>
    have htrim := (h.sublist (trimEnd_sublist t)).truncate n o
    exact (whole_append.mpr ⟨whole_blanks _, htrim⟩).padTo n

theorem Whole.expandTabs (h : Whole t) (used : Nat) : Whole (expandTabs used t) := by
  fun_induction Terminal.expandTabs used t with
  | case1 => exact h
  | case2 used rest next ih =>
    exact whole_append.mpr ⟨whole_blanks _, ih ((whole_cons '\t').mp h)⟩
  | case3 used p rest _ ih =>
    obtain ⟨hp, hrest⟩ := List.forall_mem_cons.mp h
    exact List.forall_mem_cons.mpr ⟨hp, ih hrest⟩

/-- The lines hold the text without its line ends. -/
theorem flatten_splitLines (got : List CodePoint) (t : Text) :
    List.Sublist (splitLines got t).flatten (got.reverse ++ t) := by
  fun_induction splitLines got t with
  | case1 got => simp
  | case2 got rest ih => exact (List.Sublist.refl _).append (ih.cons _)
  | case3 got p rest _ ih => simpa using ih

/-- Cutting at any places loses nothing. -/
theorem flatten_cutAt (position : Nat) (breaks : List Nat) (t : Text) :
    (cutAt position breaks t).flatten = t := by
  induction breaks generalizing position t with
  | nil => exact List.append_nil t
  | cons b rest ih => rw [cutAt, List.flatten_cons, ih, List.take_append_drop]

/-- The lines of a text without lone surrogates have none. -/
theorem Whole.wrap (h : Whole t) (n : Nat) (o : Overflow) (j : Justify) (keepWhole : Bool) :
    ∀ l ∈ wrap n o j keepWhole t, Whole l := by
  simp only [Terminal.wrap, wrapLine, List.mem_flatMap, List.mem_map]
  rintro _ ⟨line, hline, cut, hcut, rfl⟩
  have hlines := whole_flatten.mp (h.sublist (flatten_splitLines [] t))
  have hexpanded := (hlines line hline).expandTabs 0
  have hwhole : Whole cut := by
    split at hcut
    · exact List.mem_singleton.mp hcut ▸ hexpanded
    · exact whole_flatten.mp ((flatten_cutAt 0 _ _).symm ▸ hexpanded) cut hcut
  have htrim : Whole (trimBeyond n cut) := hwhole.sublist (List.take_sublist _ _)
  exact (htrim.justify n o j).truncate n o

/-- The lines across the output have no lone surrogates unless their title has one. -/
theorem Whole.rule (h : Whole t) {ls : List Text} (hrule : rule t = .ok ls) :
    ∀ l ∈ ls, Whole l := by
  obtain ⟨title, htitle, hlines⟩ := bind_eq_ok.mp hrule
  obtain rfl := Except.ok.inj hlines
  have hone : Whole (title.map fun p => if p = .char '\n' then .char ' ' else p) := by
    intro p hp
    obtain ⟨q, hq, rfl⟩ := List.mem_map.mp hp
    split
    · exact ⟨' ', rfl⟩
    · exact h.of_unmarked htitle q hq
  have hcut := (hone.expandTabs 0).truncate (outputWidth - 4) .ellipsis
  refine Whole.wrap (Whole.fitTo (whole_append.mpr ⟨whole_replicate _ '─', ?_⟩) _) _ _ _ _
  refine (whole_cons ' ').mpr (whole_append.mpr ⟨hcut, ?_⟩)
  exact (whole_cons ' ').mpr (whole_replicate _ '─')

/-- There is a line, also of the empty text. -/
theorem splitLines_ne_nil (got : List CodePoint) (t : Text) : splitLines got t ≠ [] := by
  fun_induction splitLines got t with
  | case1 | case2 => exact List.cons_ne_nil _ _
  | case3 _ _ _ _ ih => exact ih

/-- There is a part, also without places to cut at. -/
theorem cutAt_ne_nil (position : Nat) (breaks : List Nat) : cutAt position breaks t ≠ [] := by
  cases breaks <;> exact List.cons_ne_nil _ _

/-- Even an empty text prints a line. -/
theorem wrap_ne_nil : wrap n o j keepWhole t ≠ [] := by
  obtain ⟨line, hline⟩ := List.exists_mem_of_ne_nil _ (splitLines_ne_nil [] t)
  have hlines : wrapLine n o j keepWhole line ≠ [] := by
    rw [wrapLine, ne_eq, List.map_eq_nil_iff]
    split
    · exact List.cons_ne_nil _ _
    · exact cutAt_ne_nil 0 _
  exact fun h => hlines (List.flatMap_eq_nil_iff.mp h line hline)

end FederatedLogin.Terminal
