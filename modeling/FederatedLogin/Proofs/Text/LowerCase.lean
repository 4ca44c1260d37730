import FederatedLogin.Text.Blank
import FederatedLogin.Text.Case
import Mathlib.Data.List.Basic

/-!
# Lower case is a normal form

A text in lower case is a fixed point of `lower` (`lower_lower`), and so it has no ASCII capital
(`asciiLower_lower`). Folding the ASCII capitals first changes nothing (`lower_asciiLower`): the
final sigma looks at its neighbours only through their case, which ASCII folding keeps. So two texts
that agree after ASCII folding agree in lower case, and a text whose ASCII folding is the lower case
of a stripped text has no spacing around it either (`strip_eq_self_of_asciiLower`). Only the dotted
capital `İ` becomes more than one character, so that the length of the lower case is known
(`length_lower`).

The one fact about the tables is `lowerRuns_settle`: every run leads to characters that no run
touches and that are no spacing.
-/

namespace FederatedLogin.Text

/-! ### Where the runs lead -/

/-- The code point to which a run takes `n`. -/
def CaseRun.image (r : CaseRun) (n : Nat) : Nat := ((n : Int) + r.shift).toNat

/-- The code points from `a` to `l` are not on the run; with `leaping`, only every other one of them
counts, from `a` on. -/
def CaseRun.misses (r : CaseRun) (a l : Nat) (leaping : Bool) : Bool :=
  Nat.blt l r.first || Nat.blt r.last a || (leaping && r.step % 2 == 0 && (a + r.first) % 2 == 1)

/-- The images of a run are characters beyond the control characters that no run touches, and they
are no blanks. -/
def CaseRun.settles (r : CaseRun) : Bool :=
  let a := r.image r.first
  let l := r.image r.last
  0 ≤ (r.first : Int) + r.shift && (l < 0xD800 || 0xE000 ≤ a && l < 0x110000) && 31 < a &&
    (l < 0x130 || 0x130 < a) && (blankRanges.all fun b => l < b.1 || b.2 < a) &&
    lowerRuns.all (·.misses a l (r.step % 2 == 0 || r.first == r.last))

/-- The fact about the tables on which the rest depends. -/
theorem lowerRuns_settle : lowerRuns.all CaseRun.settles = true := by decide +kernel

theorem CaseRun.covers_iff {r : CaseRun} {n : Nat} :
    r.covers n = true ↔ r.first ≤ n ∧ n ≤ r.last ∧ (n - r.first) % r.step = 0 := by
  simp [CaseRun.covers, and_assoc]

/-- On a run with an even step, the points lie an even distance apart. -/
theorem CaseRun.even_of_covers {r : CaseRun} {n : Nat} (heven : r.step % 2 = 0)
    (hn : r.covers n = true) : (n - r.first) % 2 = 0 := by
  obtain ⟨-, -, hstep⟩ := CaseRun.covers_iff.mp hn
  have hdvd : 2 ∣ n - r.first :=
    Nat.dvd_trans (Nat.dvd_of_mod_eq_zero heven) (Nat.dvd_of_mod_eq_zero hstep)
  exact Nat.mod_eq_zero_of_dvd hdvd

/-- A point that a run misses is not on it: between two leaping progressions the parity decides. -/
theorem CaseRun.not_covers_of_misses {r : CaseRun} {a l n : Nat} {leaping : Bool}
    (h : r.misses a l leaping = true) (ha : a ≤ n) (hl : n ≤ l)
    (hn : leaping = true → (n - a) % 2 = 0) : r.covers n = false := by
  rw [Bool.eq_false_iff]
  intro hc
  obtain ⟨hfirst, hlast, -⟩ := CaseRun.covers_iff.mp hc
  simp only [CaseRun.misses, Bool.or_eq_true, Bool.and_eq_true, Nat.blt_eq, beq_iff_eq] at h
  rcases h with (h | h) | ⟨⟨hleap, heven⟩, hodd⟩
  · omega
  · omega
  · have hon := CaseRun.even_of_covers heven hc
    have hoff := hn hleap
    omega

/-- What `lowerRuns_settle` says about one point of a run. -/
theorem CaseRun.image_settled {r : CaseRun} (hr : r ∈ lowerRuns) {n : Nat}
    (hn : r.covers n = true) :
    (r.image n).isValidChar ∧ 31 < r.image n ∧ r.image n ≠ 0x130 ∧
      (∀ b ∈ blankRanges, ¬(b.1 ≤ r.image n ∧ r.image n ≤ b.2)) ∧
      ∀ q ∈ lowerRuns, q.covers (r.image n) = false := by
  have h := List.all_eq_true.mp lowerRuns_settle r hr
  simp only [CaseRun.settles, Bool.and_eq_true, Bool.or_eq_true, decide_eq_true_eq,
    List.all_eq_true] at h
  obtain ⟨⟨⟨⟨⟨hpos, hvalid⟩, hlow⟩, hdot⟩, hblank⟩, hmiss⟩ := h
  obtain ⟨hfirst, hlast, -⟩ := CaseRun.covers_iff.mp hn
  have ha : r.image n = r.image r.first + (n - r.first) := by
    simp only [CaseRun.image]
    omega
  have hl : r.image n ≤ r.image r.last := by
    simp only [CaseRun.image]
    omega
  refine ⟨?_, by omega, by omega, fun b hb => ?_, fun q hq => ?_⟩
  · show _ ∨ _
    omega
  · have := hblank b hb
    omega
  · refine CaseRun.not_covers_of_misses (hmiss q hq) (by omega) hl fun hleap => ?_
    simp only [Bool.or_eq_true, beq_iff_eq] at hleap
    rcases hleap with heven | hone
    · have hon := CaseRun.even_of_covers heven hn
      omega
    · omega

/-! ### Characters in lower case -/

/-- A character that lower-casing keeps, in any place of a text. -/
structure IsLower (c : Char) : Prop where
  ne_sigma : c ≠ 'Σ'
  simple : lowerSimple c = [c]

private theorem toNat_ofNat {n : Nat} (h : n.isValidChar) : (Char.ofNat n).toNat = n := by
  rw [Char.ofNat, dif_pos h]
  rfl

private theorem toLower_eq_self {c : Char} (h : c.toNat < 65 ∨ 90 < c.toNat) : c.toLower = c := by
  refine dif_neg fun ⟨hfirst, hlast⟩ => ?_
  have hfirst : 65 ≤ c.toNat := hfirst
  have hlast : c.toNat ≤ 90 := hlast
  omega

/-- A statement about the ASCII characters is one about 128 numbers. -/
private theorem ascii_cases {P : Char → Prop} (h : ∀ n < 128, P (Char.ofNat n)) {c : Char}
    (hc : c.toNat < 128) : P c := by
  rw [← Char.ofNat_toNat c]
  exact h _ hc

private theorem toLower_ascii {c : Char} (hc : c.toNat < 128) :
    c.toLower.toNat < 128 ∧ c.toLower.toLower = c.toLower ∧
      (isSpacing c.toLower = true → isSpacing c = true) :=
  ascii_cases (P := fun c => c.toLower.toNat < 128 ∧ c.toLower.toLower = c.toLower ∧
    (isSpacing c.toLower = true → isSpacing c = true)) (by decide) hc

/-- Outside the runs, only the dotted capital `İ` changes. -/
theorem isLower_of_not_covers {c : Char} (hdot : c.toNat ≠ 0x130)
    (h : ∀ r ∈ lowerRuns, r.covers c.toNat = false) : IsLower c := by
  have hcapital : ∀ r ∈ lowerRuns, ¬(r.first ≤ c.toNat ∧ c.toNat ≤ r.last ∧ r.step = 1) := by
    rintro r hr ⟨h1, h2, h3⟩
    have := CaseRun.covers_iff.mpr ⟨h1, h2, by rw [h3, Nat.mod_one]⟩
    rw [h r hr] at this
    exact Bool.false_ne_true this
  refine ⟨fun hc => hcapital ⟨931, 939, 1, 32⟩
      (List.mem_of_find?_eq_some (p := (·.covers 931)) rfl) ?_, ?_⟩
  · subst hc
    decide
  · rw [lowerSimple]
    split
    · have := hcapital ⟨65, 90, 1, 32⟩ List.mem_cons_self
      rw [toLower_eq_self (by simp only [and_true, not_and] at this; omega)]
    · rw [if_neg fun hc => hdot (by rw [hc]; decide),
        List.find?_eq_none.mpr fun r hr => by rw [h r hr]; exact Bool.false_ne_true]

/-- A run leads to lower-case characters, and to no spacing. -/
theorem isLower_shifted {r : CaseRun} {c : Char} (hr : r ∈ lowerRuns)
    (hc : r.covers c.toNat = true) :
    IsLower (shifted c r.shift) ∧ isSpacing (shifted c r.shift) = false := by
  obtain ⟨hvalid, hlow, hdot, hblank, hmiss⟩ := CaseRun.image_settled hr hc
  have hnat : (shifted c r.shift).toNat = r.image c.toNat := toNat_ofNat hvalid
  rw [← hnat] at hlow hdot hblank hmiss
  refine ⟨isLower_of_not_covers hdot hmiss, Bool.eq_false_iff.mpr fun hspace => ?_⟩
  simp only [isSpacing, isBlank, Bool.or_eq_true, inRanges_iff, Bool.and_eq_true,
    decide_eq_true_eq] at hspace
  rcases hspace with ⟨b, hb, hin⟩ | ⟨-, hcontrol⟩
  · exact hblank b hb hin
  · omega

/-- The lower-case form of a character consists of lower-case characters, and it is no spacing
unless the character is. -/
theorem isLower_of_mem_lowerSimple {c d : Char} (hc : c ≠ 'Σ') (hd : d ∈ lowerSimple c) :
    IsLower d ∧ (isSpacing d = true → isSpacing c = true) := by
  rw [lowerSimple] at hd
  split at hd
  case isTrue hascii =>
    obtain ⟨hlow, hfix, hspace⟩ := toLower_ascii hascii
    obtain rfl := List.mem_singleton.mp hd
    refine ⟨⟨fun h => ?_, ?_⟩, hspace⟩
    · rw [h] at hlow
      exact absurd hlow (by decide)
    · rw [lowerSimple, if_pos hlow, hfix]
  case isFalse hascii =>
    split at hd
    case isTrue hdot =>
      rcases List.mem_cons.mp hd with rfl | hd
      · exact ⟨⟨by decide, by decide⟩, fun h => absurd h (by decide)⟩
      · obtain rfl := List.mem_singleton.mp hd
        exact ⟨⟨by decide, by decide⟩, fun h => absurd h (by decide)⟩
    case isFalse hdot =>
      split at hd
      case h_1 r hr =>
        obtain rfl := List.mem_singleton.mp hd
        have hcovers : r.covers c.toNat = true :=
          List.find?_some (p := fun q : CaseRun => q.covers c.toNat) hr
        obtain ⟨hlower, hspacing⟩ := isLower_shifted (List.mem_of_find?_eq_some hr) hcovers
        exact ⟨hlower, fun hspace => absurd hspace (Bool.eq_false_iff.mp hspacing)⟩
      case h_2 hnone =>
        obtain rfl := List.mem_singleton.mp hd
        refine ⟨isLower_of_not_covers (fun h => hdot ?_) fun r hr => ?_, id⟩
        · exact Char.toNat_inj.mp h
        · exact Bool.eq_false_iff.mpr (List.find?_eq_none.mp hnone r hr)

/-- Among its neighbours, too, a character becomes lower case, and spacing comes from spacing. -/
theorem isLower_of_mem_lowerIn {before after : List Char} {c d : Char}
    (hd : d ∈ lowerIn before after c) :
    IsLower d ∧ (isSpacing d = true → isSpacing c = true) := by
  rw [lowerIn] at hd
  split at hd
  · have hforms : d = 'ς' ∨ d = 'σ' := by
      split at hd <;> simp_all
    rcases hforms with rfl | rfl
    · exact ⟨⟨by decide, by decide⟩, fun h => absurd h (by decide)⟩
    · exact ⟨⟨by decide, by decide⟩, fun h => absurd h (by decide)⟩
  · exact isLower_of_mem_lowerSimple ‹_› hd

/-! ### Texts in lower case -/

theorem isLower_of_mem_lowerAfter {before s : List Char} {d : Char} (hd : d ∈ lowerAfter before s) :
    IsLower d := by
  induction s generalizing before with
  | nil => cases hd
  | cons c s ih =>
    rcases List.mem_append.mp hd with hd | hd
    · exact (isLower_of_mem_lowerIn hd).1
    · exact ih hd

/-- Among lower-case characters the neighbours do not matter. -/
theorem lowerAfter_eq_self {s : List Char} (h : ∀ c ∈ s, IsLower c) (before : List Char) :
    lowerAfter before s = s := by
  induction s generalizing before with
  | nil => rfl
  | cons c s ih =>
    have hc := h c List.mem_cons_self
    rw [lowerAfter, lowerIn, if_neg hc.ne_sigma, hc.simple,
      ih (fun d hd => h d (List.mem_cons_of_mem c hd)), List.singleton_append]

theorem isLower_of_mem_lower {s : String} {d : Char} (hd : d ∈ (lower s).toList) : IsLower d := by
  rw [lower, String.toList_ofList] at hd
  exact isLower_of_mem_lowerAfter hd

/-- **Idempotence.** Lower-casing a text in lower case changes nothing. -/
@[simp]
theorem lower_lower (s : String) : lower (lower s) = lower s := by
  rw [lower, lowerChars, lowerAfter_eq_self (fun _ => isLower_of_mem_lower) [],
    String.ofList_toList]

theorem IsLower.toLower_eq {c : Char} (h : IsLower c) : c.toLower = c := by
  rcases Nat.lt_or_ge c.toNat 128 with hc | hc
  · have := h.simple
    rw [lowerSimple, if_pos hc] at this
    exact List.singleton_inj.mp this
  · exact toLower_eq_self (by omega)

/-- A text in lower case has no ASCII capital. -/
@[simp]
theorem asciiLower_lower (s : String) : asciiLower (lower s) = lower s := by
  have h : (lower s).toList.map Char.toLower = (lower s).toList.map id :=
    List.map_congr_left fun c hc => (isLower_of_mem_lower hc).toLower_eq
  rw [asciiLower, h, List.map_id, String.ofList_toList]

/-- A fixed point of `lower` is one of `asciiLower`. -/
theorem asciiLower_eq_self {s : String} (h : lower s = s) : asciiLower s = s := by
  rw [← h, asciiLower_lower]

/-! ### Folding the ASCII capitals first -/

/-- Only the ranges that begin below a bound matter for the points below it. -/
private theorem inRanges_filter {ranges : List (Nat × Nat)} {c bound : Nat} (hc : c < bound) :
    inRanges (ranges.filter fun r => Nat.blt r.1 bound) c = inRanges ranges c := by
  rw [Bool.eq_iff_iff, inRanges_iff, inRanges_iff]
  constructor
  · rintro ⟨r, hr, h⟩
    exact ⟨r, List.mem_of_mem_filter hr, h⟩
  · rintro ⟨r, hr, h1, h2⟩
    exact ⟨r, List.mem_filter.mpr ⟨hr, Nat.blt_eq.mpr (by omega)⟩, h1, h2⟩

/-- What the word-final rule looks at is the same for an ASCII letter in either case. -/
private theorem classes_toLower (c : Char) :
    isCased c.toLower = isCased c ∧ isCaseIgnorable c.toLower = isCaseIgnorable c := by
  rcases Nat.lt_or_ge c.toNat 128 with hc | hc
  -- Of the long tables of classes, only the ranges that begin in ASCII are ever computed with.
  · have hcased : casedRanges.filter (fun r => Nat.blt r.1 128) = [(65, 90), (97, 122)] := by
      decide +kernel
    have hskipped : caseIgnorableRanges.filter (fun r => Nat.blt r.1 128)
        = [(39, 39), (46, 46), (58, 58), (94, 94), (96, 96)] := by
      decide +kernel
    have hclasses : ∀ d : Char, d.toNat < 128 →
        isCased d = inRanges [(65, 90), (97, 122)] d.toNat ∧ isCaseIgnorable d
          = inRanges [(39, 39), (46, 46), (58, 58), (94, 94), (96, 96)] d.toNat := fun d hd =>
      ⟨by rw [← hcased, inRanges_filter hd, isCased],
        by rw [← hskipped, inRanges_filter hd, isCaseIgnorable]⟩
    have hlow := (toLower_ascii hc).1
    rw [(hclasses c hc).1, (hclasses c hc).2, (hclasses _ hlow).1, (hclasses _ hlow).2]
    exact ascii_cases (P := fun c =>
      inRanges [(65, 90), (97, 122)] c.toLower.toNat = inRanges [(65, 90), (97, 122)] c.toNat ∧
        inRanges [(39, 39), (46, 46), (58, 58), (94, 94), (96, 96)] c.toLower.toNat
          = inRanges [(39, 39), (46, 46), (58, 58), (94, 94), (96, 96)] c.toNat) (by decide) hc
  · rw [toLower_eq_self (by omega)]
    exact ⟨rfl, rfl⟩

private theorem facesCased_map_toLower (s : List Char) :
    facesCased (s.map Char.toLower) = facesCased s := by
  induction s with
  | nil => rfl
  | cons c s ih =>
    obtain ⟨hcased, hskipped⟩ := classes_toLower c
    simp only [facesCased, List.map_cons, List.dropWhile_cons, hskipped] at ih ⊢
    cases hc : isCaseIgnorable c
    · exact hcased
    · exact ih

private theorem lowerSimple_toLower (c : Char) : lowerSimple c.toLower = lowerSimple c := by
  rcases Nat.lt_or_ge c.toNat 128 with hc | hc
  · obtain ⟨hlow, hfix, -⟩ := toLower_ascii hc
    rw [lowerSimple, if_pos hlow, hfix, lowerSimple, if_pos hc]
  · rw [toLower_eq_self (by omega)]

private theorem lowerIn_toLower (before after : List Char) (c : Char) :
    lowerIn (before.map Char.toLower) (after.map Char.toLower) c.toLower
      = lowerIn before after c := by
  have hsigma : c.toLower = 'Σ' ↔ c = 'Σ' := by
    rcases Nat.lt_or_ge c.toNat 128 with hc | hc
    · have hlow := (toLower_ascii hc).1
      constructor
      · intro h
        rw [h] at hlow
        exact absurd hlow (by decide)
      · intro h
        rw [h] at hc
        exact absurd hc (by decide)
    · rw [toLower_eq_self (by omega)]
  simp only [lowerIn, hsigma, facesCased_map_toLower, lowerSimple_toLower]

private theorem lowerAfter_map_toLower (before s : List Char) :
    lowerAfter (before.map Char.toLower) (s.map Char.toLower) = lowerAfter before s := by
  induction s generalizing before with
  | nil => rfl
  | cons c s ih =>
    have := ih (c :: before)
    rw [List.map_cons] at this
    rw [List.map_cons, lowerAfter, lowerAfter, lowerIn_toLower, this]

/-- Folding the ASCII capitals first does not change the lower-case form. -/
@[simp]
theorem lower_asciiLower (s : String) : lower (asciiLower s) = lower s := by
  have h := lowerAfter_map_toLower [] s.toList
  rw [List.map_nil] at h
  rw [lower, asciiLower, String.toList_ofList, lowerChars, h]
  rfl

/-- Texts that agree after ASCII folding agree in lower case. -/
theorem lower_eq_of_asciiLower_eq {s t : String} (h : asciiLower s = lower t) :
    lower s = lower t := by
  rw [← lower_asciiLower, h, lower_lower]

/-- A text has no capitals but those of ASCII: every other character is in lower case. -/
def AsciiCapitals (s : String) : Prop := ∀ c ∈ s.toList, c.toNat < 128 ∨ IsLower c

private theorem isLower_toLower {c : Char} (h : c.toNat < 128 ∨ IsLower c) : IsLower c.toLower := by
  rcases h with hc | hc
  · obtain ⟨hlow, hfix, -⟩ := toLower_ascii hc
    refine ⟨fun hsigma => ?_, ?_⟩
    · rw [hsigma] at hlow
      exact absurd hlow (by decide)
    · rw [lowerSimple, if_pos hlow, hfix]
  · rwa [hc.toLower_eq]

/-- ASCII folding gives the lower case of exactly the texts without other capitals. -/
theorem asciiLower_eq_lower_iff {s : String} : asciiLower s = lower s ↔ AsciiCapitals s := by
  constructor
  · intro h c hc
    have hfolded : c.toLower ∈ (lower s).toList := by
      rw [← h, asciiLower, String.toList_ofList]
      exact List.mem_map_of_mem hc
    rcases Nat.lt_or_ge c.toNat 128 with hascii | hbeyond
    · exact .inl hascii
    · have hlower := isLower_of_mem_lower hfolded
      rw [toLower_eq_self (by omega)] at hlower
      exact .inr hlower
  · intro h
    -- The folded text is in lower case already, and its lower case is that of the text.
    have hfolded : ∀ d ∈ (asciiLower s).toList, IsLower d := by
      intro d hd
      rw [asciiLower, String.toList_ofList] at hd
      obtain ⟨c, hc, rfl⟩ := List.mem_map.mp hd
      exact isLower_toLower (h c hc)
    rw [← lower_asciiLower s, lower, lowerChars, lowerAfter_eq_self hfolded, String.ofList_toList]

/-- The ASCII folding of a text is the lower case of another one if the two agree in lower case and
the first has no capitals but those of ASCII. -/
theorem asciiLower_eq_iff {s q : String} :
    asciiLower s = lower q ↔ lower s = lower q ∧ AsciiCapitals s := by
  constructor
  · intro h
    have hsame := lower_eq_of_asciiLower_eq h
    exact ⟨hsame, asciiLower_eq_lower_iff.mp (h.trans hsame.symm)⟩
  · rintro ⟨hsame, hcapitals⟩
    rw [asciiLower_eq_lower_iff.mpr hcapitals, hsame]

/-! ### Spacing at the ends -/

/-- No spacing stands at either end. -/
structure Trimmed (s : List Char) : Prop where
  head : ∀ c ∈ s.head?, isSpacing c = false
  last : ∀ c ∈ s.getLast?, isSpacing c = false

/-- A character that would be spacing only if another one were is none if that one is none. -/
private theorem isSpacing_eq_false {c d : Char} (h : isSpacing d = true → isSpacing c = true)
    (hc : isSpacing c = false) : isSpacing d = false :=
  Bool.eq_false_iff.mpr fun hd => Bool.eq_false_iff.mp hc (h hd)

private theorem dropWhile_eq_self {p : Char → Bool} {s : List Char}
    (h : ∀ c ∈ s.head?, p c = false) : s.dropWhile p = s := by
  cases s with
  | nil => rfl
  | cons c s => rw [List.dropWhile_cons, h c rfl, if_neg Bool.false_ne_true]

theorem Trimmed.stripBy_eq {s : List Char} (h : Trimmed s) : stripBy isSpacing s = s := by
  rw [stripBy, dropWhile_eq_self h.head, dropWhile_eq_self, List.reverse_reverse]
  intro c hc
  rw [List.head?_reverse] at hc
  exact h.last c hc

/-- Stripping removes the spacing around a text without spacing at its ends. -/
theorem Trimmed.stripBy_pad {p s q : List Char} (h : Trimmed s) (hne : s ≠ [])
    (hp : ∀ c ∈ p, isSpacing c = true) (hq : ∀ c ∈ q, isSpacing c = true) :
    stripBy isSpacing (p ++ (s ++ q)) = s := by
  have hfront : (s ++ q).dropWhile isSpacing = s ++ q := by
    refine dropWhile_eq_self fun c hc => h.head c ?_
    rwa [List.head?_append_of_ne_nil s hne] at hc
  have hback : s.reverse.dropWhile isSpacing = s.reverse := by
    refine dropWhile_eq_self fun c hc => h.last c ?_
    rwa [List.head?_reverse] at hc
  have hafter : ∀ c ∈ q.reverse, isSpacing c = true := fun c hc => hq c (List.mem_reverse.mp hc)
  rw [stripBy, List.dropWhile_append_of_pos hp, hfront, List.reverse_append,
    List.dropWhile_append_of_pos hafter, hback, List.reverse_reverse]

/-- What stripping leaves neither begins nor ends with what the test accepts. -/
theorem ends_stripBy (p : Char → Bool) (s : List Char) :
    (∀ c ∈ (stripBy p s).head?, p c = false) ∧ ∀ c ∈ (stripBy p s).getLast?, p c = false := by
  have hnot : ∀ (l : List Char), ∀ c ∈ (l.dropWhile p).head?, p c = false := by
    intro l c hc
    have h := List.head?_dropWhile_not p l
    rw [Option.mem_def.mp hc] at h
    simpa using h
  constructor
  · intro c hc
    have hprefix : stripBy p s <+: s.dropWhile p := by
      have h := List.reverse_prefix.mpr (List.dropWhile_suffix p (l := (s.dropWhile p).reverse))
      rwa [List.reverse_reverse] at h
    obtain ⟨rest, hrest⟩ := hprefix
    refine hnot s c ?_
    rw [← hrest, List.head?_append, Option.mem_def.mp hc]
    rfl
  · intro c hc
    rw [stripBy, List.getLast?_reverse] at hc
    exact hnot _ c hc

/-- Nothing is left to strip after stripping. -/
theorem trimmed_stripBy (s : List Char) : Trimmed (stripBy isSpacing s) := by
  obtain ⟨hhead, hlast⟩ := ends_stripBy isSpacing s
  exact ⟨hhead, hlast⟩

/-- No character disappears. -/
theorem lowerIn_ne_nil (before after : List Char) (c : Char) :
    lowerIn before after c ≠ [] := by
  rw [lowerIn]
  split
  · split <;> exact List.cons_ne_nil _ _
  · rw [lowerSimple]
    split
    · exact List.cons_ne_nil _ _
    · split
      · exact List.cons_ne_nil _ _
      · split <;> exact List.cons_ne_nil _ _

/-- The last character of a text ends its lower-case form. -/
theorem lowerAfter_concat (before s : List Char) (c : Char) :
    ∃ start, lowerAfter before (s ++ [c]) = start ++ lowerIn (s.reverse ++ before) [] c := by
  induction s generalizing before with
  | nil => exact ⟨[], List.append_nil _⟩
  | cons d s ih =>
    obtain ⟨start, h⟩ := ih (d :: before)
    refine ⟨lowerIn before (s ++ [c]) d ++ start, ?_⟩
    rw [List.cons_append, lowerAfter, h, List.append_assoc, List.reverse_cons, List.append_assoc,
      List.singleton_append]

/-- Lower-casing puts no spacing at an end. -/
theorem Trimmed.lower {s : String} (h : Trimmed s.toList) : Trimmed (lower s).toList := by
  rw [Text.lower, String.toList_ofList, lowerChars]
  constructor
  · intro d hd
    cases hs : s.toList with
    | nil =>
      rw [hs] at hd
      cases hd
    | cons c rest =>
      rw [hs, lowerAfter, List.head?_append_of_ne_nil _ (lowerIn_ne_nil [] rest c)] at hd
      have hc : isSpacing c = false := h.head c (by rw [hs]; rfl)
      exact isSpacing_eq_false (isLower_of_mem_lowerIn (List.mem_of_mem_head? hd)).2 hc
  · intro d hd
    rcases List.eq_nil_or_concat s.toList with hs | ⟨start, c, hs⟩
    · rw [hs] at hd
      cases hd
    · rw [List.concat_eq_append] at hs
      obtain ⟨begin', hlast⟩ := lowerAfter_concat [] start c
      rw [hs, hlast, List.getLast?_append_of_ne_nil _ (lowerIn_ne_nil _ [] c)] at hd
      have hc : isSpacing c = false := h.last c (by rw [hs, List.getLast?_concat]; rfl)
      exact isSpacing_eq_false (isLower_of_mem_lowerIn (List.mem_of_getLast? hd)).2 hc

private theorem isSpacing_toLower {c : Char} (h : isSpacing c = true) :
    isSpacing c.toLower = true := by
  rcases Nat.lt_or_ge c.toNat 128 with hc | hc
  · exact ascii_cases (P := fun c => isSpacing c = true → isSpacing c.toLower = true)
      (by decide) hc h
  · rwa [toLower_eq_self (by omega)]

/-- ASCII folding hides no spacing at the ends. -/
theorem Trimmed.of_asciiLower {s : String} (h : Trimmed (asciiLower s).toList) :
    Trimmed s.toList := by
  rw [asciiLower, String.toList_ofList] at h
  constructor
  · intro c hc
    have hfolded := h.head c.toLower (by rw [List.head?_map, Option.mem_def.mp hc]; rfl)
    exact isSpacing_eq_false isSpacing_toLower hfolded
  · intro c hc
    have hfolded := h.last c.toLower (by rw [List.getLast?_map, Option.mem_def.mp hc]; rfl)
    exact isSpacing_eq_false isSpacing_toLower hfolded

/-- A text whose ASCII folding is the lower case of a stripped text has nothing to strip. -/
theorem strip_eq_self_of_asciiLower {s t : String} (h : asciiLower s = lower (strip t)) :
    strip s = s := by
  have ht : Trimmed (strip t).toList := by
    rw [strip, String.toList_ofList]
    exact trimmed_stripBy t.toList
  have hs : Trimmed s.toList := Trimmed.of_asciiLower (by rw [h]; exact ht.lower)
  rw [strip, hs.stripBy_eq, String.ofList_toList]

/-! ### Lengths -/

/-- How often the dotted capital `İ` occurs: it alone becomes two characters. -/
def dottedCapitals (s : String) : Nat := s.toList.count 'İ'

theorem length_lowerSimple (c : Char) :
    (lowerSimple c).length = 1 + if c = 'İ' then 1 else 0 := by
  rw [lowerSimple]
  by_cases hdot : c = 'İ'
  · subst hdot
    decide
  · rw [if_neg hdot, if_neg hdot]
    split
    · rfl
    · split <;> rfl

/-- The neighbours have no influence on the length. -/
theorem length_lowerIn (before after : List Char) (c : Char) :
    (lowerIn before after c).length = 1 + if c = 'İ' then 1 else 0 := by
  rw [lowerIn]
  by_cases hsigma : c = 'Σ'
  · have hdot : 'Σ' ≠ 'İ' := by decide
    rw [hsigma, if_pos rfl, if_neg hdot]
    split <;> rfl
  · rw [if_neg hsigma, length_lowerSimple]

theorem length_lowerAfter (before s : List Char) :
    (lowerAfter before s).length = s.length + s.count 'İ' := by
  induction s generalizing before with
  | nil => rfl
  | cons c s ih =>
    rw [lowerAfter, List.length_append, length_lowerIn, ih, List.length_cons, List.count_cons]
    simp only [beq_iff_eq]
    omega

/-- Lower-casing makes a text longer by its dotted capitals. -/
theorem length_lower (s : String) : (lower s).length = s.length + dottedCapitals s := by
  rw [← String.length_toList, lower, String.toList_ofList, lowerChars, length_lowerAfter,
    String.length_toList, dottedCapitals]

end FederatedLogin.Text
