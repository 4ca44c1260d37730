import FederatedLogin.Proofs.Text.LowerCase
import Mathlib.Data.List.TakeWhile

/-!
# What stripping leaves

Stripping takes away nothing but what its test accepts, at either end (`exists_pad`). So a text
stays as it is exactly if no spacing stands at its ends (`strip_eq_self_iff`), and it becomes empty
exactly if it is spacing throughout (`strip_eq_empty_iff`).

The two sets of blanks differ in the information separators alone. Stripping blanks first makes no
difference to stripping spacing (`strip_stripBlanks`), and the two give the same text exactly if
what is left of it without blanks has no separator at an end (`strip_eq_stripBlanks_iff`).

Spacing has no other case (`isLower_of_isSpacing`), so that lower-casing neither brings spacing to
an end nor takes it away from there (`trimmed_lower_iff`). A text and what is left of it agree in
lower case only if nothing was stripped (`lower_strip_eq_lower_iff`).
-/

namespace FederatedLogin.Text

/-! ### What is taken away -/

/-- What stripping takes away stands around what it leaves, and the test accepts all of it. -/
theorem exists_pad (p : Char → Bool) (s : List Char) :
    ∃ before after, s = before ++ (stripBy p s ++ after) ∧
      (∀ c ∈ before, p c = true) ∧ ∀ c ∈ after, p c = true := by
  refine ⟨s.takeWhile p, ((s.dropWhile p).reverse.takeWhile p).reverse, ?_, ?_, ?_⟩
  · rw [stripBy, ← List.reverse_append, List.takeWhile_append_dropWhile, List.reverse_reverse,
      List.takeWhile_append_dropWhile]
  · exact fun c hc => List.mem_takeWhile_imp hc
  · exact fun c hc => List.mem_takeWhile_imp (List.mem_reverse.mp hc)

/-- Nothing is left of a text exactly if the test accepts all of it. -/
theorem stripBy_eq_nil_iff {p : Char → Bool} {s : List Char} :
    stripBy p s = [] ↔ ∀ c ∈ s, p c = true := by
  constructor
  · intro h c hc
    obtain ⟨before, after, hs, hbefore, hafter⟩ := exists_pad p s
    rw [h, List.nil_append] at hs
    rw [hs] at hc
    exact (List.mem_append.mp hc).elim (hbefore c) (hafter c)
  · intro h
    rw [stripBy, List.dropWhile_eq_nil_iff.mpr h]
    rfl

/-- A finer test before makes no difference to stripping spacing. -/
theorem stripBy_stripBy {p : Char → Bool} (h : ∀ c, p c = true → isSpacing c = true)
    (s : List Char) : stripBy isSpacing (stripBy p s) = stripBy isSpacing s := by
  obtain ⟨before, after, hs, hbefore, hafter⟩ := exists_pad p s
  obtain ⟨front, back, hleft, hfront, hback⟩ := exists_pad isSpacing (stripBy p s)
  have hall : s = (before ++ front) ++ (stripBy isSpacing (stripBy p s) ++ (back ++ after)) := by
    rw [hleft] at hs
    simpa only [List.append_assoc] using hs
  have hahead : ∀ c ∈ before ++ front, isSpacing c = true := fun c hc =>
    (List.mem_append.mp hc).elim (fun hc => h c (hbefore c hc)) (hfront c)
  have hbehind : ∀ c ∈ back ++ after, isSpacing c = true := fun c hc =>
    (List.mem_append.mp hc).elim (hback c) (fun hc => h c (hafter c hc))
  by_cases hnone : stripBy isSpacing (stripBy p s) = []
  · rw [hnone, List.nil_append] at hall
    rw [hnone, eq_comm, stripBy_eq_nil_iff, hall]
    exact fun c hc => (List.mem_append.mp hc).elim (hahead c) (hbehind c)
  · have hpad := (trimmed_stripBy (stripBy p s)).stripBy_pad hnone hahead hbehind
    rw [← hall] at hpad
    exact hpad.symm

variable {s : String}

@[simp]
theorem toList_strip (s : String) : (strip s).toList = stripBy isSpacing s.toList :=
  String.toList_ofList

@[simp]
theorem toList_stripBlanks (s : String) : (stripBlanks s).toList = stripBy isBlank s.toList :=
  String.toList_ofList

theorem trimmed_strip (s : String) : Trimmed (strip s).toList := by
  rw [toList_strip]
  exact trimmed_stripBy s.toList

/-- Stripping leaves exactly the texts as they are that have no spacing at an end. -/
theorem strip_eq_self_iff : strip s = s ↔ Trimmed s.toList := by
  constructor
  · intro h
    rw [← h]
    exact trimmed_strip s
  · intro h
    rw [strip, h.stripBy_eq, String.ofList_toList]

/-- Nothing is left of exactly the texts that are spacing throughout. -/
theorem strip_eq_empty_iff : strip s = "" ↔ isAllSpacing s = true := by
  rw [← String.toList_eq_nil_iff, toList_strip, stripBy_eq_nil_iff, isAllSpacing, List.all_eq_true]

/-! ### The two sets of blanks -/

/-- The character is one of the information separators U+001C to U+001F. -/
def IsSeparator (c : Char) : Prop := 28 ≤ c.toNat ∧ c.toNat ≤ 31

/-- A character that is no blank is spacing exactly if it is a separator. -/
theorem isSpacing_iff_isSeparator {c : Char} (h : isBlank c = false) :
    isSpacing c = true ↔ IsSeparator c := by
  simp [isSpacing, h, IsSeparator]

/-- Stripping blanks first makes no difference to stripping spacing. -/
@[simp]
theorem strip_stripBlanks (s : String) : strip (stripBlanks s) = strip s := by
  rw [strip, toList_stripBlanks, stripBy_stripBy fun c => isSpacing_of_isBlank]
  rfl

/-- A text begins and ends with no information separator. -/
structure Unseparated (s : String) : Prop where
  head : ∀ c ∈ s.toList.head?, ¬IsSeparator c
  last : ∀ c ∈ s.toList.getLast?, ¬IsSeparator c

/-- Both ways to strip give the same text exactly if the blanks leave no separator at an end. -/
theorem strip_eq_stripBlanks_iff : strip s = stripBlanks s ↔ Unseparated (stripBlanks s) := by
  obtain ⟨hhead, hlast⟩ := ends_stripBy isBlank s.toList
  have hends : Trimmed (stripBlanks s).toList ↔ Unseparated (stripBlanks s) := by
    rw [← toList_stripBlanks] at hhead hlast
    constructor
    · intro h
      refine ⟨fun c hc => ?_, fun c hc => ?_⟩
      · rw [← isSpacing_iff_isSeparator (hhead c hc), h.head c hc]
        exact Bool.false_ne_true
      · rw [← isSpacing_iff_isSeparator (hlast c hc), h.last c hc]
        exact Bool.false_ne_true
    · intro h
      refine ⟨fun c hc => ?_, fun c hc => ?_⟩
      · exact Bool.eq_false_iff.mpr (mt (isSpacing_iff_isSeparator (hhead c hc)).mp (h.head c hc))
      · exact Bool.eq_false_iff.mpr (mt (isSpacing_iff_isSeparator (hlast c hc)).mp (h.last c hc))
  rw [← hends, ← strip_eq_self_iff, strip_stripBlanks]

/-! ### Spacing and case -/

/-- No run of the case table touches spacing. -/
theorem lowerRuns_miss_spacing :
    ((28, 31) :: blankRanges).all (fun b => lowerRuns.all (·.misses b.1 b.2 false)) = true := by
  decide +kernel

/-- Spacing is in lower case. -/
theorem isLower_of_isSpacing {c : Char} (h : isSpacing c = true) : IsLower c := by
  obtain ⟨b, hb, hfirst, hlast⟩ :
      ∃ b ∈ (28, 31) :: blankRanges, b.1 ≤ c.toNat ∧ c.toNat ≤ b.2 := by
    simp only [isSpacing, isBlank, Bool.or_eq_true, inRanges_iff, Bool.and_eq_true,
      decide_eq_true_eq] at h
    rcases h with ⟨b, hb, hin⟩ | hseparator
    · exact ⟨b, List.mem_cons_of_mem _ hb, hin⟩
    · exact ⟨_, List.mem_cons_self, hseparator⟩
  have hmisses := List.all_eq_true.mp (List.all_eq_true.mp lowerRuns_miss_spacing b hb)
  refine isLower_of_not_covers (fun hdot => ?_) fun r hr =>
    CaseRun.not_covers_of_misses (hmisses r hr) hfirst hlast fun h => absurd h Bool.false_ne_true
  -- The dotted capital lies between the ranges of blanks.
  have hbetween : ∀ b ∈ (28, 31) :: blankRanges, b.2 < 0x130 ∨ 0x130 < b.1 := by decide
  have := hbetween b hb
  omega

/-- In the lower-case form of a text, spacing at an end stands where it stood before. -/
theorem Trimmed.of_lower (h : Trimmed (Text.lower s).toList) : Trimmed s.toList := by
  rw [Text.lower, String.toList_ofList, lowerChars] at h
  constructor
  · intro c hc
    refine Bool.eq_false_iff.mpr fun hspacing => ?_
    obtain ⟨rest, hs⟩ := List.head?_eq_some_iff.mp hc
    have hlower := isLower_of_isSpacing hspacing
    rw [hs, lowerAfter, lowerIn, if_neg hlower.ne_sigma, hlower.simple] at h
    exact Bool.eq_false_iff.mp (h.head c rfl) hspacing
  · intro c hc
    refine Bool.eq_false_iff.mpr fun hspacing => ?_
    obtain ⟨start, hs⟩ := List.getLast?_eq_some_iff.mp hc
    obtain ⟨start', hlast⟩ := lowerAfter_concat [] start c
    have hlower := isLower_of_isSpacing hspacing
    rw [hs, hlast, lowerIn, if_neg hlower.ne_sigma, hlower.simple] at h
    exact Bool.eq_false_iff.mp (h.last c List.getLast?_concat) hspacing

/-- Lower-casing neither brings spacing to an end nor takes it away from there. -/
theorem trimmed_lower_iff : Trimmed (lower s).toList ↔ Trimmed s.toList :=
  ⟨Trimmed.of_lower, Trimmed.lower⟩

/-- A text and what is left of it agree in lower case only if nothing was stripped. -/
theorem lower_strip_eq_lower_iff : lower (strip s) = lower s ↔ strip s = s := by
  constructor
  · intro h
    rw [strip_eq_self_iff, ← trimmed_lower_iff, ← h]
    exact (trimmed_strip s).lower
  · exact congrArg lower

end FederatedLogin.Text
