import FederatedLogin.Json.Reader
import Mathlib.Data.List.Infix
import Mathlib.Data.List.TakeWhile

/-!
# The limits of the JSON reader

The reader goes beyond a limit only on a text that opens too many lists and objects or that has a
run of too many digits in it. A text that does neither is `Within` the limits, and
`readText_of_within` says that it is read or found malformed. That the limits are met by some texts
is said by `readText_of_brackets` and `readText_of_digits`.

Each reader leaves a suffix of its text, and what is within the limits stays so when part of it has
been read. `Reads` says both of one reader, and it composes along with the readers.
-/

namespace FederatedLogin.Json

variable {α β : Type} {depth : Nat} {s rest : List Char}

/-! ### Texts within the limits -/

/-- A list or an object starts with this character. -/
def isOpening (c : Char) : Bool := c = '[' || c = '{'

/-- At most `depth` lists and objects can be opened in a text, and no run of digits is too long for
a whole number. -/
structure Within (depth : Nat) (s : List Char) : Prop where
  openings : s.countP isOpening ≤ depth
  digits : ∀ ds, ds <:+: s → ds.all Char.isDigit = true → ds.length ≤ maxDigits

theorem Within.of_suffix (h : Within depth s) (hrest : rest <:+ s) : Within depth rest where
  openings := hrest.sublist.countP_le.trans h.openings
  digits := fun ds hds => h.digits ds (hds.trans hrest.isInfix)

/-- Past an opening, one level less can be opened. -/
theorem Within.inside {c : Char} (h : Within (depth + 1) (c :: rest)) (hc : isOpening c = true) :
    Within depth rest where
  openings := by
    have hcount := h.openings
    rw [List.countP_cons_of_pos hc] at hcount
    exact Nat.le_of_succ_le_succ hcount
  digits := (h.of_suffix (List.suffix_cons c rest)).digits

/-! ### Readers within the limits -/

/-- A reader leaves a suffix of its text, and goes beyond no limit on a text that is within them. -/
structure Reads (depth : Nat) (s : List Char) (r : Except Stop (α × List Char)) : Prop where
  suffix : ∀ x rest, r = .ok (x, rest) → rest <:+ s
  bounded : Within depth s → ∀ limit, r ≠ .error (.beyond limit)

/-- What is read leaves a suffix. -/
theorem Reads.ok {x : α} (hrest : rest <:+ s) : Reads depth s (.ok (x, rest)) where
  suffix := fun _ _ h => (Prod.mk.inj (Except.ok.inj h)).2 ▸ hrest
  bounded := fun _ _ => nofun

theorem Reads.complaint (c : Complaint) (rest : List Char) :
    Reads depth s (.error (.complaint c rest) : Except Stop (α × List Char)) where
  suffix := nofun
  bounded := fun _ _ => nofun

/-- What has been read before makes no difference. -/
theorem Reads.of_suffix {r : Except Stop (α × List Char)} (hr : Reads depth rest r)
    (hrest : rest <:+ s) : Reads depth s r where
  suffix := fun x left h => (hr.suffix x left h).trans hrest
  bounded := fun hs => hr.bounded (hs.of_suffix hrest)

/-- One reader goes on where another one stops. -/
theorem Reads.bind {r : Except Stop (α × List Char)}
    {f : α × List Char → Except Stop (β × List Char)} (hr : Reads depth s r)
    (hf : ∀ x rest, Reads depth rest (f (x, rest))) : Reads depth s (r >>= f) := by
  rcases r with stop | ⟨x, rest⟩
  · exact ⟨nofun, fun hs limit h => hr.bounded hs limit (congrArg _ (Except.error.inj h))⟩
  · exact (hf x rest).of_suffix (hr.suffix x rest rfl)

/-- What is made of the value that was read makes no difference. -/
theorem Reads.map {r : Except Stop (α × List Char)} (hr : Reads depth s r) (f : α → β) :
    Reads depth s (r >>= fun x => pure (f x.1, x.2)) :=
  hr.bind fun _ _ => .ok List.suffix_rfl

theorem skip_suffix (s : List Char) : skip s <:+ s := List.dropWhile_suffix _

/-- What follows the first character after padding is a suffix. -/
theorem suffix_of_skip {c : Char} (h : skip s = c :: rest) : rest <:+ s :=
  (List.suffix_cons c rest).trans (h ▸ skip_suffix s)

/-! ### Strings, numbers and literals -/

/-- Strings have no limits. -/
theorem reads_readString (opening : List Char) (got : Text) (s : List Char) :
    Reads depth s (readString opening got s) := by
  fun_induction readString opening got s with
  | case1 | case4 | case5 | case6 | case8 | case9 => exact .complaint _ _
  | case2 => exact .ok (List.suffix_cons _ _)
  | case3 got a b c d rest n _ _ ih =>
    exact ih.of_suffix (List.suffix_append ['\\', 'u', a, b, c, d] rest)
  | case7 got c rest _ _ _ _ ih => exact ih.of_suffix (List.suffix_append ['\\', c] rest)
  | case10 got c rest _ _ _ _ _ _ ih => exact ih.of_suffix (List.suffix_cons c rest)

theorem digits_suffix (s : List Char) : (digits s).2 <:+ s := by
  rw [digits, List.span_eq_takeWhile_dropWhile]
  exact List.dropWhile_suffix _

/-- The digits at the front are a run of digits. -/
theorem length_digits_le (h : Within depth s) : (digits s).1.length ≤ maxDigits := by
  rw [digits, List.span_eq_takeWhile_dropWhile]
  exact h.digits _ (List.takeWhile_prefix _).isInfix List.all_takeWhile

theorem readFraction_suffix (s : List Char) : (readFraction s).2 <:+ s := by
  rw [readFraction.eq_def]
  split
  · rename_i rest
    have hrest := (digits_suffix rest).trans (List.suffix_cons '.' rest)
    split
    · exact List.suffix_rfl
    · rename_i hdigits
      rwa [hdigits] at hrest
  · exact List.suffix_rfl

theorem readExponent_suffix (s : List Char) : (readExponent s).2 <:+ s := by
  rw [readExponent.eq_def]
  split
  · exact List.suffix_rfl
  · rename_i e rest
    split
    · -- The sign is optional, so what is left after it is a suffix in three cases.
      split
      rename_i negative body hsign
      have hbody : body <:+ rest := by
        split at hsign
        all_goals obtain ⟨-, rfl⟩ := Prod.mk.inj hsign
        · exact List.suffix_cons _ _
        · exact List.suffix_cons _ _
        · exact List.suffix_rfl
      have hrest := ((digits_suffix body).trans hbody).trans (List.suffix_cons e rest)
      split
      · exact List.suffix_rfl
      · rename_i hdigits
        rwa [hdigits] at hrest
    · exact List.suffix_rfl

/-- A number is within the limit of digits if the text is. -/
theorem reads_readNumber (whole : List Char) (negative : Bool) (s : List Char) :
    Reads depth s (readNumber whole negative s) := by
  rw [readNumber.eq_def]
  lift_lets
  intro number
  have hnumber : ∀ front rest, rest <:+ s → (Within depth s → front.length ≤ maxDigits) →
      Reads depth s (number front rest) := by
    intro front rest hrest hfront
    have hleft := ((readExponent_suffix _).trans (readFraction_suffix rest)).trans hrest
    simp only [number]
    split
    · split
      · rename_i hlong
        exact ⟨nofun, fun hs => absurd (hfront hs) (Nat.not_le.mpr hlong)⟩
      · exact .ok hleft
    · exact .ok hleft
  split
  · rename_i rest
    exact hnumber _ _ (List.suffix_cons '0' rest) fun _ => by decide
  · split
    · exact .complaint _ _
    · rename_i front rest hdigits
      have hrest := digits_suffix s
      have hfront (hs : Within depth s) : (digits s).1.length ≤ maxDigits := length_digits_le hs
      rw [hdigits] at hrest hfront
      exact hnumber _ _ hrest hfront

/-- Outside lists and objects only the number of digits can be too large. -/
theorem reads_readScalar (s : List Char) : Reads depth s (readScalar s) := by
  rw [readScalar.eq_def]
  split
  · exact .ok (List.suffix_append ['n', 'u', 'l', 'l'] _)
  · exact .ok (List.suffix_append ['t', 'r', 'u', 'e'] _)
  · exact .ok (List.suffix_append ['f', 'a', 'l', 's', 'e'] _)
  · exact .ok (List.suffix_append ['N', 'a', 'N'] _)
  · exact .ok (List.suffix_append ['I', 'n', 'f', 'i', 'n', 'i', 't', 'y'] _)
  · exact .ok (List.suffix_append ['-', 'I', 'n', 'f', 'i', 'n', 'i', 't', 'y'] _)
  · exact (reads_readNumber _ _ _).of_suffix (List.suffix_cons _ _)
  · exact reads_readNumber _ _ _

/-! ### Values -/

/-- What is inside of a list or an object may open one level less. -/
theorem Reads.inside {c : Char} {r : Except Stop (α × List Char)} (hr : Reads depth rest r)
    (hc : isOpening c = true) : Reads (depth + 1) (c :: rest) r where
  suffix := fun x left h => (hr.suffix x left h).trans (List.suffix_cons c rest)
  bounded := fun hs => hr.bounded (hs.inside hc)

/-- Where no level is left, a list or an object is beyond the limits. -/
theorem reads_tooDeep {c : Char} (hc : isOpening c = true) :
    Reads 0 (c :: rest) (.error (.beyond .tooDeep) : Except Stop (α × List Char)) where
  suffix := nofun
  bounded := fun hs => by
    have hcount := hs.openings
    rw [List.countP_cons_of_pos hc] at hcount
    exact absurd hcount (Nat.not_succ_le_zero _)

/-- The reader of values is within the limits if those of items and entries are. -/
theorem reads_readValue {fuel : Nat}
    (hitems : ∀ depth s, Reads depth s (readItems fuel depth [] s))
    (hentries : ∀ depth s, Reads depth s (readEntries fuel depth [] s)) (depth : Nat)
    (s : List Char) : Reads depth s (readValue (fuel + 1) depth s) := by
  rw [readValue.eq_def]
  simp only
  split
  · exact .complaint _ _
  · rename_i rest
    exact ((reads_readString _ _ rest).map Datum.text).of_suffix (List.suffix_cons _ rest)
  · rename_i rest
    split
    · exact reads_tooDeep rfl
    · refine Reads.inside ?_ rfl
      split
      · rename_i hskip
        exact .ok (suffix_of_skip hskip)
      · exact ((hitems _ _).map Datum.list).of_suffix (skip_suffix rest)
  · rename_i rest
    split
    · exact reads_tooDeep rfl
    · refine Reads.inside ?_ rfl
      split
      · rename_i hskip
        exact .ok (suffix_of_skip hskip)
      · exact ((hentries _ _).map Datum.record).of_suffix (skip_suffix rest)
  · exact reads_readScalar s

/-- One more item goes beyond no limit if a value and the items after it do not. -/
theorem reads_readItems {fuel : Nat} (hvalue : ∀ s, Reads depth s (readValue fuel depth s))
    (hitems : ∀ got s, Reads depth s (readItems fuel depth got s)) (got : List Datum)
    (s : List Char) : Reads depth s (readItems (fuel + 1) depth got s) := by
  rw [readItems]
  refine (hvalue s).bind fun d rest => ?_
  simp only
  split
  · rename_i hskip
    exact .ok (suffix_of_skip hskip)
  · rename_i hskip
    exact (hitems _ _).of_suffix ((skip_suffix _).trans (suffix_of_skip hskip))
  · exact .complaint _ _

/-- One more entry goes beyond no limit if a value and the entries after it do not. -/
theorem reads_readEntries {fuel : Nat} (hvalue : ∀ s, Reads depth s (readValue fuel depth s))
    (hentries : ∀ got s, Reads depth s (readEntries fuel depth got s))
    (got : List (Text × Datum)) (s : List Char) :
    Reads depth s (readEntries (fuel + 1) depth got s) := by
  rw [readEntries.eq_def]
  simp only
  split
  · rename_i rest
    refine ((reads_readString _ _ rest).bind fun key rest => ?_).of_suffix
      (List.suffix_cons _ rest)
    simp only
    split
    · rename_i hskip
      refine ((hvalue _).bind fun d rest => ?_).of_suffix
        ((skip_suffix _).trans (suffix_of_skip hskip))
      simp only
      split
      · rename_i hskip
        exact .ok (suffix_of_skip hskip)
      · rename_i hskip
        exact (hentries _ _).of_suffix ((skip_suffix _).trans (suffix_of_skip hskip))
      · exact .complaint _ _
    · exact .complaint _ _
  · exact .complaint _ _

/-- Values, items and entries are read within the limits, whatever the fuel. -/
theorem reads_value_items_entries (fuel : Nat) :
    (∀ depth s, Reads depth s (readValue fuel depth s)) ∧
      (∀ depth got s, Reads depth s (readItems fuel depth got s)) ∧
      ∀ depth got s, Reads depth s (readEntries fuel depth got s) := by
  -- The readers call each other with one unit of fuel less, so all three go in one induction.
  induction fuel with
  | zero =>
    exact ⟨fun _ _ => .complaint _ _, fun _ _ _ => .complaint _ _, fun _ _ _ => .complaint _ _⟩
  | succ fuel ih =>
    obtain ⟨hvalue, hitems, hentries⟩ := ih
    exact ⟨reads_readValue (fun depth => hitems depth []) (fun depth => hentries depth []),
      fun depth => reads_readItems (hvalue depth) (hitems depth),
      fun depth => reads_readEntries (hvalue depth) (hentries depth)⟩

/-- A text within the limits is read, or it is malformed. -/
theorem readText_of_within {t : String} (h : Within maxDepth t.toList) (limit : Limit) :
    readText t ≠ .error (.beyond limit) := by
  rw [readText, read.eq_def]
  split
  · exact nofun
  · split
    · rename_i stop hread
      have hreads := (reads_value_items_entries (2 * t.toList.length + 2)).1 maxDepth
      have hbounded := (hreads (skip t.toList)).bounded (h.of_suffix (skip_suffix _))
      cases stop with
      | complaint => exact nofun
      | beyond limit' => exact absurd hread (hbounded limit')
    · split <;> exact nofun

/-! ### Texts beyond the limits -/

theorem skip_cons {c : Char} (hc : isPadding c = false) : skip (c :: s) = c :: s :=
  List.dropWhile_cons_of_neg (by rw [hc]; exact Bool.false_ne_true)

/-- More brackets in a row than levels are left go beyond the depth, whatever follows them. -/
theorem readValue_of_brackets {fuel : Nat} (hfuel : 2 * depth < fuel) (rest : List Char) :
    readValue fuel depth (List.replicate (depth + 1) '[' ++ rest) =
      .error (.beyond .tooDeep) := by
  -- Every level costs two units of fuel: one for the list and one for its first item.
  induction depth generalizing fuel with
  | zero =>
    obtain ⟨fuel, rfl⟩ := Nat.exists_eq_add_of_lt hfuel
    rw [readValue.eq_def]
    rfl
  | succ depth ih =>
    obtain ⟨fuel, rfl⟩ : ∃ n, fuel = n + 2 := ⟨fuel - 2, by omega⟩
    have hinside : readValue fuel depth (List.replicate (depth + 1) '[' ++ rest) =
        .error (.beyond .tooDeep) := ih (by omega)
    have hitem : readItems (fuel + 1) depth [] (List.replicate (depth + 1) '[' ++ rest) =
        .error (.beyond .tooDeep) := by
      rw [readItems, hinside]
      rfl
    rw [List.replicate_succ, List.cons_append] at hitem
    rw [List.replicate_succ, List.replicate_succ, List.cons_append, List.cons_append, readValue]
    simp [skip_cons, isPadding, hitem, bind, Except.bind]

/-- A text without padding before it is beyond a limit if its first value is. -/
theorem readText_of_readValue {t : String} {c : Char} {limit : Limit} (ht : t.toList = c :: s)
    (hmark : c ≠ '\ufeff') (hpadding : isPadding c = false)
    (hread : readValue (2 * t.toList.length + 2) maxDepth (c :: s) = .error (.beyond limit)) :
    readText t = .error (.beyond limit) := by
  rw [readText, read.eq_def]
  split
  · rename_i hcons
    exact absurd (List.cons.inj (ht.symm.trans hcons)).1 hmark
  · have hskip : skip t.toList = c :: s := by rw [ht, skip_cons hpadding]
    rw [hskip, hread]
    rfl

/-- A text that starts with too many brackets is beyond the limits. -/
theorem readText_of_brackets {t : String} {n : Nat} (hn : maxDepth < n)
    (ht : t.toList = List.replicate n '[' ++ rest) :
    readText t = .error (.beyond .tooDeep) := by
  obtain ⟨k, rfl⟩ := Nat.exists_eq_add_of_lt hn
  have hsplit : t.toList =
      List.replicate (maxDepth + 1) '[' ++ (List.replicate k '[' ++ rest) := by
    rw [ht, ← List.append_assoc, List.replicate_append_replicate]
    congr 2
    omega
  have hfuel : 2 * maxDepth < 2 * t.toList.length + 2 := by
    rw [hsplit, List.length_append, List.length_replicate]
    omega
  have hread := readValue_of_brackets hfuel (List.replicate k '[' ++ rest)
  rw [List.replicate_succ, List.cons_append] at hread hsplit
  exact readText_of_readValue hsplit (by decide) rfl hread

/-- A whole number of too many digits is beyond the limits. -/
theorem readNumber_of_digits (whole : List Char) (negative : Bool) {c : Char} (hc : c ≠ '0')
    (hdigits : ∀ x ∈ c :: s, x.isDigit = true) (hlong : maxDigits ≤ s.length) :
    readNumber whole negative (c :: s) = .error (.beyond (.hugeInteger (s.length + 1))) := by
  have hspan : digits (c :: s) = (c :: s, []) := by
    rw [digits, List.span_eq_takeWhile_dropWhile, List.takeWhile_eq_self_iff.mpr hdigits,
      List.dropWhile_eq_nil_iff.mpr hdigits]
  rw [readNumber.eq_def]
  lift_lets
  intro number
  split
  · rename_i hzero
    exact absurd (List.cons.inj hzero).1 hc
  · rw [hspan]
    exact if_pos (Nat.lt_succ_of_le hlong)

/-- A text of too many digits is beyond the limits. -/
theorem readText_of_digits {t : String} {c : Char} (ht : t.toList = c :: s) (hc : c ≠ '0')
    (hdigits : ∀ x ∈ c :: s, x.isDigit = true) (hlong : maxDigits ≤ s.length) :
    readText t = .error (.beyond (.hugeInteger (s.length + 1))) := by
  have hne (x : Char) (hx : x.isDigit = false) : c ≠ x := by
    rintro rfl
    exact absurd ((hdigits c List.mem_cons_self).symm.trans hx) nofun
  have hpadding : isPadding c = false := by simp [isPadding, hne]
  refine readText_of_readValue ht (hne _ (by decide)) hpadding ?_
  have hscalar : readScalar (c :: s) = readNumber (c :: s) false (c :: s) := by
    rw [readScalar.eq_def]
    simp [hne]
  rw [readValue.eq_def]
  simp only
  rw [← readNumber_of_digits (c :: s) false hc hdigits hlong, ← hscalar]
  simp [hne]

end FederatedLogin.Json
