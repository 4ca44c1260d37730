import FederatedLogin.Proofs.Json.Limits

/-!
# Literals and numbers in a JSON text

A number has digits without a leading zero (`Whole`), and may have a fraction and an exponent; one
that has neither is a whole number, and may have 4300 digits. `Scalar` has the literals as well.

A literal is read wherever it stands, a number up to a character that cannot be part of it
(`Scalar.readScalar_eq`). Whatever is read is one of the two (`scalar_of_readScalar`).
-/

namespace FederatedLogin.Json

variable {d : Datum} {s u v ds rest front : List Char} {n : Option Int} {negative : Bool}

/-! ### The parts of a number -/

/-- One digit or more. -/
structure Digits (ds : List Char) : Prop where
  nonempty : ds ≠ []
  digits : ∀ c ∈ ds, c.isDigit = true

/-- The digits of a whole number: only zero itself starts with a zero. -/
structure Whole (ds : List Char) : Prop extends Digits ds where
  lead : ds.head? = some '0' → ds = ['0']

/-- The digits of a fraction, and how it is written: with a point, if there are any. -/
inductive Fraction : List Char → List Char → Prop
  | none : Fraction [] []
  | point {ds : List Char} (digits : Digits ds) : Fraction ds ('.' :: ds)

/-- The signs that an exponent may have. -/
inductive Sign : Bool → List Char → Prop
  | none : Sign false []
  | plus : Sign false ['+']
  | minus : Sign true ['-']

/-- A whole number with a sign. -/
def withSign (negative : Bool) (n : Nat) : Int := if negative then -n else n

/-- An exponent, and how it is written. -/
inductive Exponent : Option Int → List Char → Prop
  | none : Exponent none []
  | some {e : Char} {negative : Bool} {sign ds : List Char} (letter : e = 'e' ∨ e = 'E')
      (signed : Sign negative sign) (digits : Digits ds) :
      Exponent (some (withSign negative (ofDigits ds))) (e :: (sign ++ ds))

/-- A number, and how it is written after its sign. -/
inductive Numeral (negative : Bool) : Datum → List Char → Prop
  | int {front : List Char} (whole : Whole front) (short : front.length ≤ maxDigits) :
      Numeral negative (.int (withSign negative (ofDigits front))) front
  | float {front ds u v : List Char} {n : Option Int} (whole : Whole front)
      (fraction : Fraction ds u) (exponent : Exponent n v) (proper : ds ≠ [] ∨ n ≠ none) :
      Numeral negative (.float (Binary64.ofDecimal negative (ofDigits (front ++ ds))
        (n.getD 0 - ds.length))) (front ++ (u ++ v))

/-- A literal or a number, and how it is written. -/
inductive Scalar : Datum → List Char → Prop
  | null : Scalar .null ['n', 'u', 'l', 'l']
  | yes : Scalar (.bool true) ['t', 'r', 'u', 'e']
  | no : Scalar (.bool false) ['f', 'a', 'l', 's', 'e']
  | nan : Scalar (.float .nan) ['N', 'a', 'N']
  | infinity : Scalar (.float (.infinity false)) ['I', 'n', 'f', 'i', 'n', 'i', 't', 'y']
  | minusInfinity :
      Scalar (.float (.infinity true)) ['-', 'I', 'n', 'f', 'i', 'n', 'i', 't', 'y']
  | number {d : Datum} {u : List Char} (numeral : Numeral false d u) : Scalar d u
  | minus {d : Datum} {u : List Char} (numeral : Numeral true d u) : Scalar d ('-' :: u)

/-- No number goes on with the text. -/
def Ends (rest : List Char) : Prop :=
  ∀ c ∈ rest.head?, c.isDigit = false ∧ c ≠ '.' ∧ c ≠ 'e' ∧ c ≠ 'E'

/-! ### Digits -/

theorem ne_of_isDigit {c x : Char} (hc : c.isDigit = true) (hx : x.isDigit = false) : c ≠ x := by
  rintro rfl
  exact absurd (hc.symm.trans hx) nofun

/-- The digits at the front are read up to a character that is none. -/
theorem digits_append (hds : ∀ c ∈ ds, c.isDigit = true)
    (hrest : ∀ c ∈ rest.head?, c.isDigit = false) : digits (ds ++ rest) = (ds, rest) := by
  have htake : rest.takeWhile Char.isDigit = [] := by
    cases rest with
    | nil => rfl
    | cons c rest => exact List.takeWhile_cons_of_neg (by simp [hrest c rfl])
  have hdrop : rest.dropWhile Char.isDigit = rest := by
    cases rest with
    | nil => rfl
    | cons c rest => exact List.dropWhile_cons_of_neg (by simp [hrest c rfl])
  rw [digits, List.span_eq_takeWhile_dropWhile, List.takeWhile_append_of_pos hds,
    List.dropWhile_append_of_pos hds, htake, hdrop, List.append_nil]

/-- What is read as digits are digits, and the rest comes after them. -/
theorem digits_spec (s : List Char) :
    (∀ c ∈ (digits s).1, c.isDigit = true) ∧ s = (digits s).1 ++ (digits s).2 := by
  rw [digits, List.span_eq_takeWhile_dropWhile]
  exact ⟨fun c hc => List.mem_takeWhile_imp hc, List.takeWhile_append_dropWhile.symm⟩

theorem digits_of_eq (h : digits s = (ds, rest)) (hne : ds ≠ []) :
    Digits ds ∧ s = ds ++ rest := by
  obtain ⟨hdigits, hs⟩ := digits_spec s
  rw [h] at hdigits hs
  exact ⟨⟨hne, hdigits⟩, hs⟩

theorem Digits.exists_cons (h : Digits ds) : ∃ c cs, ds = c :: cs ∧ c.isDigit = true := by
  obtain ⟨c, cs, rfl⟩ := List.exists_cons_of_ne_nil h.nonempty
  exact ⟨c, cs, rfl, h.digits c List.mem_cons_self⟩

/-! ### Fractions and exponents -/

/-- A written fraction is read back, unless more digits or a point follow. -/
theorem Fraction.readFraction_eq (h : Fraction ds u) (hdigit : ∀ c ∈ rest.head?, c.isDigit = false)
    (hpoint : rest.head? ≠ some '.') : readFraction (u ++ rest) = (ds, rest) := by
  cases h with
  | none =>
    rw [List.nil_append, readFraction]
    rintro rest' rfl
    exact hpoint rfl
  | point hds =>
    obtain ⟨c, cs, rfl, -⟩ := hds.exists_cons
    rw [List.cons_append, readFraction, digits_append hds.digits hdigit]

/-- What is read as a fraction is written in front of the rest. -/
theorem exists_fraction (s : List Char) :
    ∃ u, Fraction (readFraction s).1 u ∧ s = u ++ (readFraction s).2 := by
  rw [readFraction.eq_def]
  split
  · rename_i rest
    split
    · exact ⟨[], .none, rfl⟩
    · rename_i ds rest' hne hdigits
      have hnonempty : ds ≠ [] := fun hnil => hne hnil
      obtain ⟨hds, rfl⟩ := digits_of_eq hdigits hnonempty
      exact ⟨'.' :: ds, .point hds, rfl⟩
  · exact ⟨[], .none, rfl⟩

/-- A written exponent is read back where the number ends. -/
theorem Exponent.readExponent_eq (h : Exponent n v) (hrest : Ends rest) :
    readExponent (v ++ rest) = (n, rest) := by
  cases h with
  | none =>
    rw [List.nil_append, readExponent.eq_def]
    split
    · rfl
    · rename_i e rest
      obtain ⟨-, -, hlower, hupper⟩ := hrest e rfl
      exact if_neg fun h => h.elim hlower hupper
  | @some e negative sign ds letter hsign hds =>
    have hread := digits_append hds.digits fun c hc => (hrest c hc).1
    obtain ⟨c, cs, rfl, hc⟩ := hds.exists_cons
    have hminus : c ≠ '-' := ne_of_isDigit hc rfl
    have hplus : c ≠ '+' := ne_of_isDigit hc rfl
    rw [List.cons_append, List.append_assoc, readExponent.eq_def]
    -- The sign is told from the digits by its character.
    cases hsign with
    | none => simp_all [withSign]
    | plus => simp_all [withSign]
    | minus => simp_all [withSign]

/-- What is read as an exponent is written in front of the rest. -/
theorem exists_exponent (s : List Char) :
    ∃ v, Exponent (readExponent s).1 v ∧ s = v ++ (readExponent s).2 := by
  rw [readExponent.eq_def]
  split
  · exact ⟨[], .none, rfl⟩
  · rename_i e rest
    split
    · rename_i letter
      split
      rename_i negative body hsign
      obtain ⟨sign, hsigned, rfl⟩ : ∃ sign, Sign negative sign ∧ rest = sign ++ body := by
        split at hsign
        all_goals obtain ⟨rfl, rfl⟩ := Prod.mk.inj hsign
        · exact ⟨['-'], .minus, rfl⟩
        · exact ⟨['+'], .plus, rfl⟩
        · exact ⟨[], .none, rfl⟩
      split
      · exact ⟨[], .none, rfl⟩
      · rename_i ds rest' hne hdigits
        obtain ⟨hds, rfl⟩ := digits_of_eq hdigits fun hnil => hne hnil
        exact ⟨_, .some letter hsigned hds, by simp⟩
    · exact ⟨[], .none, rfl⟩

/-- What comes after the fraction of a number is neither a digit nor a point. -/
theorem Exponent.head? (h : Exponent n v) (hrest : Ends rest) :
    ∀ c ∈ (v ++ rest).head?, c.isDigit = false ∧ c ≠ '.' := by
  cases h with
  | none => exact fun c hc => ⟨(hrest c hc).1, (hrest c hc).2.1⟩
  | some letter =>
    rintro c hc
    obtain rfl := Option.some.inj hc
    rcases letter with rfl | rfl <;> decide

/-- What comes after the whole part of a number is no digit. -/
theorem Fraction.head? (h : Fraction ds u) (hexponent : Exponent n v) (hrest : Ends rest) :
    ∀ c ∈ (u ++ (v ++ rest)).head?, c.isDigit = false := by
  cases h with
  | none => exact fun c hc => (hexponent.head? hrest c hc).1
  | point =>
    rintro c hc
    obtain rfl := Option.some.inj hc
    decide

/-! ### Numbers -/

/-- The digits of a whole number in front of a text, and the rest of the text. -/
def readWhole (s : List Char) : List Char × List Char :=
  match s with
  | '0' :: rest => (['0'], rest)
  | _ => digits s

/-- The number of the given parts, with the text after it: a whole number if it has neither a
fraction nor an exponent. -/
def finish (negative : Bool) (front ds : List Char) (n : Option Int) (rest : List Char) :
    Except Stop (Datum × List Char) :=
  if ds.isEmpty && n.isNone then
    if maxDigits < front.length then .error (.beyond (.hugeInteger front.length))
    else .ok (.int (withSign negative (ofDigits front)), rest)
  else
    .ok (.float (Binary64.ofDecimal negative (ofDigits (front ++ ds)) (n.getD 0 - ds.length)), rest)

/-- The number that starts with the digits of a whole number, with the text after it. -/
def readTail (negative : Bool) (front rest : List Char) : Except Stop (Datum × List Char) :=
  let fraction := readFraction rest
  let exponent := readExponent fraction.2
  finish negative front fraction.1 exponent.1 exponent.2

/-- A number is read as the digits of a whole number first, and then the rest of it. -/
theorem readNumber_eq (whole : List Char) (negative : Bool) (s : List Char) :
    readNumber whole negative s = match readWhole s with
      | ([], _) => .error (.complaint .expectingValue whole)
      | (front, rest) => readTail negative front rest := by
  rw [readNumber.eq_def]
  lift_lets
  intro number
  have hnumber : number = readTail negative := rfl
  rw [hnumber]
  split
  · rfl
  · rename_i hzero
    have hdigits : readWhole s = digits s := by
      rw [readWhole.eq_def]
      split
      · rename_i rest
        exact absurd rfl (hzero rest)
      · rfl
    exact hdigits ▸ rfl

/-- The digits of a whole number are read up to a character that is no digit. -/
theorem Whole.readWhole_eq (h : Whole front) (hrest : ∀ c ∈ rest.head?, c.isDigit = false) :
    readWhole (front ++ rest) = (front, rest) := by
  rw [readWhole.eq_def]
  split
  · rename_i rest' hzero
    -- Only zero starts with a zero.
    obtain ⟨c, cs, hfront, -⟩ := h.exists_cons
    have hlead : c = '0' := by
      rw [hfront] at hzero
      exact (List.cons.inj hzero).1
    have hhead : front.head? = some '0' := by
      rw [hfront, hlead, List.head?_cons]
    obtain rfl := h.lead hhead
    exact Prod.ext rfl (List.cons.inj hzero).2.symm
  · exact digits_append h.digits hrest

/-- What is read as a whole part is one, without a leading zero. -/
theorem whole_of_readWhole (h : readWhole s = (front, rest)) (hne : front ≠ []) :
    Whole front ∧ s = front ++ rest := by
  rw [readWhole.eq_def] at h
  split at h
  · -- A zero in front is read alone.
    obtain ⟨rfl, rfl⟩ := Prod.mk.inj h
    exact ⟨⟨⟨hne, List.forall_mem_singleton.mpr rfl⟩, fun _ => rfl⟩, rfl⟩
  · rename_i hzero
    obtain ⟨hdigits, rfl⟩ := digits_of_eq h hne
    refine ⟨⟨hdigits, fun hlead => ?_⟩, rfl⟩
    obtain ⟨cs, rfl⟩ := List.head?_eq_some_iff.mp hlead
    exact absurd rfl (hzero (cs ++ rest))

/-- A number is read with the fraction and the exponent that it has. -/
theorem readTail_append (hfraction : Fraction ds u) (hexponent : Exponent n v) (hrest : Ends rest) :
    readTail negative front (u ++ (v ++ rest)) = finish negative front ds n rest := by
  have hhead := hexponent.head? hrest
  rw [readTail, hfraction.readFraction_eq (fun c hc => (hhead c hc).1)
    fun hpoint => (hhead '.' hpoint).2 rfl]
  simp only [hexponent.readExponent_eq hrest]

/-- Every number is read with some fraction and some exponent. -/
theorem exists_readTail (negative : Bool) (front left : List Char) :
    ∃ ds u n v rest, Fraction ds u ∧ Exponent n v ∧ left = u ++ (v ++ rest) ∧
      readTail negative front left = finish negative front ds n rest := by
  obtain ⟨u, hfraction, hleft⟩ := exists_fraction left
  obtain ⟨v, hexponent, hleft'⟩ := exists_exponent (readFraction left).2
  exact ⟨_, u, _, v, _, hfraction, hexponent, hleft' ▸ hleft, rfl⟩

/-- Without a fraction or an exponent the number is whole. -/
theorem finish_none (negative : Bool) (rest : List Char) (hshort : front.length ≤ maxDigits) :
    finish negative front [] none rest = .ok (.int (withSign negative (ofDigits front)), rest) :=
  if_neg (Nat.not_lt.mpr hshort)

/-- With a fraction or an exponent the number is a float. -/
theorem finish_some (negative : Bool) (front rest : List Char) (proper : ds ≠ [] ∨ n ≠ none) :
    finish negative front ds n rest = .ok (.float (Binary64.ofDecimal negative
      (ofDigits (front ++ ds)) (n.getD 0 - ds.length)), rest) := by
  refine if_neg fun hnone => ?_
  obtain ⟨hds, hn⟩ := Bool.and_eq_true_iff.mp hnone
  rcases proper with hne | hne
  · exact hne (List.isEmpty_iff.mp hds)
  · exact hne (Option.isNone_iff_eq_none.mp hn)

/-- A number is read up to a character that cannot be part of it. -/
theorem Numeral.readNumber_eq (h : Numeral negative d u) (whole : List Char) (hrest : Ends rest) :
    readNumber whole negative (u ++ rest) = .ok (d, rest) := by
  -- The digits in front are read first, whatever comes after them.
  have hwhole {front v : List Char} (hfront : Whole front)
      (hhead : ∀ c ∈ (v ++ rest).head?, c.isDigit = false) :
      readNumber whole negative (front ++ (v ++ rest)) = readTail negative front (v ++ rest) := by
    rw [Json.readNumber_eq, hfront.readWhole_eq hhead]
    obtain ⟨c, cs, rfl, -⟩ := hfront.exists_cons
    rfl
  cases h with
  | int hfront short =>
    have hread := hwhole (v := []) hfront fun c hc => (hrest c hc).1
    rw [List.nil_append] at hread
    exact hread.trans ((readTail_append .none .none hrest).trans (finish_none _ _ short))
  | @float front ds v w n hfront hfraction hexponent proper =>
    have hread := hwhole (v := v ++ w) hfront (by
      rw [List.append_assoc]
      exact hfraction.head? hexponent hrest)
    rw [List.append_assoc, hread, List.append_assoc, readTail_append hfraction hexponent hrest]
    exact finish_some _ _ _ proper

/-- What is read as a number is one. -/
theorem numeral_of_readNumber {whole : List Char}
    (h : readNumber whole negative s = .ok (d, rest)) :
    ∃ u, Numeral negative d u ∧ s = u ++ rest := by
  rw [readNumber_eq] at h
  split at h
  · exact absurd h nofun
  rename_i front left hne hread
  obtain ⟨hfront, rfl⟩ := whole_of_readWhole hread fun hnil => hne hnil
  obtain ⟨ds, u, n, v, left', hfraction, hexponent, rfl, htail⟩ :=
    exists_readTail negative front left
  rw [htail] at h
  by_cases proper : ds ≠ [] ∨ n ≠ none
  · rw [finish_some _ _ _ proper] at h
    obtain ⟨rfl, rfl⟩ := Prod.mk.inj (Except.ok.inj h)
    exact ⟨_, .float hfront hfraction hexponent proper, by simp⟩
  · obtain ⟨rfl, rfl⟩ : ds = [] ∧ n = none := by simpa [not_or] using proper
    -- Without a fraction and an exponent, nothing is written after the digits.
    cases hfraction with
    | point hdigits => exact absurd rfl hdigits.nonempty
    | none =>
      cases hexponent
      rcases Nat.lt_or_ge maxDigits front.length with hlong | hshort
      · rw [finish] at h
        simp [hlong] at h
      · rw [finish_none _ _ hshort] at h
        obtain ⟨rfl, rfl⟩ := Prod.mk.inj (Except.ok.inj h)
        exact ⟨front, .int hfront hshort, rfl⟩

/-! ### Literals -/

/-- A number starts with a digit. -/
theorem Numeral.exists_cons (h : Numeral negative d u) :
    ∃ c cs, u = c :: cs ∧ c.isDigit = true := by
  cases h with
  | int whole => exact whole.exists_cons
  | float whole =>
    obtain ⟨c, cs, rfl, hc⟩ := whole.exists_cons
    exact ⟨c, _, rfl, hc⟩

theorem readScalar_of_isDigit {c : Char} (hc : c.isDigit = true) :
    readScalar (c :: s) = readNumber (c :: s) false (c :: s) := by
  rw [readScalar.eq_def]
  simp [ne_of_isDigit hc]

/-- A minus sign in front of a digit begins a number. -/
theorem readScalar_minus {c : Char} (hc : c.isDigit = true) :
    readScalar ('-' :: c :: s) = readNumber ('-' :: c :: s) true (c :: s) := by
  rw [readScalar.eq_def]
  simp [ne_of_isDigit hc]

/-- A literal is read wherever it stands, and a number up to a character that cannot be part of
it. -/
theorem Scalar.readScalar_eq (h : Scalar d u) (hrest : Ends rest) :
    readScalar (u ++ rest) = .ok (d, rest) := by
  cases h with
  | null | yes | no | nan | infinity | minusInfinity => rfl
  | number numeral =>
    have hread := fun whole => numeral.readNumber_eq whole hrest
    obtain ⟨c, cs, rfl, hc⟩ := numeral.exists_cons
    rw [List.cons_append] at hread ⊢
    rw [readScalar_of_isDigit hc, hread]
  | minus numeral =>
    have hread := fun whole => numeral.readNumber_eq whole hrest
    obtain ⟨c, cs, rfl, hc⟩ := numeral.exists_cons
    rw [List.cons_append] at hread
    rw [List.cons_append, List.cons_append, readScalar_minus hc, hread]

/-- What is read as a literal or a number is one. -/
theorem scalar_of_readScalar (h : readScalar s = .ok (d, rest)) :
    ∃ u, Scalar d u ∧ s = u ++ rest := by
  rw [readScalar.eq_def] at h
  split at h
  case h_7 =>
    obtain ⟨u, numeral, rfl⟩ := numeral_of_readNumber h
    exact ⟨_, .minus numeral, rfl⟩
  case h_8 =>
    obtain ⟨u, numeral, rfl⟩ := numeral_of_readNumber h
    exact ⟨u, .number numeral, rfl⟩
  all_goals obtain ⟨rfl, rfl⟩ := Prod.mk.inj (Except.ok.inj h)
  · exact ⟨_, .null, rfl⟩
  · exact ⟨_, .yes, rfl⟩
  · exact ⟨_, .no, rfl⟩
  · exact ⟨_, .nan, rfl⟩
  · exact ⟨_, .infinity, rfl⟩
  · exact ⟨_, .minusInfinity, rfl⟩

/-- A literal or a number stands for null, a truth value, a whole number or a double. -/
theorem Scalar.kind (h : Scalar d u) :
    d = .null ∨ (∃ b, d = .bool b) ∨ (∃ n, d = .int n) ∨ ∃ x, d = .float x := by
  cases h with
  | null => exact .inl rfl
  | yes | no => exact .inr (.inl ⟨_, rfl⟩)
  | nan | infinity | minusInfinity => exact .inr (.inr (.inr ⟨_, rfl⟩))
  | number numeral | minus numeral =>
    cases numeral with
    | int => exact .inr (.inr (.inl ⟨_, rfl⟩))
    | float => exact .inr (.inr (.inr ⟨_, rfl⟩))

/-- A literal or a number starts with a letter, a digit or a minus. -/
theorem Scalar.exists_cons (h : Scalar d u) :
    ∃ c cs, u = c :: cs ∧ (c.isDigit = true ∨ c ∈ ['n', 't', 'f', 'N', 'I', '-']) := by
  cases h with
  | number numeral =>
    obtain ⟨c, cs, rfl, hc⟩ := numeral.exists_cons
    exact ⟨c, cs, rfl, .inl hc⟩
  | null | yes | no | nan | infinity | minusInfinity | minus =>
    exact ⟨_, _, rfl, .inr (by decide)⟩

end FederatedLogin.Json
