import FederatedLogin.Proofs.Json.RoundTrip

/-!
# Texts without quotes and brackets

A text without quotes and opening brackets (`Bare`) stands for nothing but a literal or a number,
and so for nothing at all if there is a comma in it. The only limit of the reader that it can go
beyond is the one for whole numbers, and it does so exactly if it is `Oversized`: it starts with too
many digits, which no fraction and no exponent turns into a number of another kind.
-/

namespace FederatedLogin.Json

variable {d d' : Datum} {s u rest front ds : List Char} {n : Option Int} {negative : Bool}
  {depth : Nat} {limit : Limit}

/-- A text has no quote and no opening bracket or brace. -/
def Bare (s : List Char) : Prop := ∀ c ∈ s, c ≠ '"' ∧ c ≠ '[' ∧ c ≠ '{'

/-! ### Literals and numbers -/

/-- A literal or a number stands for one value. -/
theorem Scalar.unique (h : Scalar d u) (h' : Scalar d' u) : d = d' := by
  have hends : Ends [] := nofun
  have hread := (h.readScalar_eq hends).symm.trans (h'.readScalar_eq hends)
  exact (Prod.mk.inj (Except.ok.inj hread)).1

/-- The characters of literals and numbers. -/
def isScalarChar (c : Char) : Bool := c.isAlphanum || c ∈ ['.', '+', '-']

theorem isScalarChar_of_isDigit {c : Char} (hc : c.isDigit = true) : isScalarChar c = true := by
  simp [isScalarChar, Char.isAlphanum, hc]

theorem Fraction.isScalarChar (h : Fraction ds u) : ∀ c ∈ u, isScalarChar c = true := by
  cases h with
  | none => exact nofun
  | point digits =>
    intro c hc
    rcases List.mem_cons.mp hc with rfl | hc
    · rfl
    · exact isScalarChar_of_isDigit (digits.digits c hc)

theorem Exponent.isScalarChar (h : Exponent n u) : ∀ c ∈ u, isScalarChar c = true := by
  cases h with
  | none => exact nofun
  | @some e negative sign ds letter signed digits =>
    intro c hc
    rcases List.mem_cons.mp hc with rfl | hc
    · rcases letter with rfl | rfl <;> rfl
    rcases List.mem_append.mp hc with hc | hc
    · cases signed with
      | none => cases hc
      | plus | minus =>
        obtain rfl := List.mem_singleton.mp hc
        rfl
    · exact isScalarChar_of_isDigit (digits.digits c hc)

theorem Numeral.isScalarChar (h : Numeral negative d u) : ∀ c ∈ u, isScalarChar c = true := by
  cases h with
  | int whole => exact fun c hc => isScalarChar_of_isDigit (whole.digits c hc)
  | float whole fraction exponent =>
    intro c hc
    rcases List.mem_append.mp hc with hc | hc
    · exact isScalarChar_of_isDigit (whole.digits c hc)
    rcases List.mem_append.mp hc with hc | hc
    · exact fraction.isScalarChar c hc
    · exact exponent.isScalarChar c hc

/-- Literals and numbers are written in letters, digits, signs and points. -/
theorem Scalar.isScalarChar (h : Scalar d u) : ∀ c ∈ u, isScalarChar c = true := by
  cases h with
  | number numeral => exact numeral.isScalarChar
  | minus numeral =>
    intro c hc
    rcases List.mem_cons.mp hc with rfl | hc
    · rfl
    · exact numeral.isScalarChar c hc
  | null | yes | no | nan | infinity | minusInfinity => exact List.all_eq_true.mp (by decide)

/-! ### What a bare text stands for -/

/-- Without quotes and opening brackets a value is a literal or a number. -/
theorem Value.scalar_of_bare (h : Value depth d u) (hbare : Bare u) : Scalar d u := by
  have hsimple : Simple d u := by
    cases depth with
    | zero => exact h
    | succ depth =>
      rcases h with simple | composite
      · exact simple
      -- A list starts with a bracket and an object with a brace.
      · cases composite with
        | list items => cases items <;> exact absurd rfl (hbare _ List.mem_cons_self).2.1
        | record entries => cases entries <;> exact absurd rfl (hbare _ List.mem_cons_self).2.2
  cases hsimple with
  | scalar scalar => exact scalar
  | text quoted =>
    cases quoted
    exact absurd rfl (hbare _ List.mem_cons_self).1

/-- A bare text stands for a literal or a number. -/
theorem Denotes.scalar_of_bare (h : Denotes d s) (hbare : Bare s) : Spaced Scalar d s := by
  cases h with
  | intro before written after =>
    have hpart := fun c hc => hbare c (List.mem_append_right _ (List.mem_append_left _ hc))
    exact .intro before (Value.scalar_of_bare written hpart) after

/-- There is no comma in the text of a literal or a number, nor around it. -/
theorem Spaced.comma_notMem (h : Spaced Scalar d s) : ',' ∉ s := by
  cases h with
  | intro before written after =>
    simp only [List.mem_append, not_or]
    exact ⟨fun hc => absurd (before _ hc) (by decide),
      fun hc => absurd (written.isScalarChar _ hc) (by decide),
      fun hc => absurd (after _ hc) (by decide)⟩

/-- Without padding, the text is that of the literal or the number alone. -/
theorem Spaced.scalar (h : Spaced Scalar d s) (hpadding : ∀ c ∈ s, isPadding c = false) :
    Scalar d s := by
  have hnil {p : List Char} (hp : Padding p) (hs : ∀ c ∈ p, c ∈ s) : p = [] :=
    List.eq_nil_iff_forall_not_mem.mpr fun c hc =>
      Bool.eq_false_iff.mp (hpadding c (hs c hc)) (hp c hc)
  cases h with
  | intro before written after =>
    obtain rfl := hnil before fun c hc => List.mem_append_left _ hc
    obtain rfl := hnil after fun c hc => List.mem_append_right _ (List.mem_append_right _ hc)
    rwa [List.append_nil]

/-- A literal or a number stands for its value. -/
theorem Scalar.denotes (h : Scalar d u) : Denotes d u := .of (Simple.value (.scalar h) _)

/-! ### Whole numbers with too many digits -/

/-- A fraction or an exponent is at the front of a text. -/
def GoesOn (s : List Char) : Prop :=
  (∃ ds u rest, Fraction ds u ∧ u ≠ [] ∧ s = u ++ rest) ∨
    ∃ n v rest, Exponent n v ∧ v ≠ [] ∧ s = v ++ rest

/-- A text starts with a whole number that has too many digits, and with no other number. -/
inductive Oversized : List Char → Prop
  | intro {sign front rest : List Char} (signed : sign = [] ∨ sign = ['-']) (whole : Whole front)
      (long : maxDigits < front.length) (stops : ∀ c ∈ rest.head?, c.isDigit = false)
      (alone : ¬GoesOn rest) : Oversized (sign ++ (front ++ rest))

/-- No short text is oversized. -/
theorem Oversized.lt_length (h : Oversized s) : maxDigits < s.length := by
  cases h with
  | intro _ _ long =>
    rw [List.length_append, List.length_append]
    omega

/-- Where there are digits, some are read. -/
theorem exists_digits_cons (h : Digits ds) (rest : List Char) :
    ∃ c cs left, digits (ds ++ rest) = (c :: cs, left) := by
  obtain ⟨c, cs, rfl, hc⟩ := h.exists_cons
  refine ⟨c, (cs ++ rest).takeWhile Char.isDigit, (cs ++ rest).dropWhile Char.isDigit, ?_⟩
  rw [digits, List.span_eq_takeWhile_dropWhile, List.cons_append, List.takeWhile_cons_of_pos hc,
    List.dropWhile_cons_of_pos hc]

theorem readFraction_ne_nil (h : Fraction ds u) (hu : u ≠ []) (rest : List Char) :
    (readFraction (u ++ rest)).1 ≠ [] := by
  cases h with
  | none => exact absurd rfl hu
  | point hds =>
    obtain ⟨c, cs, left, hdigits⟩ := exists_digits_cons hds rest
    rw [List.cons_append, readFraction, hdigits]
    exact List.cons_ne_nil c cs

theorem readExponent_ne_none (h : Exponent n u) (hu : u ≠ []) (rest : List Char) :
    (readExponent (u ++ rest)).1 ≠ none := by
  cases h with
  | none => exact absurd rfl hu
  | @some e negative sign ds letter signed hds =>
    obtain ⟨c, cs, left, hdigits⟩ := exists_digits_cons hds rest
    have hsigns : ∀ r, ds ++ rest ≠ '-' :: r ∧ ds ++ rest ≠ '+' :: r := by
      obtain ⟨x, xs, rfl, hx⟩ := hds.exists_cons
      exact fun r => ⟨fun h => ne_of_isDigit hx rfl (List.cons.inj h).1,
        fun h => ne_of_isDigit hx rfl (List.cons.inj h).1⟩
    rw [List.cons_append, List.append_assoc, readExponent.eq_def]
    cases signed with
    | none => simp_all
    | plus => simp [letter, hdigits]
    | minus => simp [letter, hdigits]

/-- No fraction and no exponent is read exactly if none is at the front. -/
theorem not_goesOn_iff :
    ¬GoesOn s ↔ (readFraction s).1 = [] ∧ (readExponent (readFraction s).2).1 = none := by
  obtain ⟨u, hfraction, hs⟩ := exists_fraction s
  obtain ⟨v, hexponent, hleft⟩ := exists_exponent (readFraction s).2
  constructor
  · intro hnot
    have hu : u = [] := by
      by_contra hne
      exact hnot (.inl ⟨_, u, _, hfraction, hne, hs⟩)
    subst hu
    rw [List.nil_append] at hs
    have hv : v = [] := by
      by_contra hne
      exact hnot (.inr ⟨_, v, _, hexponent, hne, hs.trans hleft⟩)
    subst hv
    generalize (readFraction s).1 = ds at hfraction ⊢
    generalize (readExponent (readFraction s).2).1 = n at hexponent ⊢
    cases hfraction
    cases hexponent
    exact ⟨rfl, rfl⟩
  · rintro ⟨hds, hn⟩
    rw [hds] at hfraction
    have hsame : (readFraction s).2 = s := by
      cases hfraction with
      | none => exact hs.symm
      | point hdigits => exact absurd rfl hdigits.nonempty
    rw [hsame] at hn
    rintro (⟨ds, u, rest, h, hu, rfl⟩ | ⟨n, v, rest, h, hv, rfl⟩)
    · exact readFraction_ne_nil h hu rest hds
    · exact readExponent_ne_none h hv rest hn

/-- A number goes beyond a limit if it has too many digits and neither a fraction nor an
exponent. -/
theorem readTail_eq_beyond_iff :
    (∃ limit, readTail negative front rest = .error (.beyond limit)) ↔
      maxDigits < front.length ∧ ¬GoesOn rest := by
  rw [not_goesOn_iff, readTail]
  simp only [finish]
  generalize (readFraction rest).1 = ds
  generalize readExponent (readFraction rest).2 = exponent
  obtain ⟨n, left⟩ := exponent
  cases ds with
  | cons => simp
  | nil =>
    cases n with
    | some => simp
    | none =>
      simp only [List.isEmpty_nil, Option.isNone_none, Bool.and_self, if_true, and_self, and_true]
      split <;> simp_all

/-- What is left after the digits in front starts with no digit, if there was more than one. -/
theorem readWhole_stops (h : readWhole s = (front, rest)) (hlong : 1 < front.length) :
    ∀ c ∈ rest.head?, c.isDigit = false := by
  rw [readWhole.eq_def] at h
  split at h
  · obtain ⟨rfl, -⟩ := Prod.mk.inj h
    exact absurd hlong (by decide)
  · rw [digits, List.span_eq_takeWhile_dropWhile] at h
    obtain ⟨-, rfl⟩ := Prod.mk.inj h
    intro c hc
    have hhead := List.head?_dropWhile_not Char.isDigit s
    rw [Option.mem_def.mp hc] at hhead
    simpa using hhead

/-- The text of a number is beyond a limit exactly if its whole part has too many digits and
nothing more comes. -/
theorem readNumber_eq_beyond_iff {whole : List Char} :
    (∃ limit, readNumber whole negative s = .error (.beyond limit)) ↔
      ∃ front rest, s = front ++ rest ∧ Whole front ∧ maxDigits < front.length ∧
        (∀ c ∈ rest.head?, c.isDigit = false) ∧ ¬GoesOn rest := by
  rw [readNumber_eq]
  constructor
  · intro h
    split at h
    · obtain ⟨limit, h⟩ := h
      cases h
    · rename_i front rest hne hread
      obtain ⟨hwhole, hs⟩ := whole_of_readWhole hread fun hnil => hne hnil
      obtain ⟨hlong, halone⟩ := readTail_eq_beyond_iff.mp h
      have hmore : 1 < front.length := Nat.lt_trans (by decide) hlong
      exact ⟨front, rest, hs, hwhole, hlong, readWhole_stops hread hmore, halone⟩
  · rintro ⟨front, rest, rfl, hwhole, hlong, hstops, halone⟩
    rw [hwhole.readWhole_eq hstops]
    obtain ⟨c, cs, rfl, -⟩ := hwhole.exists_cons
    exact readTail_eq_beyond_iff.mpr ⟨hlong, halone⟩

/-- The text of a literal or a number is beyond a limit exactly if it is oversized. -/
theorem readScalar_eq_beyond_iff :
    (∃ limit, readScalar s = .error (.beyond limit)) ↔ Oversized s := by
  constructor
  · intro h
    rw [readScalar.eq_def] at h
    split at h
    case h_7 =>
      obtain ⟨front, rest, rfl, hwhole, hlong, hstops, halone⟩ := readNumber_eq_beyond_iff.mp h
      exact .intro (.inr rfl) hwhole hlong hstops halone
    case h_8 =>
      obtain ⟨front, rest, rfl, hwhole, hlong, hstops, halone⟩ := readNumber_eq_beyond_iff.mp h
      exact .intro (.inl rfl) hwhole hlong hstops halone
    all_goals
      obtain ⟨limit, h⟩ := h
      cases h
  · intro h
    cases h with
    | @intro sign front rest signed whole long stops alone =>
      have hnumber : ∀ w negative,
          ∃ limit, readNumber w negative (front ++ rest) = .error (.beyond limit) :=
        fun _ _ => readNumber_eq_beyond_iff.mpr ⟨front, rest, rfl, whole, long, stops, alone⟩
      obtain ⟨c, cs, rfl, hc⟩ := whole.exists_cons
      rcases signed with rfl | rfl
      · rw [List.nil_append, List.cons_append, readScalar_of_isDigit hc]
        exact hnumber _ false
      · rw [List.singleton_append, List.cons_append, readScalar_minus hc]
        exact hnumber _ true

/-- A bare text without padding in front of it goes beyond a limit exactly if it is oversized. -/
theorem read_eq_beyond_iff {c : Char} (hpadding : isPadding c = false)
    (hbare : c ≠ '"' ∧ c ≠ '[' ∧ c ≠ '{') :
    (∃ limit, read (c :: s) = .error (.beyond limit)) ↔ Oversized (c :: s) := by
  have hvalue : ∀ fuel, readValue (fuel + 1) maxDepth (c :: s) = readScalar (c :: s) := by
    intro fuel
    rw [readValue.eq_def]
    simp [hbare]
  rw [← readScalar_eq_beyond_iff, read.eq_def]
  split
  · -- A byte order mark is no part of a number.
    rename_i hmark
    obtain ⟨rfl, rfl⟩ := List.cons.inj hmark
    refine iff_of_false ?_ ?_
    all_goals
      rintro ⟨limit, h⟩
      cases h
  · rw [skip_cons hpadding, hvalue]
    rcases readScalar (c :: s) with stop | ⟨d, rest⟩
    · cases stop <;> simp [Stop.locate]
    · refine iff_of_false ?_ ?_
      · rintro ⟨limit, h⟩
        dsimp only at h
        split at h <;> cases h
      · rintro ⟨limit, h⟩
        cases h

end FederatedLogin.Json
