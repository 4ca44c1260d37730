import FederatedLogin.Proofs.Json.Keys
import FederatedLogin.Proofs.Json.Scalars
import FederatedLogin.Proofs.Json.Strings
import FederatedLogin.Proofs.Results

/-!
# The grammar of JSON texts

`Denotes` says which value a text stands for, without a reader: padding may stand around every value
and every key (`Spaced`), commas between items and entries (`Separated`), and brackets or braces
around them (`Enclosed`). The value of an object comes of its entries one after the other
(`Datum.collect`), so that keys may come more than once.

The reader reads exactly these texts, and gives the value that they stand for
(`readText_eq_ok_iff`). One direction goes down the grammar, level by level of nesting; the other
one goes along the fuel of the reader.
-/

namespace FederatedLogin.Json

variable {α : Type} {form : α → List Char → Prop} {d : Datum} {x : α} {xs : List α}
  {s u p rest : List Char} {depth fuel : Nat}

/-! ### The grammar -/

/-- Nothing but characters that may stand between the parts of a text. -/
def Padding (s : List Char) : Prop := ∀ c ∈ s, isPadding c = true

instance (s : List Char) : Decidable (Padding s) :=
  decidable_of_iff (s.all isPadding = true) List.all_eq_true

/-- Something is written with padding around it. -/
inductive Spaced (form : α → List Char → Prop) : α → List Char → Prop
  | intro {x : α} {p u q : List Char} (before : Padding p) (written : form x u)
      (after : Padding q) : Spaced form x (p ++ (u ++ q))

/-- Some things are written with commas between them. -/
inductive Separated (form : α → List Char → Prop) : List α → List Char → Prop
  | last {x : α} {s : List Char} (written : form x s) : Separated form [x] s
  | more {x : α} {xs : List α} {s t : List Char} (written : form x s)
      (rest : Separated form xs t) : Separated form (x :: xs) (s ++ ',' :: t)

/-- Things are written between two characters, with commas between them; there may be none. -/
inductive Enclosed (left right : Char) (form : α → List Char → Prop) : List α → List Char → Prop
  | none {p : List Char} (padding : Padding p) :
      Enclosed left right form [] (left :: (p ++ [right]))
  | some {xs : List α} {s : List Char} (items : Separated form xs s) :
      Enclosed left right form xs (left :: (s ++ [right]))

/-- An entry is written as its key and its value, with a colon between them. -/
inductive Entry (form : Datum → List Char → Prop) : Text × Datum → List Char → Prop
  | intro {key : Text} {d : Datum} {s t : List Char} (quoted : Spaced Quoted key s)
      (value : Spaced form d t) : Entry form (key, d) (s ++ ':' :: t)

/-- A value without parts: a text, a number or a literal. -/
inductive Simple : Datum → List Char → Prop
  | scalar {d : Datum} {u : List Char} (scalar : Scalar d u) : Simple d u
  | text {t : Text} {u : List Char} (quoted : Quoted t u) : Simple (.text t) u

/-- A list or an object with the given forms of its parts. -/
inductive Composite (form : Datum → List Char → Prop) : Datum → List Char → Prop
  | list {ds : List Datum} {u : List Char} (items : Enclosed '[' ']' (Spaced form) ds u) :
      Composite form (.list ds) u
  | record {es : List (Text × Datum)} {u : List Char}
      (entries : Enclosed '{' '}' (Entry form) es u) : Composite form (.record (Datum.collect es)) u

/-- A value in which lists and objects nest at most `depth` deep. -/
def Value : Nat → Datum → List Char → Prop
  | 0 => Simple
  | depth + 1 => fun d u => Simple d u ∨ Composite (Value depth) d u

/-- A text stands for a value. -/
def Denotes : Datum → List Char → Prop := Spaced (Value maxDepth)

/-- A text is that of an object with the given entries, in the order in which they are written. -/
def ObjectText : List (Text × Datum) → List Char → Prop :=
  Spaced (Enclosed '{' '}' (Entry (Value (maxDepth - 1))))

/-- A text is that of a list with the given items. -/
def ListText : List Datum → List Char → Prop :=
  Spaced (Enclosed '[' ']' (Spaced (Value (maxDepth - 1))))

/-! ### Padding -/

theorem Padding.append (hp : Padding p) (hs : Padding s) : Padding (p ++ s) :=
  fun c hc => (List.mem_append.mp hc).elim (hp c) (hs c)

theorem Padding.skip_append (hp : Padding p) (s : List Char) : skip (p ++ s) = skip s :=
  List.dropWhile_append_of_pos hp

/-- Padding is skipped up to a character that is none. -/
theorem Padding.skip_eq (hp : Padding p) {c : Char} (hc : isPadding c = false) :
    skip (p ++ c :: s) = c :: s := by
  rw [hp.skip_append, skip_cons hc]

/-- What is skipped is padding. -/
theorem exists_padding (s : List Char) : ∃ p, Padding p ∧ s = p ++ skip s :=
  ⟨s.takeWhile isPadding, fun _ hc => List.mem_takeWhile_imp hc,
    List.takeWhile_append_dropWhile.symm⟩

theorem Padding.nil : Padding [] := List.forall_mem_nil _

/-- The padding around something may be missing. -/
theorem Spaced.of (h : form x u) : Spaced form x u := by
  have spaced := Spaced.intro .nil h .nil
  rwa [List.append_nil] at spaced

/-- Padding in front of something is part of the padding around it. -/
theorem Spaced.pad (h : Spaced form x s) (hp : Padding p) : Spaced form x (p ++ s) := by
  cases h with
  | intro before written after =>
    rw [← List.append_assoc]
    exact .intro (hp.append before) written after

/-- Padding in front of an entry is part of the padding around its key. -/
theorem Entry.pad {form : Datum → List Char → Prop} {e : Text × Datum} (h : Entry form e s)
    (hp : Padding p) : Entry form e (p ++ s) := by
  cases h with
  | intro quoted value =>
    rw [← List.append_assoc]
    exact .intro (quoted.pad hp) value

/-- Padding in front of the first part is part of the padding around it. -/
theorem Separated.pad (h : Separated form xs s)
    (hform : ∀ {x s p}, form x s → Padding p → form x (p ++ s)) (hp : Padding p) :
    Separated form xs (p ++ s) := by
  cases h with
  | last written => exact .last (hform written hp)
  | more written rest =>
    rw [← List.append_assoc]
    exact .more (hform written hp) rest

/-! ### Where a value starts and ends -/

/-- The text starts like a value: with no padding, no closing bracket and no byte order mark. -/
def Starts (s : List Char) : Prop :=
  ∃ c cs, s = c :: cs ∧ isPadding c = false ∧ c ≠ ']' ∧ c ≠ '\ufeff'

/-- A value can end before the text: there is padding, a comma, a closing bracket or brace, or
nothing. -/
def Closes (rest : List Char) : Prop :=
  ∀ c ∈ rest.head?, isPadding c = true ∨ c = ',' ∨ c = ']' ∨ c = '}'

/-- Where a value can end, a number does. -/
theorem Closes.ends (h : Closes rest) : Ends rest := by
  intro c hc
  rcases h c hc with hpadding | rfl | rfl | rfl
  · simp only [isPadding, Bool.or_eq_true, decide_eq_true_eq] at hpadding
    rcases hpadding with ((rfl | rfl) | rfl) | rfl <;> decide
  all_goals decide

theorem closes_cons {c : Char} (hc : c = ',' ∨ c = ']' ∨ c = '}') (rest : List Char) :
    Closes (c :: rest) := by
  intro c' hc'
  obtain rfl := Option.some.inj hc'
  exact .inr hc

theorem Padding.closes (hp : Padding p) (h : Closes rest) : Closes (p ++ rest) := by
  cases p with
  | nil => exact h
  | cons c p =>
    intro c' hc'
    obtain rfl := Option.some.inj hc'
    exact .inl (hp c List.mem_cons_self)

theorem Simple.starts (h : Simple d u) : Starts u := by
  cases h with
  | scalar scalar =>
    obtain ⟨c, cs, rfl, hc | hc⟩ := scalar.exists_cons
    · exact ⟨c, cs, rfl, by simp [isPadding, ne_of_isDigit hc], ne_of_isDigit hc rfl,
        ne_of_isDigit hc rfl⟩
    · have hall : ∀ c ∈ ['n', 't', 'f', 'N', 'I', '-'],
          isPadding c = false ∧ c ≠ ']' ∧ c ≠ '\ufeff' := by simp [isPadding]
      exact ⟨c, cs, rfl, hall c hc⟩
  | text quoted =>
    cases quoted
    exact ⟨_, _, rfl, by decide⟩

theorem Composite.starts {form : Datum → List Char → Prop} (h : Composite form d u) :
    Starts u := by
  cases h with
  | list items => cases items <;> exact ⟨_, _, rfl, by decide⟩
  | record entries => cases entries <;> exact ⟨_, _, rfl, by decide⟩

/-- A value without parts has none at any depth. -/
theorem Simple.value (h : Simple d u) (depth : Nat) : Value depth d u := by
  cases depth with
  | zero => exact h
  | succ depth => exact .inl h

/-- At no depth does a value start with padding, a closing bracket or a byte order mark. -/
theorem Value.starts (h : Value depth d u) : Starts u := by
  cases depth with
  | zero => exact Simple.starts h
  | succ depth => exact h.elim Simple.starts Composite.starts

/-- A value takes some fuel. -/
theorem Starts.exists_fuel (h : Starts u) (hfuel : 2 * u.length ≤ fuel) : ∃ n, fuel = n + 1 := by
  obtain ⟨c, cs, rfl, -⟩ := h
  rw [List.length_cons] at hfuel
  exact ⟨fuel - 1, by omega⟩

/-! ### What the grammar allows is read -/

/-- Values of a kind are read, with enough fuel and whatever they are followed by. -/
def Readable (depth : Nat) (form : Datum → List Char → Prop) : Prop :=
  ∀ d u, form d u → ∀ fuel rest, 2 * u.length ≤ fuel → Closes rest →
    readValue fuel depth (u ++ rest) = .ok (d, rest)

/-- Past the padding in front of it, a value is read, and the padding after it is left. -/
theorem Spaced.exists_readValue {form : Datum → List Char → Prop} (h : Spaced form d s)
    (hstarts : ∀ d u, form d u → Starts u) (readable : Readable depth form)
    (hfuel : 2 * s.length ≤ fuel) (hrest : Closes rest) :
    ∃ q, Padding q ∧ readValue fuel depth (skip (s ++ rest)) = .ok (d, q ++ rest) := by
  cases h with
  | @intro p u q before written after =>
    have hread := readable d u written fuel (q ++ rest)
      (by simp only [List.length_append] at hfuel; omega) (after.closes hrest)
    obtain ⟨c, cs, rfl, hc, -⟩ := hstarts d u written
    refine ⟨q, after, ?_⟩
    rw [List.append_assoc, List.append_assoc, List.cons_append, before.skip_eq hc]
    exact hread

/-- Items are read up to the bracket after them. -/
theorem Readable.readItems_eq {form : Datum → List Char → Prop} (readable : Readable depth form)
    (hstarts : ∀ d u, form d u → Starts u) {ds : List Datum}
    (h : Separated (Spaced form) ds s) (got : List Datum) (hfuel : 2 * s.length + 1 ≤ fuel)
    (rest : List Char) :
    readItems fuel depth got (skip (s ++ ']' :: rest)) = .ok (got.reverse ++ ds, rest) := by
  -- Each item costs the list one unit of fuel, and its text has one character at least.
  induction h generalizing fuel got with
  | @last d s written =>
    obtain ⟨fuel, rfl⟩ : ∃ n, fuel = n + 1 := ⟨fuel - 1, by omega⟩
    have hitem : 2 * s.length ≤ fuel := by omega
    obtain ⟨q, hq, hread⟩ := written.exists_readValue hstarts readable hitem
      (closes_cons (.inr (.inl rfl)) rest)
    have hskip : skip (q ++ ']' :: rest) = ']' :: rest := hq.skip_eq (by decide)
    rw [readItems, hread]
    simp [bind, Except.bind, hskip]
  | @more d ds s t written more ih =>
    obtain ⟨fuel, rfl⟩ : ∃ n, fuel = n + 1 := ⟨fuel - 1, by omega⟩
    rw [List.length_append, List.length_cons] at hfuel
    have hitem : 2 * s.length ≤ fuel := by omega
    have hitems : 2 * t.length + 1 ≤ fuel := by omega
    obtain ⟨q, hq, hread⟩ := written.exists_readValue hstarts readable hitem
      (closes_cons (.inl rfl) (t ++ ']' :: rest))
    have hskip : skip (q ++ ',' :: (t ++ ']' :: rest)) = ',' :: (t ++ ']' :: rest) :=
      hq.skip_eq (by decide)
    have hmore := ih (d :: got) hitems
    rw [List.append_assoc, List.cons_append, readItems, hread]
    simp [bind, Except.bind, hskip, hmore]

/-- What comes of an object after an entry, past the padding there. -/
def readMore (fuel depth : Nat) (got : List (Text × Datum)) :
    List Char → Except Stop (List (Text × Datum) × List Char)
  | '}' :: rest => .ok (got, rest)
  | ',' :: rest => readEntries fuel depth got (skip rest)
  | rest => .error (.complaint .expectingComma rest)

/-- An entry is read, and the padding after it is left. -/
theorem Readable.readEntries_eq_of_entry {form : Datum → List Char → Prop}
    (readable : Readable depth form) (hstarts : ∀ d u, form d u → Starts u) {e : Text × Datum}
    (h : Entry form e s) (got : List (Text × Datum)) (hfuel : 2 * s.length ≤ fuel)
    (hrest : Closes rest) :
    ∃ q, Padding q ∧ readEntries (fuel + 1) depth got (skip (s ++ rest)) =
      readMore fuel depth (Datum.enter got e) (skip (q ++ rest)) := by
  cases h with
  | @intro key d s t quoted value =>
    cases quoted with
    | @intro p u q' before written after =>
      cases written with
      | @intro s apart spelled =>
        rw [List.length_append, List.length_cons] at hfuel
        have hvalue : 2 * t.length ≤ fuel := by omega
        obtain ⟨q, hq, hread⟩ := value.exists_readValue hstarts readable hvalue hrest
        have hkey : readString ('"' :: (s ++ '"' :: (q' ++ ':' :: (t ++ rest)))) []
            (s ++ '"' :: (q' ++ ':' :: (t ++ rest))) =
              .ok (key, q' ++ ':' :: (t ++ rest)) :=
          readString_eq_ok_iff.mpr ⟨s, apart, spelled, rfl⟩
        have hskip : skip (q' ++ ':' :: (t ++ rest)) = ':' :: (t ++ rest) :=
          after.skip_eq (by decide)
        have htext : p ++ ('"' :: (s ++ ['"']) ++ q') ++ ':' :: t ++ rest =
            p ++ '"' :: (s ++ '"' :: (q' ++ ':' :: (t ++ rest))) := by simp
        refine ⟨q, hq, ?_⟩
        rw [htext, before.skip_eq (by decide), readEntries.eq_def]
        simp only [hkey, bind, Except.bind, hskip, hread]
        rfl

/-- Entries are read up to the brace after them. -/
theorem Readable.readEntries_eq {form : Datum → List Char → Prop}
    (readable : Readable depth form) (hstarts : ∀ d u, form d u → Starts u)
    {es : List (Text × Datum)} (h : Separated (Entry form) es s) (got : List (Text × Datum))
    (hfuel : 2 * s.length + 1 ≤ fuel) (rest : List Char) :
    readEntries fuel depth got (skip (s ++ '}' :: rest)) =
      .ok (es.foldl Datum.enter got, rest) := by
  -- Along the entries that are left; those before are in `got` already.
  induction h generalizing fuel got with
  | @last e s written =>
    obtain ⟨fuel, rfl⟩ : ∃ n, fuel = n + 1 := ⟨fuel - 1, by omega⟩
    have hentry : 2 * s.length ≤ fuel := by omega
    obtain ⟨q, hq, hread⟩ := readable.readEntries_eq_of_entry hstarts written got hentry
      (closes_cons (.inr (.inr rfl)) rest)
    rw [hread, hq.skip_eq (by decide)]
    rfl
  | @more e es s t written more ih =>
    obtain ⟨fuel, rfl⟩ : ∃ n, fuel = n + 1 := ⟨fuel - 1, by omega⟩
    rw [List.length_append, List.length_cons] at hfuel
    have hentry : 2 * s.length ≤ fuel := by omega
    obtain ⟨q, hq, hread⟩ := readable.readEntries_eq_of_entry hstarts written got hentry
      (closes_cons (.inl rfl) (t ++ '}' :: rest))
    rw [List.append_assoc, List.cons_append, hread, hq.skip_eq (by decide)]
    exact ih (Datum.enter got e) (by omega)

/-- What starts like a literal or a number is no text, list or object. -/
theorem readValue_of_scalar {c : Char}
    (hc : c.isDigit = true ∨ c ∈ ['n', 't', 'f', 'N', 'I', '-']) :
    readValue (fuel + 1) depth (c :: s) = readScalar (c :: s) := by
  have hne : c ≠ '"' ∧ c ≠ '[' ∧ c ≠ '{' := by
    rcases hc with hc | hc
    · exact ⟨ne_of_isDigit hc rfl, ne_of_isDigit hc rfl, ne_of_isDigit hc rfl⟩
    · have hall : ∀ c ∈ ['n', 't', 'f', 'N', 'I', '-'], c ≠ '"' ∧ c ≠ '[' ∧ c ≠ '{' := by simp
      exact hall c hc
  rw [readValue.eq_def]
  simp [hne]

/-- The simple values are read back at any depth. -/
theorem readable_simple (depth : Nat) : Readable depth Simple := by
  intro d u h fuel rest hfuel hrest
  obtain ⟨fuel, rfl⟩ := h.starts.exists_fuel hfuel
  cases h with
  | scalar scalar =>
    have hread := scalar.readScalar_eq hrest.ends
    obtain ⟨c, cs, rfl, hc⟩ := scalar.exists_cons
    rw [List.cons_append] at hread ⊢
    rw [readValue_of_scalar hc, hread]
  | text quoted =>
    cases quoted with
    | @intro s apart spelled =>
      have hread : readString ('"' :: (s ++ '"' :: rest)) [] (s ++ '"' :: rest) = .ok (_, rest) :=
        readString_eq_ok_iff.mpr ⟨s, apart, spelled, rfl⟩
      rw [List.cons_append, List.append_assoc, List.singleton_append, readValue, hread]
      rfl

/-- A list is read between its brackets. -/
theorem readValue_of_readItems {ds : List Datum} (hnonempty : ∀ r, skip s ≠ ']' :: r)
    (hread : readItems fuel depth [] (skip s) = .ok (ds, rest)) :
    readValue (fuel + 1) (depth + 1) ('[' :: s) = .ok (.list ds, rest) := by
  rw [readValue.eq_def]
  simp only
  rw [hread]
  rfl

/-- An object is read between its braces. -/
theorem readValue_of_readEntries {es : List (Text × Datum)} (hnonempty : ∀ r, skip s ≠ '}' :: r)
    (hread : readEntries fuel depth [] (skip s) = .ok (es, rest)) :
    readValue (fuel + 1) (depth + 1) ('{' :: s) = .ok (.record es, rest) := by
  rw [readValue.eq_def]
  simp only
  rw [hread]
  rfl

/-- Behind its padding a part begins with something that does not close a list. -/
theorem Spaced.exists_skip (h : Spaced form x s) (hstarts : ∀ x u, form x u → Starts u)
    (rest : List Char) : ∃ c cs, skip (s ++ rest) = c :: cs ∧ c ≠ ']' := by
  cases h with
  | @intro p u q before written after =>
    obtain ⟨c, cs, rfl, hc, hbracket, -⟩ := hstarts x u written
    rw [List.append_assoc, List.append_assoc, List.cons_append, before.skip_eq hc]
    exact ⟨c, _, rfl, hbracket⟩

/-- Behind its padding an entry begins with the quotation mark of its key. -/
theorem Entry.exists_skip {form : Datum → List Char → Prop} {e : Text × Datum} (h : Entry form e s)
    (rest : List Char) : ∃ cs, skip (s ++ rest) = '"' :: cs := by
  cases h with
  | intro quoted value =>
    cases quoted with
    | intro before written after =>
      cases written
      rw [List.append_assoc, List.append_assoc, List.append_assoc, List.cons_append,
        before.skip_eq (by decide)]
      exact ⟨_, rfl⟩

/-- What comes first is written in front of the others. -/
theorem Separated.exists_first (h : Separated form xs s) :
    ∃ x u t, form x u ∧ s = u ++ t := by
  cases h with
  | last written => exact ⟨_, s, [], written, (List.append_nil s).symm⟩
  | more written rest => exact ⟨_, _, _, written, rfl⟩

/-- A list of readable values is read. -/
theorem Readable.readValue_list {form : Datum → List Char → Prop} (readable : Readable depth form)
    (hstarts : ∀ d u, form d u → Starts u) {ds : List Datum}
    (h : Enclosed '[' ']' (Spaced form) ds u) (hfuel : 2 * u.length ≤ fuel + 1)
    (rest : List Char) : readValue (fuel + 1) (depth + 1) (u ++ rest) = .ok (.list ds, rest) := by
  cases h with
  | none padding =>
    have hskip : skip (_ ++ ']' :: rest) = ']' :: rest := padding.skip_eq (by decide)
    rw [List.cons_append, List.append_assoc, List.singleton_append, readValue.eq_def]
    simp only [hskip]
  | some items =>
    rw [List.length_cons, List.length_append] at hfuel
    rw [List.cons_append, List.append_assoc, List.singleton_append]
    refine readValue_of_readItems ?_ (readable.readItems_eq hstarts items [] (by omega) rest)
    obtain ⟨d, u, t, written, rfl⟩ := items.exists_first
    obtain ⟨c, cs, hskip, hc⟩ := written.exists_skip hstarts (t ++ ']' :: rest)
    rw [List.append_assoc, hskip]
    exact fun r hr => hc (List.cons.inj hr).1

/-- An object of readable values is read. -/
theorem Readable.readValue_record {form : Datum → List Char → Prop}
    (readable : Readable depth form) (hstarts : ∀ d u, form d u → Starts u)
    {es : List (Text × Datum)} (h : Enclosed '{' '}' (Entry form) es u)
    (hfuel : 2 * u.length ≤ fuel + 1) (rest : List Char) :
    readValue (fuel + 1) (depth + 1) (u ++ rest) = .ok (.record (Datum.collect es), rest) := by
  cases h with
  | none padding =>
    have hskip : skip (_ ++ '}' :: rest) = '}' :: rest := padding.skip_eq (by decide)
    rw [List.cons_append, List.append_assoc, List.singleton_append, readValue.eq_def]
    simp only [hskip]
    rfl
  | some entries =>
    rw [List.length_cons, List.length_append] at hfuel
    rw [List.cons_append, List.append_assoc, List.singleton_append]
    refine readValue_of_readEntries ?_ (readable.readEntries_eq hstarts entries [] (by omega) rest)
    obtain ⟨e, u, t, written, rfl⟩ := entries.exists_first
    obtain ⟨cs, hskip⟩ := written.exists_skip (t ++ '}' :: rest)
    rw [List.append_assoc, hskip]
    exact fun r hr => absurd (List.cons.inj hr).1 (by decide)

/-- Lists and objects of readable values are readable, one level deeper. -/
theorem Readable.composite {form : Datum → List Char → Prop} (readable : Readable depth form)
    (hstarts : ∀ d u, form d u → Starts u) : Readable (depth + 1) (Composite form) := by
  intro d u h fuel rest hfuel _
  obtain ⟨fuel, rfl⟩ := h.starts.exists_fuel hfuel
  cases h with
  | list items => exact readable.readValue_list hstarts items hfuel rest
  | record entries => exact readable.readValue_record hstarts entries hfuel rest

/-- **Completeness.** Every text of a value is read back as the value. -/
theorem readable_value (depth : Nat) : Readable depth (Value depth) := by
  induction depth with
  | zero => exact readable_simple 0
  | succ depth ih =>
    intro d u h
    rcases h with simple | composite
    · exact readable_simple (depth + 1) d u simple
    · exact ih.composite (fun _ _ => Value.starts) d u composite

/-- The text of a value has no byte order mark in front. -/
theorem Denotes.ne_mark (h : Denotes d s) (cs : List Char) : s ≠ '\ufeff' :: cs := by
  cases h with
  | @intro p u q before written after =>
    obtain ⟨c, cs', rfl, -, -, hc⟩ := Value.starts written
    intro hs
    rcases p with _ | ⟨c', p⟩
    · exact hc (List.cons.inj hs).1
    · have hpadding := before c' List.mem_cons_self
      rw [(List.cons.inj hs).1] at hpadding
      exact absurd hpadding (by decide)

/-- A text that stands for a value is read as that value. -/
theorem Denotes.read_eq (h : Denotes d s) : read s = .ok d := by
  have hfuel : 2 * s.length ≤ 2 * s.length + 2 := by omega
  have hclosed : Closes [] := nofun
  obtain ⟨q, hq, hread⟩ := Spaced.exists_readValue h (fun _ _ => Value.starts)
    (readable_value maxDepth) hfuel hclosed
  rw [List.append_nil, List.append_nil] at hread
  have hskip : skip q = [] := List.dropWhile_eq_nil_iff.mpr hq
  rw [read.eq_def]
  split
  · rename_i cs
    exact absurd rfl (h.ne_mark cs)
  · rw [hread]
    simp only [hskip]

/-! ### What is read is allowed by the grammar -/

/-- The readers with some fuel read what the grammar allows, and leave the text after it. -/
structure Sound (fuel : Nat) : Prop where
  value : ∀ {depth s d rest}, readValue fuel depth s = .ok (d, rest) →
    ∃ u, Value depth d u ∧ s = u ++ rest
  items : ∀ {depth got s ds rest}, readItems fuel depth got s = .ok (ds, rest) →
    ∃ xs u, Separated (Spaced (Value depth)) xs u ∧ s = u ++ ']' :: rest ∧ ds = got.reverse ++ xs
  entries : ∀ {depth got s es rest}, readEntries fuel depth got s = .ok (es, rest) →
    ∃ xs u, Separated (Entry (Value depth)) xs u ∧ s = u ++ '}' :: rest ∧
      es = xs.foldl Datum.enter got

theorem sound_zero : Sound 0 where
  value h := absurd h nofun
  items h := absurd h nofun
  entries h := absurd h nofun

/-- What is read as enclosed and empty is written so. -/
theorem enclosed_nil (left : Char) {right : Char} (h : skip s = right :: rest) :
    ∃ u, Enclosed left right form [] u ∧ left :: s = u ++ rest := by
  obtain ⟨p, hp, hs⟩ := exists_padding s
  refine ⟨_, .none hp, ?_⟩
  rw [hs, h]
  simp

/-- What is read past the padding, up to the closing character, is written between the two. -/
theorem Separated.enclosed (items : Separated form xs u)
    (hform : ∀ {x s p}, form x s → Padding p → form x (p ++ s)) (left : Char) {right : Char}
    (h : skip s = u ++ right :: rest) :
    ∃ u, Enclosed left right form xs u ∧ left :: s = u ++ rest := by
  obtain ⟨p, hp, hs⟩ := exists_padding s
  refine ⟨_, .some (items.pad hform hp), ?_⟩
  rw [hs, h]
  simp

/-- The step for a value: what is read is written in front of the rest. -/
theorem Sound.value_succ (sound : Sound fuel) (h : readValue (fuel + 1) depth s = .ok (d, rest)) :
    ∃ u, Value depth d u ∧ s = u ++ rest := by
  rw [readValue.eq_def] at h
  simp only at h
  split at h
  · cases h
  · obtain ⟨⟨t, left⟩, hread, h⟩ := bind_eq_ok.mp h
    obtain ⟨rfl, rfl⟩ := Prod.mk.inj (Except.ok.inj h)
    obtain ⟨u, apart, spelled, rfl⟩ := readString_eq_ok_iff.mp hread
    exact ⟨_, Simple.value (.text ⟨apart, spelled⟩) depth, by simp⟩
  · split at h
    · cases h
    · split at h
      · rename_i hskip
        obtain ⟨rfl, rfl⟩ := Prod.mk.inj (Except.ok.inj h)
        obtain ⟨u, enclosed, hu⟩ := enclosed_nil '[' hskip
        exact ⟨u, .inr (.list enclosed), hu⟩
      · obtain ⟨⟨ds, left⟩, hread, h⟩ := bind_eq_ok.mp h
        obtain ⟨rfl, rfl⟩ := Prod.mk.inj (Except.ok.inj h)
        obtain ⟨xs, t, items, hskip, rfl⟩ := sound.items hread
        obtain ⟨u, enclosed, hu⟩ := items.enclosed Spaced.pad '[' hskip
        exact ⟨u, .inr (.list enclosed), hu⟩
  · split at h
    · cases h
    · split at h
      · rename_i hskip
        obtain ⟨rfl, rfl⟩ := Prod.mk.inj (Except.ok.inj h)
        obtain ⟨u, enclosed, hu⟩ := enclosed_nil '{' hskip
        exact ⟨u, .inr (.record enclosed), hu⟩
      · obtain ⟨⟨es, left⟩, hread, h⟩ := bind_eq_ok.mp h
        obtain ⟨rfl, rfl⟩ := Prod.mk.inj (Except.ok.inj h)
        obtain ⟨xs, t, entries, hskip, rfl⟩ := sound.entries hread
        obtain ⟨u, enclosed, hu⟩ := entries.enclosed Entry.pad '{' hskip
        exact ⟨u, .inr (.record enclosed), hu⟩
  · obtain ⟨u, scalar, rfl⟩ := scalar_of_readScalar h
    exact ⟨u, Simple.value (.scalar scalar) depth, rfl⟩

/-- The step for the items of a list, after those that have been read. -/
theorem Sound.items_succ (sound : Sound fuel) {got ds : List Datum}
    (h : readItems (fuel + 1) depth got s = .ok (ds, rest)) :
    ∃ xs u, Separated (Spaced (Value depth)) xs u ∧ s = u ++ ']' :: rest ∧
      ds = got.reverse ++ xs := by
  rw [readItems] at h
  obtain ⟨⟨d, left⟩, hread, h⟩ := bind_eq_ok.mp h
  obtain ⟨u, value, hu⟩ := sound.value hread
  obtain ⟨q, hq, hleft⟩ := exists_padding left
  have spaced : Spaced (Value depth) d (u ++ q) := .intro .nil value hq
  simp only at h
  split at h
  · rename_i hskip
    obtain ⟨rfl, rfl⟩ := Prod.mk.inj (Except.ok.inj h)
    refine ⟨[d], u ++ q, .last spaced, ?_, by simp⟩
    rw [hu, hleft, hskip, List.append_assoc]
  · rename_i more hskip
    obtain ⟨p, hp, hmore⟩ := exists_padding more
    obtain ⟨xs, t, items, hitems, rfl⟩ := sound.items h
    refine ⟨d :: xs, _, .more spaced (items.pad Spaced.pad hp), ?_, by simp⟩
    rw [hu, hleft, hskip, hmore, hitems]
    simp
  · cases h

/-- An entry is read first, with the padding around its key and its value. -/
theorem Sound.exists_entry (sound : Sound fuel) {got es : List (Text × Datum)}
    (h : readEntries (fuel + 1) depth got s = .ok (es, rest)) :
    ∃ e u left, Entry (Value depth) e u ∧ s = u ++ left ∧
      readMore fuel depth (Datum.enter got e) left = .ok (es, rest) := by
  rw [readEntries.eq_def] at h
  simp only at h
  split at h
  swap
  · cases h
  obtain ⟨⟨key, left⟩, hread, h⟩ := bind_eq_ok.mp h
  obtain ⟨k, apart, spelled, hk⟩ := readString_eq_ok_iff.mp hread
  obtain ⟨q, hq, hleft⟩ := exists_padding left
  simp only at h
  split at h
  swap
  · cases h
  rename_i inner hskip
  obtain ⟨p, hp, hinner⟩ := exists_padding inner
  obtain ⟨⟨d, after⟩, hvalue, h⟩ := bind_eq_ok.mp h
  obtain ⟨u, value, hu⟩ := sound.value hvalue
  obtain ⟨q', hq', hafter⟩ := exists_padding after
  have entry : Entry (Value depth) (key, d) _ :=
    .intro (.intro .nil (.intro apart spelled) hq) (.intro hp value hq')
  -- The padding after the value is the entry's, so that what is left is a comma or a brace.
  refine ⟨(key, d), _, skip after, entry, ?_, h⟩
  rw [hk, hleft, hskip, hinner, hu]
  nth_rewrite 1 [hafter]
  simp

/-- The step for the entries of an object, after those that have been read. -/
theorem Sound.entries_succ (sound : Sound fuel) {got es : List (Text × Datum)}
    (h : readEntries (fuel + 1) depth got s = .ok (es, rest)) :
    ∃ xs u, Separated (Entry (Value depth)) xs u ∧ s = u ++ '}' :: rest ∧
      es = xs.foldl Datum.enter got := by
  obtain ⟨e, u, left, entry, rfl, hmore⟩ := sound.exists_entry h
  rw [readMore.eq_def] at hmore
  split at hmore
  · obtain ⟨rfl, rfl⟩ := Prod.mk.inj (Except.ok.inj hmore)
    exact ⟨[e], u, .last entry, rfl, rfl⟩
  · rename_i more
    obtain ⟨p, hp, hpadded⟩ := exists_padding more
    obtain ⟨xs, t, entries, hentries, rfl⟩ := sound.entries hmore
    refine ⟨e :: xs, _, .more entry (entries.pad Entry.pad hp), ?_, rfl⟩
    rw [hpadded, hentries]
    simp
  · cases hmore

/-- The readers read what the grammar allows, whatever the fuel. -/
theorem sound (fuel : Nat) : Sound fuel := by
  induction fuel with
  | zero => exact sound_zero
  | succ fuel ih => exact ⟨ih.value_succ, ih.items_succ, ih.entries_succ⟩

/-- A text is read as a value exactly if it stands for it. -/
theorem readText_eq_ok_iff {t : String} : readText t = .ok d ↔ Denotes d t.toList := by
  refine ⟨fun h => ?_, Denotes.read_eq⟩
  rw [readText, read.eq_def] at h
  split at h
  · cases h
  split at h
  · cases h
  rename_i d' rest hread
  split at h
  · rename_i hskip
    obtain rfl := Except.ok.inj h
    obtain ⟨u, value, hu⟩ := (sound _).value hread
    obtain ⟨p, hp, ht⟩ := exists_padding t.toList
    rw [ht, hu]
    exact .intro hp value (List.dropWhile_eq_nil_iff.mp hskip)
  · cases h

/-! ### Lists -/

/-- A text stands for a list exactly if it is the text of its items. -/
theorem denotes_list_iff {ds : List Datum} : Denotes (.list ds) s ↔ ListText ds s := by
  constructor
  · intro h
    generalize hd : Datum.list ds = d at h
    cases h with
    | intro before written after =>
      rcases written with simple | composite
      · subst hd
        rcases simple with ⟨scalar⟩
        rcases scalar.kind with h | ⟨_, h⟩ | ⟨_, h⟩ | ⟨_, h⟩ <;> cases h
      · cases composite with
        | record => cases hd
        | list items =>
          obtain rfl := Datum.list.inj hd
          exact .intro before items after
  · intro h
    cases h with
    | intro before written after => exact .intro before (.inr (.list written)) after

/-! ### Objects -/

/-- The text of an object stands for the object that comes of its entries. -/
theorem denotes_of_objectText {es : List (Text × Datum)} (h : ObjectText es s) :
    Denotes (.record (Datum.collect es)) s := by
  cases h with
  | intro before written after => exact .intro before (.inr (.record written)) after

/-- A text that stands for an object lists the entries from which it is collected. -/
theorem objectText_of_denotes {entries : List (Text × Datum)} (h : Denotes (.record entries) s) :
    ∃ es, ObjectText es s ∧ Datum.collect es = entries := by
  generalize hd : Datum.record entries = d at h
  cases h with
  | intro before written after =>
    rcases written with simple | composite
    · subst hd
      rcases simple with ⟨scalar⟩
      rcases scalar.kind with h | ⟨_, h⟩ | ⟨_, h⟩ | ⟨_, h⟩ <;> cases h
    · cases composite with
      | list => cases hd
      | @record es _ written =>
        obtain rfl := Datum.record.inj hd
        exact ⟨es, .intro before written after, rfl⟩

/-- A text is read as an object exactly if it is the text of entries that the object comes of. -/
theorem readText_eq_record_iff {t : String} {entries : List (Text × Datum)} :
    readText t = .ok (.record entries) ↔
      ∃ es, ObjectText es t.toList ∧ Datum.collect es = entries := by
  rw [readText_eq_ok_iff]
  refine ⟨objectText_of_denotes, ?_⟩
  rintro ⟨es, htext, rfl⟩
  exact denotes_of_objectText htext

/-- No object that is read has a key twice. -/
theorem nodup_keys_of_readText {t : String} {entries : List (Text × Datum)}
    (h : readText t = .ok (.record entries)) : (entries.map (·.1)).Nodup := by
  obtain ⟨es, -, rfl⟩ := readText_eq_record_iff.mp h
  exact Datum.nodup_keys_collect es

end FederatedLogin.Json
