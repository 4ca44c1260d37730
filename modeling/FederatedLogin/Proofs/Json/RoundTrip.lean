import FederatedLogin.Json.Writer
import FederatedLogin.Proofs.Json.Grammar
import Mathlib.Algebra.Group.Nat.Defs

/-!
# What is written is in the grammar

Every text in which no two halves stand next to each other is written in quotes: a character beyond
the first plane by its two halves in UTF-16 (`quoted_writeText`). A whole number is written with its
digits. So a list of values without parts is written as the text of its items (`listText_write`), in
either layout. An object whose values are strings and whole numbers, `Plain` ones, is written as the
text of its entries (`objectText_write`), and is read back if no key comes twice
(`readText_write_object`).
-/

namespace FederatedLogin.Json

variable {t : Text} {l : Layout}

/-! ### Strings -/

theorem hexValue?_hexDigit : ∀ n < 16, hexValue? (Text.hexDigit n) = some n := by decide

/-- Four digits are written for a number, and they give it back. -/
theorem single_escapeUnit {n : Nat} (h : n < 0x10000) : Single (.ofNat n) (escapeUnit n) := by
  refine .number ?_
  have hdigit (i : Nat) := hexValue?_hexDigit (n / Nat.pow 16 i % 16) (Nat.mod_lt _ (by decide))
  have hpow : Nat.pow 16 0 = 1 ∧ Nat.pow 16 1 = 16 ∧ Nat.pow 16 2 = 256 ∧ Nat.pow 16 3 = 4096 := by
    decide
  obtain ⟨h0, h1, h2, h3⟩ := hpow
  simp only [hex4?, hdigit]
  simp only [h0, h1, h2, h3, Option.bind_eq_bind, Option.bind_some, Option.pure_def,
    Option.some.injEq]
  omega

theorem ofNat_surrogate (k : Fin 2048) : CodePoint.ofNat (0xD800 + k) = .surrogate k := by
  have hrange : 0xD800 ≤ 0xD800 + k.val ∧ 0xD800 + k.val < 0xE000 := by omega
  rw [CodePoint.ofNat, dif_pos hrange]
  exact congrArg CodePoint.surrogate (Fin.ext (Nat.add_sub_cancel_left _ _))

theorem ofNat_toNat (c : Char) : CodePoint.ofNat c.toNat = .char c := by
  have hvalid : c.toNat < 0xD800 ∨ 0xDFFF < c.toNat ∧ c.toNat < 0x110000 := c.valid
  rw [CodePoint.ofNat, dif_neg (by omega), Char.ofNat_toNat]

/-- A lone surrogate is written as one escape. -/
theorem single_surrogate (k : Fin 2048) : Single (.surrogate k) (escapeUnit (0xD800 + k)) := by
  rw [← ofNat_surrogate]
  exact single_escapeUnit (by omega)

/-- A character beyond the first plane is written by its two halves. -/
theorem piece_halves {c : Char} (h : 0x10000 ≤ c.toNat) :
    Piece (.char c) (escapeUnit (0xD800 + (c.toNat - 0x10000) / 0x400) ++
      escapeUnit (0xDC00 + (c.toNat - 0x10000) % 0x400)) := by
  have hvalid : c.toNat < 0xD800 ∨ 0xDFFF < c.toNat ∧ c.toNat < 0x110000 := c.valid
  obtain ⟨high, hhigh⟩ : ∃ k : Fin 2048, k.val = (c.toNat - 0x10000) / 0x400 :=
    ⟨⟨_, by omega⟩, rfl⟩
  obtain ⟨low, hlow⟩ : ∃ k : Fin 2048, k.val = 0x400 + (c.toNat - 0x10000) % 0x400 :=
    ⟨⟨_, by omega⟩, rfl⟩
  have hjoin : joinHalves (0xD800 + high) (0xD800 + low) = c.toNat := by
    unfold joinHalves
    omega
  have hsecond : 0xDC00 + (c.toNat - 0x10000) % 0x400 = 0xD800 + low := by omega
  have piece := Piece.halves (h := high) (l := low) (decide_eq_true (by omega))
    (decide_eq_true (by omega)) (single_surrogate high) (single_surrogate low)
  rwa [hjoin, ofNat_toNat, hhigh, ← hsecond] at piece

/-- Every code point is written as a piece of a string. -/
theorem piece_writePoint (p : CodePoint) : Piece p (writePoint p) := by
  rw [writePoint.eq_def]
  split
  case h_1 k => exact .single (single_surrogate k)
  case h_9 c hquote hbackslash _ _ _ _ _ =>
    dsimp only
    split
    · rename_i hprintable
      exact .single (.plain hquote hbackslash hprintable.1)
    · split
      · rename_i hsmall
        rw [← ofNat_toNat]
        exact .single (single_escapeUnit hsmall)
      · rename_i hbig
        exact piece_halves (Nat.not_lt.mp hbig)
  all_goals exact .single (.letter rfl)

/-- A text is spelled by the spellings of its code points. -/
theorem spelled_flatMap (t : Text) : Spelled Piece t (t.flatMap writePoint) := by
  induction t with
  | nil => exact .nil
  | cons p t ih => exact .cons (piece_writePoint p) ih

/-- A text is written in quotes. -/
theorem quoted_writeText (apart : Apart t) : Quoted t (writeText t).toList := by
  rw [writeText, String.toList_ofList]
  exact .intro apart (spelled_flatMap t)

/-- There are no halves in a string. -/
theorem apart_ofString (s : String) : Apart (Text.ofString s) := by
  rw [Text.ofString, Apart]
  induction s.toList with
  | nil => exact .nil
  | cons c cs ih =>
    refine List.isChain_cons.mpr ⟨?_, ih⟩
    rintro _ _ ⟨hhigh, -⟩
    cases hhigh

/-! ### Whole numbers -/

/-- No number but zero starts with a zero. -/
theorem exists_toDigits {n : Nat} (h : n ≠ 0) :
    ∃ c cs, Nat.toDigits 10 n = c :: cs ∧ c ≠ '0' := by
  induction n using Nat.strongRecOn with
  | ind n ih =>
    rcases Nat.lt_or_ge n 10 with hlt | hge
    · refine ⟨n.digitChar, [], Nat.toDigits_of_lt_base hlt, ?_⟩
      rwa [Ne, Nat.digitChar_eq_zero]
    · obtain ⟨c, cs, hdigits, hc⟩ := ih (n / 10) (by omega) (by omega)
      refine ⟨c, cs ++ [(n % 10).digitChar], ?_, hc⟩
      rw [Nat.toDigits_of_base_le (by decide) hge, hdigits, List.cons_append]

theorem ofDigits_toDigits (n : Nat) : ofDigits (Nat.toDigits 10 n) = n := by
  have hfold := Nat.ofDigitChars_ten_toDigits (n := n)
  rw [Nat.ofDigitChars_eq_foldl] at hfold
  rw [ofDigits]
  simpa [Nat.mul_comm] using hfold

theorem digitChar_of_isDigit {c : Char} (hc : c.isDigit = true) :
    c.toNat - 48 < 10 ∧ Nat.digitChar (c.toNat - 48) = c := by
  have hrange : 48 ≤ c.toNat ∧ c.toNat ≤ 57 := by
    simpa [Char.isDigit, UInt32.le_iff_toNat_le] using hc
  have hlt : c.toNat - 48 < 10 := by omega
  refine ⟨hlt, Char.toNat_inj.mp ?_⟩
  rw [Nat.toNat_digitChar_of_lt_ten hlt]
  omega

/-- Digits that follow a number are written after it. -/
theorem toDigits_foldl {n : Nat} (hn : 0 < n) {ds : List Char} (hds : ∀ c ∈ ds, c.isDigit = true) :
    Nat.toDigits 10 (ds.foldl (fun n c => n * 10 + (c.toNat - 48)) n) = Nat.toDigits 10 n ++ ds := by
  -- Along the digits; the number that they follow grows with each of them.
  induction ds generalizing n with
  | nil => rw [List.foldl_nil, List.append_nil]
  | cons c ds ih =>
    obtain ⟨hlt, hc⟩ := digitChar_of_isDigit (hds c List.mem_cons_self)
    have hmore : 0 < n * 10 + (c.toNat - 48) := by omega
    have hstep := Nat.toDigits_append_toDigits (b := 10) (by decide) hn hlt
    rw [Nat.toDigits_of_lt_base hlt, hc, Nat.mul_comm] at hstep
    rw [List.foldl_cons, ih hmore fun x hx => hds x (List.mem_cons_of_mem c hx), ← hstep,
      List.append_assoc, List.singleton_append]

/-- The digits of a whole number are those that its value is written with. -/
theorem Whole.toDigits_ofDigits {front : List Char} (h : Whole front) :
    Nat.toDigits 10 (ofDigits front) = front := by
  obtain ⟨c, cs, rfl, hc⟩ := h.exists_cons
  obtain ⟨hlt, hchar⟩ := digitChar_of_isDigit hc
  have hone : Nat.toDigits 10 (c.toNat - 48) = [c] := by rw [Nat.toDigits_of_lt_base hlt, hchar]
  by_cases hzero : c = '0'
  · -- Zero stands alone.
    obtain rfl := hzero
    rw [h.lead rfl]
    rfl
  · have hpos : 0 < c.toNat - 48 := by
      refine Nat.pos_of_ne_zero fun hnone => hzero ?_
      rw [← hchar, hnone]
      rfl
    have hcs : ∀ x ∈ cs, x.isDigit = true := fun x hx => h.digits x (List.mem_cons_of_mem c hx)
    rw [ofDigits, List.foldl_cons, Nat.zero_mul, Nat.zero_add, toDigits_foldl hpos hcs, hone,
      List.singleton_append]

/-- Decimal digits are a whole part: there is one, and no leading zero. -/
theorem whole_toDigits (n : Nat) : Whole (Nat.toDigits 10 n) where
  nonempty := Nat.toDigits_ne_nil
  digits := fun _ hc => Nat.isDigit_of_mem_toDigits (by decide) (by decide) hc
  lead := by
    intro hlead
    by_cases hzero : n = 0
    · rw [hzero]
      rfl
    · obtain ⟨c, cs, hdigits, hc⟩ := exists_toDigits hzero
      rw [hdigits] at hlead
      exact absurd (Option.some.inj hlead) hc

/-- Decimal digits with a sign are a number, if there are few enough. -/
theorem numeral_toDigits (negative : Bool) {n : Nat} (hn : n < 10 ^ maxDigits) :
    Numeral negative (.int (withSign negative n)) (Nat.toDigits 10 n) := by
  have hlength : (Nat.toDigits 10 n).length ≤ maxDigits :=
    (Nat.length_toDigits_le_iff (by decide) (by decide)).mpr hn
  have numeral : Numeral negative
      (.int (withSign negative (ofDigits (Nat.toDigits 10 n)))) (Nat.toDigits 10 n) :=
    .int (whole_toDigits n) hlength
  rwa [ofDigits_toDigits] at numeral

/-- A whole number is written with its digits, and a minus in front of them if it is negative. -/
theorem scalar_write_int {n : Int} (hn : n.natAbs < 10 ^ maxDigits) :
    Scalar (.int n) (write l (.int n)).toList := by
  rw [write, Int.toString_eq_repr, Int.repr_eq_if]
  split
  · rename_i hpos
    have habs : n.toNat = n.natAbs := by omega
    have hvalue : withSign false n.natAbs = n := Int.natAbs_of_nonneg hpos
    have numeral := numeral_toDigits false hn
    rw [hvalue] at numeral
    rw [habs, Nat.toList_repr]
    exact .number numeral
  · rename_i hneg
    have habs : (-n).toNat = n.natAbs := by omega
    have hvalue : withSign true n.natAbs = n := by
      change -(n.natAbs : Int) = n
      omega
    have numeral := numeral_toDigits true hn
    rw [hvalue] at numeral
    rw [habs, String.toList_append, Nat.toList_repr]
    exact .minus numeral

/-! ### Flat lists -/

/-- The separators of a layout are a comma and a colon with padding after them. -/
structure Layout.Legible (l : Layout) : Prop where
  item : ∃ p, Padding p ∧ l.item.toList = ',' :: p
  key : ∃ p, Padding p ∧ l.key.toList = ':' :: p

theorem legible_compact : compact.Legible := ⟨⟨[], .nil, rfl⟩, ⟨[], .nil, rfl⟩⟩

theorem legible_spaced : spaced.Legible := ⟨⟨[' '], by decide, rfl⟩, ⟨[' '], by decide, rfl⟩⟩

/-- Items without parts are written with commas between them. -/
theorem separated_writeItems (hl : l.Legible) {ds : List Datum} (hne : ds ≠ [])
    (simple : ∀ d ∈ ds, Simple d (write l d).toList) (depth : Nat) :
    Separated (Spaced (Value depth)) ds (writeItems l ds).toList := by
  induction ds with
  | nil => exact absurd rfl hne
  | cons d ds ih =>
    have item : Spaced (Value depth) d (write l d).toList :=
      .of ((simple d List.mem_cons_self).value depth)
    cases ds with
    | nil => exact .last item
    | cons d' ds =>
      obtain ⟨p, hp, hitem⟩ := hl.item
      have more := ih (List.cons_ne_nil d' ds) fun x hx => simple x (List.mem_cons_of_mem d hx)
      rw [writeItems]
      · rw [String.toList_append, String.toList_append, hitem, List.append_assoc, List.cons_append]
        exact .more item (more.pad Spaced.pad hp)
      · exact nofun

/-- A list of values without parts is written as the text of its items. -/
theorem listText_write (hl : l.Legible) {ds : List Datum}
    (simple : ∀ d ∈ ds, Simple d (write l d).toList) :
    ListText ds (write l (.list ds)).toList := by
  have hwritten : (write l (.list ds)).toList = '[' :: ((writeItems l ds).toList ++ [']']) := by
    rw [write]
    simp
  rw [hwritten]
  refine .of ?_
  by_cases hne : ds = []
  · subst hne
    exact .none .nil
  · exact .some (separated_writeItems hl hne simple _)

/-! ### Flat objects -/

/-- An entry is written in the grammar: its key has no halves next to each other, and its value has
no parts. -/
structure Flat (l : Layout) (e : Text × Datum) : Prop where
  key : Apart e.1
  value : Simple e.2 (write l e.2).toList

/-- A written entry is an entry of the grammar. -/
theorem entry_write (hl : l.Legible) {e : Text × Datum} (h : Flat l e) (depth : Nat) :
    Entry (Value depth) e (writeText e.1 ++ l.key ++ write l e.2).toList := by
  obtain ⟨p, hp, hkey⟩ := hl.key
  rw [String.toList_append, String.toList_append, hkey, List.append_assoc, List.cons_append]
  exact .intro (.of (quoted_writeText h.key))
    (.pad (.of (h.value.value depth)) hp)

/-- Entries are written with commas between them. -/
theorem separated_writeEntries (hl : l.Legible) {es : List (Text × Datum)} (hne : es ≠ [])
    (flat : ∀ e ∈ es, Flat l e) (depth : Nat) :
    Separated (Entry (Value depth)) es (writeEntries l es).toList := by
  induction es with
  | nil => exact absurd rfl hne
  | cons e es ih =>
    have entry := entry_write hl (flat e List.mem_cons_self) depth
    cases es with
    | nil => exact .last entry
    | cons e' es =>
      obtain ⟨p, hp, hitem⟩ := hl.item
      have more := ih (List.cons_ne_nil e' es) fun x hx => flat x (List.mem_cons_of_mem e hx)
      rw [writeEntries]
      · rw [String.toList_append, String.toList_append, hitem, List.append_assoc, List.cons_append]
        exact .more entry (more.pad Entry.pad hp)
      · exact nofun

/-- An object is written as the text of its entries. -/
theorem objectText_write (hl : l.Legible) {es : List (Text × Datum)} (flat : ∀ e ∈ es, Flat l e) :
    ObjectText es (write l (.record es)).toList := by
  have hwritten : (write l (.record es)).toList = '{' :: ((writeEntries l es).toList ++ ['}']) := by
    rw [write]
    simp
  rw [hwritten]
  refine .of ?_
  by_cases hne : es = []
  · subst hne
    exact .none .nil
  · exact .some (separated_writeEntries hl hne flat _)

/-- A value without parts: a string, or a whole number that is not too long. -/
inductive Plain : Datum → Prop
  | str (s : String) : Plain (.str s)
  | int {n : Int} (h : n.natAbs < 10 ^ maxDigits) : Plain (.int n)

theorem Plain.simple {v : Datum} (h : Plain v) : Simple v (write l v).toList := by
  cases h with
  | str s =>
    rw [Datum.str, write]
    exact .text (quoted_writeText (apart_ofString s))
  | int hn => exact .scalar (scalar_write_int hn)

/-- The entries of an object under string keys. -/
def fields (es : List (String × Datum)) : List (Text × Datum) :=
  es.map fun e => (Text.ofString e.1, e.2)

/-- An object whose values have no parts is read back as it was written, if no key comes twice. -/
theorem readText_write_object {es : List (String × Datum)} (plain : ∀ e ∈ es, Plain e.2)
    (distinct : ((fields es).map (·.1)).Nodup) :
    readText (write compact (.object es)) = .ok (.object es) := by
  refine readText_eq_record_iff.mpr ⟨fields es, ?_, Datum.collect_of_nodup distinct⟩
  refine objectText_write legible_compact fun e he => ?_
  obtain ⟨field, hfield, rfl⟩ := List.mem_map.mp he
  exact ⟨apart_ofString field.1, (plain field hfield).simple⟩

end FederatedLogin.Json
