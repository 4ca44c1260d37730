import FederatedLogin.Uuid
import Mathlib.Data.List.TakeWhile
import Mathlib.Tactic.Ring

/-!
# Identifiers are read back as they were written

The written form of an identifier has hexadecimal digits and dashes in it and nothing else. So the
reader finds no word and no brace to drop, and once the dashes are removed it is left with the
thirty-two digits, whose value is the identifier (`ofText?_text`).
-/

namespace FederatedLogin

namespace Text

variable {p : Char → Bool} {s : List Char}

/-- Nothing is removed if the test accepts nothing. -/
theorem stripBy_eq_self (h : ∀ c ∈ s, p c = false) : stripBy p s = s := by
  have hkept (l : List Char) (hl : ∀ c ∈ l, p c = false) : l.dropWhile p = l := by
    cases l with
    | nil => rfl
    | cons c l => exact List.dropWhile_cons_of_neg (by simp [hl c List.mem_cons_self])
  have hreverse : ∀ c ∈ s.reverse, p c = false := fun c hc => h c (List.mem_reverse.mp hc)
  rw [stripBy, hkept s h, hkept s.reverse hreverse, List.reverse_reverse]

/-! ### Hexadecimal digits -/

theorem digitIn?_hexDigit : ∀ v < 16, digitIn? 16 (hexDigit v) = some v := by decide +kernel

/-- The characters that are no hexadecimal digits have no part in a written number. -/
theorem hexDigit_plain : ∀ v < 16, hexDigit v ≠ '_' ∧ hexDigit v ≠ '-' ∧ hexDigit v ≠ '+' ∧
    hexDigit v ≠ 'x' ∧ hexDigit v ≠ 'X' ∧ isSpacing (hexDigit v) = false := by decide +kernel

theorem hex_succ (width n : Nat) :
    hex (width + 1) n = hexDigit (n / Nat.pow 16 width % 16) :: hex width n := by
  rw [hex, List.range_succ, List.reverse_append]
  rfl

theorem length_hex (width n : Nat) : (hex width n).length = width := by
  rw [hex, List.length_map, List.length_reverse, List.length_range]

theorem exists_of_mem_hex {c : Char} {width n : Nat} (h : c ∈ hex width n) :
    ∃ v < 16, c = hexDigit v := by
  obtain ⟨i, -, rfl⟩ := List.mem_map.mp h
  exact ⟨_, Nat.mod_lt _ (by decide), rfl⟩

/-- Digits are added at the end of those before. -/
theorem digitsAfter_hex (width n before : Nat) :
    digitsAfter 16 before (hex width n) = some (before * 16 ^ width + n % 16 ^ width) := by
  induction width generalizing before with
  | zero => simp [hex, digitsAfter, Nat.mod_one]
  | succ width ih =>
    have hlt : n / Nat.pow 16 width % 16 < 16 := Nat.mod_lt _ (by decide)
    rw [hex_succ, digitsAfter, digitIn?_hexDigit _ hlt, Option.bind_some, ih, Nat.pow_succ,
      Nat.mod_mul]
    · change some ((before * 16 + n / 16 ^ width % 16) * 16 ^ width + n % 16 ^ width) = _
      congr 1
      ring
    · intro _ _ hunderscore
      exact absurd hunderscore (hexDigit_plain _ hlt).1

theorem digitsOf?_hex (width n : Nat) :
    digitsOf? 16 (hex (width + 1) n) = some (n % 16 ^ (width + 1)) := by
  have hlt : n / Nat.pow 16 width % 16 < 16 := Nat.mod_lt _ (by decide)
  rw [hex_succ, digitsOf?, digitIn?_hexDigit _ hlt, Option.bind_some, digitsAfter_hex, Nat.pow_succ,
    Nat.mod_mul]
  change some (n / 16 ^ width % 16 * 16 ^ width + n % 16 ^ width) = _
  congr 1
  ring

/-- No mark of base sixteen is found in hexadecimal digits. -/
theorem dropBaseMark_hex (width n : Nat) :
    dropBaseMark 16 (hex (width + 2) n) = hex (width + 2) n := by
  obtain ⟨-, -, -, hx, hX, -⟩ := hexDigit_plain (n / Nat.pow 16 width % 16)
    (Nat.mod_lt _ (by decide))
  rw [hex_succ, hex_succ, dropBaseMark.eq_def]
  split <;> simp_all

/-- Hexadecimal digits are read as the number that they were written for. -/
theorem integer?_hex (width : Nat) {n : Nat} (h : n < 16 ^ (width + 2)) :
    integer? 16 (hex (width + 2) n) = some (.ofNat n) := by
  have hstrip : stripBy isSpacing (hex (width + 2) n) = hex (width + 2) n := by
    refine stripBy_eq_self fun c hc => ?_
    obtain ⟨v, hv, rfl⟩ := exists_of_mem_hex hc
    exact (hexDigit_plain v hv).2.2.2.2.2
  obtain ⟨-, hminus, hplus, -⟩ := hexDigit_plain (n / Nat.pow 16 (width + 1) % 16)
    (Nat.mod_lt _ (by decide))
  have hdigits := digitsOf?_hex (width + 1) n
  rw [Nat.mod_eq_of_lt h, ← dropBaseMark_hex, hex_succ] at hdigits
  rw [integer?, hstrip, hex_succ]
  split
  · rename_i hsign
    exact absurd (List.cons.inj hsign).1 hminus
  · rename_i hsign
    exact absurd (List.cons.inj hsign).1 hplus
  · rw [hdigits]
    rfl

end Text

namespace Uuid

/-- Nothing is removed from a text that lacks the first letter of the word. -/
theorem without_eq_self {c : Char} {word s : List Char} (h : c ∉ s) (fuel : Nat) :
    without (c :: word) fuel s = s := by
  induction fuel generalizing s with
  | zero => rw [without]
  | succ fuel ih =>
    cases s with
    | nil => rfl
    | cons d s =>
      have hne : c ≠ d := fun hd => h (hd ▸ List.mem_cons_self)
      have hfirst : (c :: word).isPrefixOf (d :: s) = false := by
        simp [List.isPrefixOf, hne]
      have hrest : c ∉ s := fun hmem => h (List.mem_cons_of_mem d hmem)
      rw [without, hfirst, if_neg Bool.false_ne_true, ih hrest]

/-- The written form has the digits in order, in five groups. -/
theorem toList_text (u : Uuid) :
    u.text.toList = u.digits.take 8 ++ '-' :: ((u.digits.drop 8).take 4 ++
      '-' :: ((u.digits.drop 12).take 4 ++ '-' :: ((u.digits.drop 16).take 4 ++
        '-' :: (u.digits.drop 20).take 12))) := by
  rw [text]
  simp

theorem mem_toList_text {u : Uuid} {c : Char} (h : c ∈ u.text.toList) :
    c = '-' ∨ ∃ v < 16, c = Text.hexDigit v := by
  rw [toList_text] at h
  simp only [List.mem_append, List.mem_cons] at h
  have hmem (from' count : Nat) (hc : c ∈ (u.digits.drop from').take count) :
      ∃ v < 16, c = Text.hexDigit v :=
    Text.exists_of_mem_hex (List.mem_of_mem_drop (List.mem_of_mem_take hc))
  rcases h with h | h | h | h | h | h | h | h | h
  · exact .inr (hmem 0 8 h)
  · exact .inl h
  · exact .inr (hmem 8 4 h)
  · exact .inl h
  · exact .inr (hmem 12 4 h)
  · exact .inl h
  · exact .inr (hmem 16 4 h)
  · exact .inl h
  · exact .inr (hmem 20 12 h)

/-- Without its dashes, the written form has the digits and nothing else. -/
theorem filter_toList_text (u : Uuid) : u.text.toList.filter (· ≠ '-') = u.digits := by
  have hgroup (from' count : Nat) :
      ((u.digits.drop from').take count).filter (· ≠ '-') = (u.digits.drop from').take count := by
    refine List.filter_eq_self.mpr fun c hc => ?_
    obtain ⟨v, hv, rfl⟩ :=
      Text.exists_of_mem_hex (List.mem_of_mem_drop (List.mem_of_mem_take hc))
    exact decide_eq_true (Text.hexDigit_plain v hv).2.1
  have hcut (from' count : Nat) :
      (u.digits.drop from').take count ++ u.digits.drop (from' + count) = u.digits.drop from' := by
    rw [← List.drop_drop, List.take_append_drop]
  have hfirst := hgroup 0 8
  have hlast : u.digits.drop 32 = [] := List.drop_eq_nil_of_le (Text.length_hex 32 _).le
  have hlast' := hcut 20 12
  rw [hlast, List.append_nil] at hlast'
  rw [List.drop_zero] at hfirst
  have hdash (s : List Char) : ('-' :: s).filter (· ≠ '-') = s.filter (· ≠ '-') := rfl
  rw [toList_text]
  simp only [List.filter_append, hdash, hfirst, hgroup]
  rw [hlast', hcut 16 4, hcut 12 4, hcut 8 4, List.take_append_drop]

/-- An identifier is read back as it was written. -/
theorem ofText?_text (u : Uuid) : ofText? u.text = some u := by
  have hnotMem {c : Char} (hdash : c ≠ '-') (hdigit : ∀ v < 16, c ≠ Text.hexDigit v) :
      c ∉ u.text.toList := by
    intro hmem
    rcases mem_toList_text hmem with h | ⟨v, hv, h⟩
    · exact hdash h
    · exact hdigit v hv h
  have hword : 'u' ∉ u.text.toList := hnotMem (by decide) (by decide)
  have hurn : without "urn:".toList (u.text.length + 1) u.text.toList = u.text.toList :=
    without_eq_self hword _
  have huuid : without "uuid:".toList (u.text.length + 1) u.text.toList = u.text.toList :=
    without_eq_self hword _
  have hstrip : Text.stripBy (fun c => c = '\x7b' || c = '\x7d') u.text.toList = u.text.toList := by
    refine Text.stripBy_eq_self fun c hc => ?_
    have hopen : c ≠ '\x7b' := fun h => hnotMem (by decide) (by decide) (h ▸ hc)
    have hclose : c ≠ '\x7d' := fun h => hnotMem (by decide) (by decide) (h ▸ hc)
    simp [hopen, hclose]
  have hlength : u.digits.length = 32 := Text.length_hex 32 _
  have hvalue : Text.integer? 16 u.digits = some (.ofNat u.value.toNat) :=
    Text.integer?_hex 30 u.value.isLt
  simp only [ofText?, hurn, huuid, hstrip]
  rw [filter_toList_text, if_pos hlength, hvalue]
  simp

end Uuid

end FederatedLogin
