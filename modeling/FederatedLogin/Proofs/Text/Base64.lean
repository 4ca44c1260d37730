import FederatedLogin.Text.Base64
import Mathlib.Data.List.GetD
import Mathlib.Data.List.Nodup

/-!
# Base64 texts are canonical

Only one text stands for a byte sequence: what the strict decoder takes is what the encoder writes
for the bytes that come out (`encode_of_decode`), and it takes all that the encoder writes
(`decode_encode`). Both go through the six-bit values that the characters stand for, `sextets` one
way and `ofSextets` the other.

The lenient decoder takes many more texts, but it reads what is written for bytes as these bytes
(`decodeLenient_encode`), since it adds the padding marks that the last group lacks.
-/

namespace FederatedLogin.Text.Base64

variable {alphabet : List Char}

/-- The six-bit values that are written for a byte sequence. -/
def sextets : List UInt8 → List Nat
  | [] => []
  | [a] => [a.toNat * 16 / 64, a.toNat * 16 % 64]
  | [a, b] =>
    let n := (a.toNat * 256 + b.toNat) * 4
    [n / 4096, n / 64 % 64, n % 64]
  | a :: b :: c :: rest =>
    let n := (a.toNat * 256 + b.toNat) * 256 + c.toNat
    n / 262144 :: n / 4096 % 64 :: n / 64 % 64 :: n % 64 :: sextets rest

theorem encode_eq_map_sextets (alphabet : List Char) (bytes : List UInt8) :
    encode alphabet bytes = (sextets bytes).map (alphabet.getD · '?') := by
  fun_induction sextets bytes with
  | case1 => rfl
  | case2 a => rfl
  | case3 a b n => rfl
  | case4 a b c rest n ih =>
    rw [encode, ih]
    rfl

/-- Values without bits left over are the ones that are written for the bytes they spell. -/
theorem sextets_ofSextets {values : List Nat} (h : ∀ v ∈ values, v < 64)
    (whole : noBitsLeft values = true) : sextets (ofSextets values) = values := by
  -- Four values make three bytes; a last group of three or two makes two or one.
  fun_induction noBitsLeft values with
  | case1 a b c d rest ih =>
    have hrest : sextets (ofSextets rest) = rest :=
      ih (fun v hv => h v (by simp [hv])) whole
    obtain ⟨ha, hb, hc, hd⟩ : a < 64 ∧ b < 64 ∧ c < 64 ∧ d < 64 := by simp_all
    simp only [ofSextets, sextets, hrest, UInt8.toNat_ofNat', List.cons.injEq, and_true]
    omega
  | case2 a b c =>
    obtain ⟨ha, hb, hc⟩ : a < 64 ∧ b < 64 ∧ c < 64 := by simp_all
    have hleft : c % 4 = 0 := of_decide_eq_true whole
    simp only [ofSextets, sextets, UInt8.toNat_ofNat', List.cons.injEq, and_true]
    omega
  | case3 a b =>
    obtain ⟨ha, hb⟩ : a < 64 ∧ b < 64 := by simp_all
    have hleft : b % 16 = 0 := of_decide_eq_true whole
    simp only [ofSextets, sextets, UInt8.toNat_ofNat', List.cons.injEq, and_true]
    omega
  | case4 => exact absurd whole Bool.false_ne_true
  | case5 => rfl

/-- A character's value is its place in the alphabet. -/
theorem getD_of_valueIn? {c : Char} {v : Nat} (h : valueIn? alphabet c = some v) :
    v < alphabet.length ∧ alphabet.getD v '?' = c := by
  obtain ⟨hlt, hget, -⟩ := List.idxOf?_eq_some_iff.mp h
  rw [List.getD_eq_getElem _ _ hlt]
  exact ⟨hlt, hget⟩

theorem map_getD_of_mapM {s : List Char} {values : List Nat}
    (h : s.mapM (valueIn? alphabet) = some values) :
    (∀ v ∈ values, v < alphabet.length) ∧ values.map (alphabet.getD · '?') = s := by
  induction s generalizing values with
  | nil =>
    obtain rfl := Option.some.inj h
    exact ⟨nofun, rfl⟩
  | cons c s ih =>
    rw [List.mapM_cons] at h
    obtain ⟨v, hv, h⟩ := Option.bind_eq_some_iff.mp h
    obtain ⟨vs, hvs, h⟩ := Option.bind_eq_some_iff.mp h
    obtain rfl := Option.some.inj h
    obtain ⟨hlt, hget⟩ := getD_of_valueIn? hv
    obtain ⟨hlts, hgets⟩ := ih hvs
    refine ⟨?_, ?_⟩
    · intro w hw
      rcases List.mem_cons.mp hw with rfl | hw
      · exact hlt
      · exact hlts w hw
    · rw [List.map_cons, hget, hgets]

/-- What is decoded is what is written for the result. -/
theorem encode_of_decode (hsize : alphabet.length = 64) {s : List Char} {bytes : List UInt8}
    (h : decode alphabet s = some bytes) : encode alphabet bytes = s := by
  obtain ⟨values, hfilter, rfl⟩ := Option.map_eq_some_iff.mp h
  obtain ⟨hvalues, whole⟩ := Option.filter_eq_some_iff.mp hfilter
  obtain ⟨hlt, hget⟩ := map_getD_of_mapM hvalues
  rw [encode_eq_map_sextets, sextets_ofSextets (fun v hv => hsize ▸ hlt v hv) whole, hget]

/-- Every written character is of the alphabet, or a question mark. -/
theorem mem_of_mem_encode {bytes : List UInt8} {c : Char} (h : c ∈ encode alphabet bytes) :
    c ∈ alphabet ∨ c = '?' := by
  rw [encode_eq_map_sextets] at h
  obtain ⟨v, -, rfl⟩ := List.mem_map.mp h
  rcases Nat.lt_or_ge v alphabet.length with hv | hv
  · rw [List.getD_eq_getElem _ _ hv]
    exact .inl (List.getElem_mem hv)
  · exact .inr (List.getD_eq_default _ _ hv)

/-! ### Written texts -/

theorem sextets_lt (bytes : List UInt8) : ∀ v ∈ sextets bytes, v < 64 := by
  have hbyte (a : UInt8) : a.toNat < 256 := a.toNat_lt_size
  fun_induction sextets bytes with
  | case1 => exact nofun
  | case2 a =>
    have ha := hbyte a
    simp only [List.mem_cons, List.not_mem_nil, or_false, forall_eq_or_imp, forall_eq]
    omega
  | case3 a b n =>
    have ha := hbyte a
    have hb := hbyte b
    simp only [n, List.mem_cons, List.not_mem_nil, or_false, forall_eq_or_imp, forall_eq]
    omega
  | case4 a b c rest n ih =>
    have ha := hbyte a
    have hb := hbyte b
    have hc := hbyte c
    simp only [n, List.mem_cons, forall_eq_or_imp]
    refine ⟨by omega, by omega, by omega, by omega, ih⟩

/-- Bytes are read back from the values that are written for them. -/
theorem ofSextets_sextets (bytes : List UInt8) : ofSextets (sextets bytes) = bytes := by
  have hbyte (a : UInt8) (n : Nat) (h : n % 256 = a.toNat) : UInt8.ofNat n = a := by
    refine UInt8.toNat_inj.mp ?_
    rw [UInt8.toNat_ofNat', h]
  have hlt (a : UInt8) : a.toNat < 256 := a.toNat_lt_size
  fun_induction sextets bytes with
  | case1 => rfl
  | case2 a =>
    have ha := hlt a
    rw [ofSextets, hbyte a _ (by omega)]
  | case3 a b n =>
    have ha := hlt a
    have hb := hlt b
    simp only [n, ofSextets]
    rw [hbyte a _ (by omega), hbyte b _ (by omega)]
  | case4 a b c rest n ih =>
    have ha := hlt a
    have hb := hlt b
    have hc := hlt c
    simp only [n, ofSextets, ih]
    rw [hbyte a _ (by omega), hbyte b _ (by omega), hbyte c _ (by omega)]

/-- Of a byte sequence no bits are left over. -/
theorem noBitsLeft_sextets (bytes : List UInt8) : noBitsLeft (sextets bytes) = true := by
  fun_induction sextets bytes with
  | case1 => rfl
  | case2 a =>
    have hleft : a.toNat * 16 % 64 % 16 = 0 := by omega
    exact decide_eq_true hleft
  | case3 a b n =>
    have hleft : n % 64 % 4 = 0 := by omega
    exact decide_eq_true hleft
  | case4 a b c rest n ih => exact ih

/-- Four characters are written for three bytes, and as few as can be for what is left of them. -/
theorem length_encode (bytes : List UInt8) :
    (encode alphabet bytes).length = (bytes.length * 8 + 5) / 6 := by
  rw [encode_eq_map_sextets, List.length_map]
  fun_induction sextets bytes with
  | case1 => rfl
  | case2 a => simp
  | case3 a b n => simp
  | case4 a b c rest n ih =>
    simp only [List.length_cons, ih]
    omega

/-- In an alphabet without repeats, the value of a character is where it stands. -/
theorem valueIn?_getD (distinct : alphabet.Nodup) {v : Nat} (hv : v < alphabet.length) :
    valueIn? alphabet (alphabet.getD v '?') = some v := by
  rw [List.getD_eq_getElem _ _ hv]
  refine List.idxOf?_eq_some_iff.mpr ⟨hv, rfl, fun w hw heq => ?_⟩
  have hsame : w = v := (List.Nodup.getElem_inj_iff distinct).mp heq
  omega

/-- What is written for bytes is decoded to them. -/
theorem decode_encode (hsize : alphabet.length = 64) (distinct : alphabet.Nodup)
    (bytes : List UInt8) : decode alphabet (encode alphabet bytes) = some bytes := by
  have hvalues : ∀ values : List Nat, (∀ v ∈ values, v < 64) →
      (values.map (alphabet.getD · '?')).mapM (valueIn? alphabet) = some values := by
    intro values hlt
    induction values with
    | nil => rfl
    | cons v values ih =>
      have hv : v < alphabet.length := hsize ▸ hlt v List.mem_cons_self
      rw [List.map_cons, List.mapM_cons, valueIn?_getD distinct hv,
        ih fun w hw => hlt w (List.mem_cons_of_mem v hw)]
      rfl
  rw [decode, encode_eq_map_sextets, hvalues _ (sextets_lt bytes),
    Option.filter_some_pos (noBitsLeft_sextets bytes), Option.map_some, ofSextets_sextets]

/-! ### The lenient decoder -/

/-- The last group has two values or more. -/
theorem length_sextets_mod (bytes : List UInt8) : (sextets bytes).length % 4 ≠ 1 := by
  fun_induction sextets bytes with
  | case1 => decide
  | case2 a => exact (nofun : 2 ≠ 1)
  | case3 a b n => exact (nofun : 3 ≠ 1)
  | case4 a b c rest n ih =>
    simp only [List.length_cons]
    omega

/-- Every character of the alphabet has its place for a value, takes one byte, and is neither a
padding mark nor a dot. -/
theorem urlAlphabet_getD : ∀ v < 64, anyValue? (urlAlphabet.getD v '?') = some v ∧
    (urlAlphabet.getD v '?').utf8Size = 1 ∧ urlAlphabet.getD v '?' ≠ '=' ∧
      urlAlphabet.getD v '?' ≠ '.' := by
  decide +kernel

/-- The lenient decoder takes in the values of written characters. -/
theorem lenientSextets_append {values : List Nat} (h : ∀ v ∈ values, v < 64) (got : List Nat)
    (rest : List Char) :
    lenientSextets got 0 (values.map (urlAlphabet.getD · '?') ++ rest) =
      lenientSextets (values.reverse ++ got) 0 rest := by
  induction values generalizing got with
  | nil => rfl
  | cons v values ih =>
    have hv : v < 64 := h v List.mem_cons_self
    obtain ⟨hvalue, -, hne, -⟩ := urlAlphabet_getD v hv
    have hrest := ih (fun w hw => h w (List.mem_cons_of_mem v hw)) (v :: got)
    rw [List.map_cons, List.cons_append, lenientSextets, hvalue, List.reverse_cons,
      List.append_assoc]
    · exact hrest
    · exact hne

/-- A group of two or three values is complete with two padding marks or one. -/
theorem lenientSextets_pad {got : List Nat} (h : got.length % 4 ≠ 1) :
    lenientSextets got 0 (List.replicate ((4 - got.length % 4) % 4) '=') = some got.reverse := by
  have hlt : got.length % 4 < 4 := Nat.mod_lt _ (by decide)
  obtain hfull | htwo | hthree : got.length % 4 = 0 ∨ got.length % 4 = 2 ∨ got.length % 4 = 3 := by
    omega
  · simp [hfull, lenientSextets]
  · simp [htwo, lenientSextets]
  · simp [hthree, lenientSextets]

/-- Written characters take one byte each. -/
theorem utf8ByteSize_map {values : List Nat} (h : ∀ v ∈ values, v < 64) :
    (String.ofList (values.map (urlAlphabet.getD · '?'))).utf8ByteSize = values.length := by
  induction values with
  | nil => rfl
  | cons v values ih =>
    obtain ⟨-, hv, -⟩ := urlAlphabet_getD v (h v List.mem_cons_self)
    have hrest := ih fun w hw => h w (List.mem_cons_of_mem v hw)
    rw [List.map_cons, String.ofList_cons, String.utf8ByteSize_append,
      String.utf8ByteSize_singleton, hv, hrest, List.length_cons, Nat.add_comm]

/-- What is written for bytes is decoded to them. -/
theorem decodeLenient_encode (bytes : List UInt8) :
    decodeLenient (String.ofList (encode urlAlphabet bytes)).utf8ByteSize
      (encode urlAlphabet bytes) = some bytes := by
  have hlt := sextets_lt bytes
  have hpad : (sextets bytes).reverse.length % 4 ≠ 1 := by
    rw [List.length_reverse]
    exact length_sextets_mod bytes
  rw [encode_eq_map_sextets, decodeLenient, utf8ByteSize_map hlt, lenientSextets_append hlt,
    List.append_nil, ← List.length_reverse, lenientSextets_pad hpad, List.reverse_reverse,
    Option.map_some, ofSextets_sextets]

/-- No dot is written. -/
theorem dot_notMem_encode (bytes : List UInt8) : '.' ∉ encode urlAlphabet bytes := by
  intro h
  rw [encode_eq_map_sextets] at h
  obtain ⟨v, hv, hdot⟩ := List.mem_map.mp h
  obtain ⟨-, -, -, hne⟩ := urlAlphabet_getD v (sextets_lt bytes v hv)
  exact hne hdot

end FederatedLogin.Text.Base64
