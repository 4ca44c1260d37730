import FederatedLogin.Password
import FederatedLogin.Proofs.Text.Base64

/-!
# A password fits its own hash

A hash begins with the settings that it was made with, written in the one way that
`HashSettings.text` knows. Reading them back gives the same settings (`settings?_hashWith`), so that
checking a password against its hash makes the same hash again (`check_of_hash`). What is checked
need not be a text: `checkStored_eq_true_iff`, `checkStored_eq_false_iff` and
`checkStored_eq_error_iff` say for every stored value what comes of it.
-/

namespace FederatedLogin.Password

/-! ### Cutting at dollar signs -/

theorem fields_cons_of_ne {c : Char} (hc : c ≠ '$') {s f : List Char} {rest : List (List Char)}
    (h : fields s = f :: rest) : fields (c :: s) = (c :: f) :: rest := by
  rw [fields] at h ⊢
  rw [List.foldr_cons, h]
  split
  · rename_i heq
    exact absurd rfl hc
  · rename_i heq
    cases heq
    rfl
  · rename_i heq
    cases heq

/-- A text without dollar signs is one field. -/
theorem fields_of_notMem {s : List Char} (h : '$' ∉ s) : fields s = [s] := by
  induction s with
  | nil => rfl
  | cons c s ih =>
    exact fields_cons_of_ne (List.ne_of_not_mem_cons h).symm (ih (List.not_mem_of_not_mem_cons h))

/-- The field before a dollar sign comes first. -/
theorem fields_append {s : List Char} (h : '$' ∉ s) (t : List Char) :
    fields (s ++ '$' :: t) = s :: fields t := by
  induction s with
  | nil => rfl
  | cons c s ih =>
    exact fields_cons_of_ne (List.ne_of_not_mem_cons h).symm (ih (List.not_mem_of_not_mem_cons h))

/-! ### The settings in a hash -/

/-- The two digits of a cost. -/
def costText (cost : Nat) : List Char :=
  List.replicate (2 - (toString cost).toList.length) '0' ++ (toString cost).toList

theorem text_eq (s : HashSettings) :
    s.text = [] ++ '$' :: (s.version.toList ++ '$' :: (costText s.cost ++ '$' ::
      Text.Base64.encode Text.Base64.hashAlphabet s.salt)) := by
  simp [HashSettings.text, costText]

/-- Settings as they can be read from a text. -/
structure Legible (s : HashSettings) : Prop where
  version : s.version ∈ versions
  least : 4 ≤ s.cost
  most : s.cost ≤ 31
  salt : ∃ t, t.length = 22 ∧ Text.Base64.decode Text.Base64.hashAlphabet t = some s.salt

theorem bounds_of_cost? {s : List Char} {n : Nat} (h : cost? s = some n) : 4 ≤ n ∧ n ≤ 31 := by
  -- The bounds are checked on the digits, with or without a sign before them.
  have hdigits : ∀ ds : List Char, (if !ds.isEmpty && ds.all Char.isDigit then
      (some (ds.foldl (fun n c => n * 10 + (c.toNat - 48)) 0)).filter fun n => 4 ≤ n && n ≤ 31
    else none) = some n → 4 ≤ n ∧ n ≤ 31 := by
    intro ds h
    split at h
    · obtain ⟨-, hbounds⟩ := Option.filter_eq_some_iff.mp h
      obtain ⟨hleast, hmost⟩ := Bool.and_eq_true_iff.mp hbounds
      exact ⟨of_decide_eq_true hleast, of_decide_eq_true hmost⟩
    · exact absurd h nofun
  exact hdigits _ h

theorem legible_of_settings? {text : String} {s : HashSettings} (h : settings? text = some s) :
    Legible s := by
  rw [settings?] at h
  split at h
  · rename_i version cost rest hfields
    simp only at h
    split at h
    · rename_i hgood
      obtain ⟨hversion, hlength⟩ := Bool.and_eq_true_iff.mp hgood
      obtain ⟨n, hcost, h⟩ := Option.bind_eq_some_iff.mp h
      obtain ⟨salt, hsalt, h⟩ := Option.bind_eq_some_iff.mp h
      obtain rfl := Option.some.inj h
      obtain ⟨hleast, hmost⟩ := bounds_of_cost? hcost
      refine ⟨List.contains_iff_mem.mp hversion, hleast, hmost, rest.take 22, ?_, hsalt⟩
      have := of_decide_eq_true hlength
      rw [List.length_take]
      omega
    · exact absurd h nofun
  · exact absurd h nofun

/-- Every cost that can be read is written so that it is read again. -/
theorem cost?_costText {n : Nat} (hleast : 4 ≤ n) (hmost : n ≤ 31) :
    '$' ∉ costText n ∧ costText n ≠ [] ∧ cost? (costText n) = some n := by
  have hall : ∀ n < 32, 4 ≤ n →
      '$' ∉ costText n ∧ costText n ≠ [] ∧ cost? (costText n) = some n := by decide
  exact hall n (by omega) hleast

theorem versions_legible {v : String} (h : v ∈ versions) : '$' ∉ v.toList ∧ v.toList ≠ [] := by
  have hall : ∀ v ∈ versions, '$' ∉ v.toList ∧ v.toList ≠ [] := by simp [versions]
  exact hall v h

/-- The alphabet of hashes has 64 characters, each once, and no dollar sign. -/
theorem hashAlphabet_spec : Text.Base64.hashAlphabet.length = 64 ∧
    Text.Base64.hashAlphabet.Nodup ∧ '$' ∉ Text.Base64.hashAlphabet := by
  decide +kernel

theorem dollar_notMem_encode (bytes : List UInt8) :
    '$' ∉ Text.Base64.encode Text.Base64.hashAlphabet bytes := by
  intro h
  rcases Text.Base64.mem_of_mem_encode h with hmem | hmark
  · exact hashAlphabet_spec.2.2 hmem
  · exact absurd hmark (by decide)

/-- Between the dollar signs of a text that opens with settings stand their version, their cost, and
their salt with what comes after it. -/
theorem fields_text_append {s : HashSettings} (hversion : '$' ∉ s.version.toList)
    (hcost : '$' ∉ costText s.cost) {rest : List Char} (hrest : '$' ∉ rest) :
    fields (s.text ++ rest) = [[], s.version.toList, costText s.cost,
      Text.Base64.encode Text.Base64.hashAlphabet s.salt ++ rest] := by
  have hlast : '$' ∉ Text.Base64.encode Text.Base64.hashAlphabet s.salt ++ rest := by
    rw [List.mem_append]
    exact fun hmem => hmem.elim (dollar_notMem_encode _) hrest
  rw [text_eq]
  simp only [List.append_assoc, List.cons_append]
  rw [fields_append List.not_mem_nil, fields_append hversion, fields_append hcost,
    fields_of_notMem hlast]

/-- Settings are read back from every text that opens with them. -/
theorem settings?_text_append {s : HashSettings} (h : Legible s) {rest : List Char}
    (hrest : '$' ∉ rest) : settings? (String.ofList (s.text ++ rest)) = some s := by
  obtain ⟨hversion, hversionNe⟩ := versions_legible h.version
  obtain ⟨hcost, hcostNe, hread⟩ := cost?_costText h.least h.most
  obtain ⟨t, hlength, hdecode⟩ := h.salt
  have hsalt : Text.Base64.encode Text.Base64.hashAlphabet s.salt = t :=
    Text.Base64.encode_of_decode hashAlphabet_spec.1 hdecode
  have hfields := fields_text_append hversion hcost hrest
  rw [hsalt] at hfields
  have hrestNe : t ++ rest ≠ [] := by
    intro hnil
    rw [List.append_eq_nil_iff] at hnil
    rw [hnil.1] at hlength
    exact absurd hlength (by decide)
  have hkept : (fields (s.text ++ rest)).filter (!·.isEmpty) =
      [s.version.toList, costText s.cost, t ++ rest] := by
    rw [hfields]
    simp [hversionNe, hcostNe, hrestNe]
  -- What comes after the salt is not looked at.
  have htake : (t ++ rest).take 22 = t := by rw [← hlength, List.take_left]
  rw [settings?, String.toList_ofList, hkept]
  simp [h.version, hread, htake, hdecode, hlength]

/-- The settings of a hash are the ones that it was made with. -/
theorem settings?_hashWith {s : HashSettings} (h : Legible s) (password : String) :
    settings? (hashWith s password) = some s :=
  settings?_text_append h (dollar_notMem_encode _)

/-! ### Checking -/

/-- A stored hash that is a string is checked as it is. -/
theorem checkStored_str {hashed : String} (hne : hashed.isEmpty = false) (password : String) :
    checkStored password (.str hashed) = .ok (check password hashed) := by
  have htext : (Text.ofString hashed).isEmpty = false := by
    simpa [Text.ofString, String.isEmpty_eq_false_iff] using hne
  simp [checkStored, Datum.str, Datum.truthy, htext]

/-- A stored value can be taken for a hash: it is empty, or it is a text. -/
def HashLike (stored : Datum) : Prop := stored.truthy = false ∨ ∃ t, stored = .text t

/-- A stored value is a hash, and the password fits it. -/
def Verifies (password : String) (stored : Datum) : Prop :=
  ∃ hashed : String, stored = .str hashed ∧ check password hashed = true

/-- No password fits the empty text. -/
theorem check_empty (password : String) : check password "" = false := by
  have hsettings : settings? "" = none := by decide
  rw [check, hash, hsettings]
  split
  · rename_i hhash
    split at hhash <;> exact absurd hhash nofun
  · rfl

/-- A text is checked without an error. -/
theorem checkStored_text (password : String) (t : Text) :
    checkStored password (.text t) = .ok (t.toString?.any (check password)) := by
  cases t with
  | nil =>
    have hempty : Text.toString? [] = some "" := rfl
    rw [checkStored, hempty, Option.any_some, check_empty]
    rfl
  | cons p t => rfl

/-- A password is found to fit exactly those stored values that verify it. -/
theorem checkStored_eq_true_iff {password : String} {stored : Datum} :
    checkStored password stored = .ok true ↔ Verifies password stored := by
  constructor
  · intro h
    cases stored with
    | text t =>
      rw [checkStored_text, Except.ok.injEq, Option.any_eq_true] at h
      obtain ⟨hashed, ht, hcheck⟩ := h
      exact ⟨hashed, congrArg Datum.text (Text.toString?_eq_some.mp ht), hcheck⟩
    | null | bool | int | float | bytes | list | record =>
      simp only [checkStored] at h
      split at h <;> exact absurd h nofun
  · rintro ⟨hashed, rfl, hcheck⟩
    rw [Datum.str, checkStored_text, Text.toString?_ofString, Option.any_some, hcheck]

/-- What cannot be taken for a hash is an error, and nothing else is. -/
theorem checkStored_eq_error_iff {password : String} {stored : Datum} {flaw : NotText} :
    checkStored password stored = .error flaw ↔ ¬HashLike stored ∧ flaw = ⟨stored.typeName⟩ := by
  cases stored with
  | text t => simp [checkStored_text, HashLike]
  | null | bool | int | float | bytes | list | record =>
    simp only [checkStored, HashLike, reduceCtorEq, exists_false, or_false]
    split
    · simp_all
    · simp_all [@eq_comm NotText flaw]

/-- A password is found not to fit what can be taken for a hash but does not verify it. -/
theorem checkStored_eq_false_iff {password : String} {stored : Datum} :
    checkStored password stored = .ok false ↔ HashLike stored ∧ ¬Verifies password stored := by
  rw [← checkStored_eq_true_iff]
  rcases h : checkStored password stored with flaw | fits
  · simp [(checkStored_eq_error_iff.mp h).1]
  · have hlike : HashLike stored := by
      refine Classical.byContradiction fun hnot => ?_
      rw [checkStored_eq_error_iff.mpr ⟨hnot, rfl⟩] at h
      exact absurd h nofun
    cases fits <;> simp [hlike]

/-! ### Making hashes -/

/-- A hash is made of a password that is short enough, with settings that can be read. -/
theorem hash_eq_ok_iff {salt password hashed : String} :
    hash salt password = .ok hashed ↔ password.utf8ByteSize ≤ maxBytes ∧
      ∃ s, settings? salt = some s ∧ hashWith s password = hashed := by
  rw [hash]
  split
  · rename_i hlong
    refine iff_of_false (fun h => ?_) fun h => absurd h.1 (Nat.not_le_of_lt hlong)
    cases h
  · rename_i hshort
    rw [and_iff_right (Nat.le_of_not_lt hshort)]
    split
    · rename_i s hs
      simp [hs]
    · rename_i hnone
      simp [hnone]

/-- Every hash that is made of a password fits it. -/
theorem check_of_hash {salt password hashed : String} (h : hash salt password = .ok hashed) :
    check password hashed = true := by
  obtain ⟨hshort, s, hs, rfl⟩ := hash_eq_ok_iff.mp h
  -- The settings are read back from the hash, so the same hash is made again.
  have hagain : hash (hashWith s password) password = .ok (hashWith s password) :=
    hash_eq_ok_iff.mpr ⟨hshort, s, settings?_hashWith (legible_of_settings? hs) password, rfl⟩
  rw [check, hagain]
  exact beq_self_eq_true _

/-- No hash is empty. -/
theorem isEmpty_of_hash {salt password hashed : String} (h : hash salt password = .ok hashed) :
    hashed.isEmpty = false := by
  obtain ⟨-, s, -, rfl⟩ := hash_eq_ok_iff.mp h
  rw [hashWith, text_eq]
  simp

end FederatedLogin.Password
