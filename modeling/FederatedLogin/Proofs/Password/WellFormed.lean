import FederatedLogin.Proofs.Password

/-!
# Which hashes a password can fit

The written form of a hash is known character by character (`WellFormed`): an opening with version,
cost and salt, which is also what a salt for new hashes looks like (`ValidSalt`), and 31 characters
of digest. Every password that is short enough is hashed with every valid salt
(`exists_hash_iff_of_validSalt`), every hash that is made has this form (`wellFormed_of_hash`), and
a password fits a text exactly if the text was made of it (`check_eq_true_iff`).

So checking a password is decided for every stored text, and for none at all
(`verify_outcome`): it fits what was made of it, it fits nothing that has not the form of a hash,
and the check never fails.
-/

namespace FederatedLogin.Password

open Text.Base64 (hashAlphabet encode decode)

/-! ### The form of a hash -/

/-- How hashes and salts open: after dollar signs a known version, a cost of two digits from 04 to
31, and 22 characters of salt that spell whole bytes. -/
inductive Opening : List Char → Prop
  | intro {version : String} {cost : Nat} {salt : List Char} {bytes : List UInt8}
      (known : version ∈ versions) (least : 4 ≤ cost) (most : cost ≤ 31)
      (length : salt.length = 22) (spelled : decode hashAlphabet salt = some bytes) :
      Opening ('$' :: version.toList ++ '$' :: costText cost ++ '$' :: salt)

/-- A text is a salt for new hashes. -/
def ValidSalt (salt : String) : Prop := Opening salt.toList

/-- A text has the form of a hash: after the opening come 31 characters of digest. -/
inductive WellFormed (hashed : String) : Prop
  | intro {opening digest : List Char} {bytes : List UInt8} (opens : Opening opening)
      (length : digest.length = 31) (spelled : decode hashAlphabet digest = some bytes)
      (written : hashed.toList = opening ++ digest)

theorem text_eq_opening (s : HashSettings) :
    s.text = '$' :: s.version.toList ++ '$' :: costText s.cost ++
      '$' :: encode hashAlphabet s.salt := by
  rw [text_eq]
  simp

/-- Settings that were read are written as an opening. -/
theorem Legible.opening {s : HashSettings} (h : Legible s) : Opening s.text := by
  obtain ⟨t, hlength, hdecode⟩ := h.salt
  have hsalt : encode hashAlphabet s.salt = t :=
    Text.Base64.encode_of_decode hashAlphabet_spec.1 hdecode
  rw [text_eq_opening, hsalt]
  exact .intro h.version h.least h.most hlength hdecode

/-- Every opening is the written form of settings that can be read. -/
theorem Opening.exists_legible {t : List Char} (h : Opening t) : ∃ s, Legible s ∧ s.text = t := by
  obtain @⟨version, cost, salt, bytes, known, least, most, length, spelled⟩ := h
  have hsalt : encode hashAlphabet bytes = salt :=
    Text.Base64.encode_of_decode hashAlphabet_spec.1 spelled
  refine ⟨⟨version, cost, bytes⟩, ⟨known, least, most, salt, length, spelled⟩, ?_⟩
  rw [text_eq_opening]
  exact congrArg _ (congrArg _ hsalt)

theorem length_digest (cost : Nat) (salt password : List UInt8) :
    (digest cost salt password).length = 23 := by
  simp [digest, List.range, List.range.loop]

/-! ### Making hashes -/

variable {salt password hashed : String}

/-- With a valid salt, exactly the passwords that are short enough are hashed. -/
theorem exists_hash_iff_of_validSalt (valid : ValidSalt salt) (password : String) :
    (∃ hashed, hash salt password = .ok hashed) ↔ password.utf8ByteSize ≤ maxBytes := by
  obtain ⟨s, hlegible, htext⟩ := Opening.exists_legible valid
  have hread := settings?_text_append hlegible (List.not_mem_nil (a := '$'))
  rw [List.append_nil, htext, String.ofList_toList] at hread
  constructor
  · rintro ⟨hashed, hhash⟩
    exact (hash_eq_ok_iff.mp hhash).1
  · intro hshort
    exact ⟨_, hash_eq_ok_iff.mpr ⟨hshort, s, hread, rfl⟩⟩

/-- A salt of the lowest cost. -/
def lightSalt : String := "$2b$04$abcdefghijklmnopqrstuu"

theorem validSalt_lightSalt : ValidSalt lightSalt := by
  have hspelled : (decode hashAlphabet "abcdefghijklmnopqrstuu".toList).isSome := by
    decide +kernel
  obtain ⟨bytes, hbytes⟩ := Option.isSome_iff_exists.mp hspelled
  have hform : lightSalt.toList = '$' :: "2b".toList ++ '$' :: costText 4 ++
      '$' :: "abcdefghijklmnopqrstuu".toList := by
    decide +kernel
  rw [ValidSalt, hform]
  exact .intro (by simp [versions]) (by omega) (by omega) (by simp) hbytes

/-- Every password that is short enough fits some hash. -/
theorem exists_fitting (password : String) (short : password.utf8ByteSize ≤ maxBytes) :
    ∃ hashed, check password hashed = true ∧ hashed.isEmpty = false := by
  obtain ⟨hashed, hhash⟩ :=
    (exists_hash_iff_of_validSalt validSalt_lightSalt password).mpr short
  exact ⟨hashed, check_of_hash hhash, isEmpty_of_hash hhash⟩

/-- Every hash that is made has the form of a hash. -/
theorem wellFormed_of_hash (h : hash salt password = .ok hashed) : WellFormed hashed := by
  obtain ⟨-, s, hs, rfl⟩ := hash_eq_ok_iff.mp h
  refine .intro (legible_of_settings? hs).opening ?_
    (Text.Base64.decode_encode hashAlphabet_spec.1 hashAlphabet_spec.2.1 _) String.toList_ofList
  rw [Text.Base64.length_encode, length_digest]

/-- A password fits exactly the hashes that are made of it. -/
theorem check_eq_true_iff :
    check password hashed = true ↔ ∃ salt, hash salt password = .ok hashed := by
  constructor
  · intro h
    rw [check] at h
    split at h
    · rename_i again hagain
      obtain rfl := beq_iff_eq.mp h
      exact ⟨_, hagain⟩
    · exact absurd h Bool.false_ne_true
  · rintro ⟨salt, hhash⟩
    exact check_of_hash hhash

/-! ### Checking any text -/

/-- A stored value is there to be checked as a hash: it is null or a text. -/
inductive Checkable : Datum → Prop
  | null : Checkable .null
  | text (t : Text) : Checkable (.text t)

/-- A stored value is no hash: it is null, empty, or a text that has not the form of a hash. -/
inductive NoHash : Datum → Prop
  | null : NoHash .null
  | empty : NoHash (.text [])
  | malformed {t : Text} (bad : ∀ hashed, t = .ofString hashed → ¬WellFormed hashed) :
      NoHash (.text t)

/-- The stored value is a hash that was made of the password. -/
def MadeOf (password : Text) (stored : Datum) : Prop :=
  ∃ plain salt hashed, password = .ofString plain ∧ stored = .str hashed ∧
    hash salt plain = .ok hashed

/-- A check succeeds exactly on what was made of the password. -/
theorem verify_eq_true_iff {password : Text} {stored : Datum} :
    verify password stored = .ok true ↔ MadeOf password stored := by
  rw [verify]
  split
  · rename_i plain hplain
    obtain rfl := Text.toString?_eq_some.mp hplain
    rw [checkStored_eq_true_iff]
    constructor
    · rintro ⟨hashed, hstored, hcheck⟩
      obtain ⟨salt, hhash⟩ := check_eq_true_iff.mp hcheck
      exact ⟨plain, salt, hashed, rfl, hstored, hhash⟩
    · rintro ⟨other, salt, hashed, hother, hstored, hhash⟩
      obtain rfl := Text.ofString_inj.mp hother
      exact ⟨hashed, hstored, check_of_hash hhash⟩
  · rename_i hnone
    refine ⟨nofun, ?_⟩
    rintro ⟨plain, -, -, rfl, -⟩
    rw [Text.toString?_ofString] at hnone
    cases hnone

/-- A check of a text or of nothing does not fail. -/
theorem exists_verify (password : Text) {stored : Datum} (h : Checkable stored) :
    ∃ fits, verify password stored = .ok fits := by
  rw [verify]
  split
  · cases h with
    | null => exact ⟨false, rfl⟩
    | text t => exact ⟨_, checkStored_text _ t⟩
  · exact ⟨false, rfl⟩

/-- What is no hash was not made of a password. -/
theorem NoHash.not_madeOf {password : Text} {stored : Datum} (h : NoHash stored) :
    ¬MadeOf password stored := by
  rintro ⟨plain, salt, hashed, -, rfl, hhash⟩
  have hform := wellFormed_of_hash hhash
  generalize hstored : Datum.str hashed = stored at h
  cases h with
  | null => cases hstored
  | empty =>
    have hempty : hashed = "" := Datum.str_inj.mp hstored
    have hne := isEmpty_of_hash hhash
    rw [hempty] at hne
    exact absurd hne (by decide)
  | malformed bad => exact bad hashed (Datum.text.inj hstored).symm hform

/-- With every valid salt, exactly the passwords of up to 72 bytes are hashed. Every hash that is
made of a password, with whatever salt, has the form of a hash, and the password fits it. For every
text as the password and every text or null as the stored value, the check comes to an answer: the
password fits exactly what was made of it, and so it fits no null, no empty text and no text that
has not the form of a hash. -/
theorem verify_outcome :
    (∀ salt password, ValidSalt salt →
      ((∃ hashed, hash salt password = .ok hashed) ↔ password.utf8ByteSize ≤ 72)) ∧
    (∀ salt password hashed, hash salt password = .ok hashed →
      WellFormed hashed ∧ verify (.ofString password) (.str hashed) = .ok true) ∧
    ∀ password stored, Checkable stored → ∃ fits, verify password stored = .ok fits ∧
      (fits = true ↔ MadeOf password stored) ∧ (NoHash stored → fits = false) := by
  refine ⟨fun salt password valid => exists_hash_iff_of_validSalt valid password, ?_, ?_⟩
  · intro salt password hashed hhash
    exact ⟨wellFormed_of_hash hhash, verify_eq_true_iff.mpr ⟨_, salt, _, rfl, rfl, hhash⟩⟩
  · intro password stored hstored
    obtain ⟨fits, hverify⟩ := exists_verify password hstored
    have hfits : fits = true ↔ MadeOf password stored := by
      rw [← verify_eq_true_iff, hverify, Except.ok.injEq]
    refine ⟨fits, hverify, hfits, fun hno => ?_⟩
    exact Bool.eq_false_iff.mpr fun htrue => hno.not_madeOf (hfits.mp htrue)

/-- A password of three words is hashed, fits its hash, and does not fit null. -/
theorem verify_outcome_horse :
    ValidSalt lightSalt ∧ ∃ hashed, hash lightSalt "correct horse battery" = .ok hashed ∧
      WellFormed hashed ∧
      verify (.ofString "correct horse battery") (.str hashed) = .ok true ∧
      verify (.ofString "correct horse battery") .null = .ok false := by
  obtain ⟨hhashed, hmade, hchecked⟩ := verify_outcome
  obtain ⟨hashed, hhash⟩ :=
    (hhashed lightSalt "correct horse battery" validSalt_lightSalt).mpr (by decide)
  obtain ⟨hform, hfits⟩ := hmade _ _ _ hhash
  obtain ⟨fits, hnull, -, hno⟩ := hchecked (.ofString "correct horse battery") .null .null
  rw [hno .null] at hnull
  exact ⟨validSalt_lightSalt, hashed, hhash, hform, hfits, hnull⟩

end FederatedLogin.Password
