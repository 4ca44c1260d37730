import FederatedLogin.Proofs.Json.Limits
import Mathlib.Data.List.Chain

/-!
# Strings in a JSON text

Between its quotes, a string is written piece by piece. Most characters stand for themselves, some
are named by a letter after a backslash, and every code point of the first plane can be written by
its number (`Single`). A code point beyond the first plane is written by the numbers of the two
halves that it has in UTF-16 (`Piece`). So no text that is written like this has a high half with a
low half right after it (`Apart`): the two are always one code point.

The reader collects single pieces first and joins the halves at the end. `readString_eq_ok_iff` says
that this reads exactly the texts in quotes.
-/

namespace FederatedLogin.Json

variable {t us : Text} {p : CodePoint} {s u v rest opening : List Char} {got : Text}

/-! ### The pieces of a string -/

/-- The code point is the first half of a surrogate pair. -/
def isHigh : CodePoint → Bool
  | .surrogate k => k.val < 0x400
  | .char _ => false

/-- The code point is the second half of a surrogate pair. -/
def isLow : CodePoint → Bool
  | .surrogate k => 0x400 ≤ k.val
  | .char _ => false

/-- No high half has a low half right after it. -/
def Apart (t : Text) : Prop := t.IsChain fun p q => ¬(isHigh p = true ∧ isLow q = true)

/-- A code point is written as itself, by the letter that names it, or by its number. -/
inductive Single : CodePoint → List Char → Prop
  | plain {c : Char} (quote : c ≠ '"') (backslash : c ≠ '\\') (printable : 32 ≤ c.toNat) :
      Single (.char c) [c]
  | letter {e c : Char} (means : shortEscape? e = some c) : Single (.char c) ['\\', e]
  | number {a b c d : Char} {n : Nat} (digits : hex4? a b c d = some n) :
      Single (.ofNat n) ['\\', 'u', a, b, c, d]

/-- A code point is written as a single piece, or as the two halves that it has in UTF-16. -/
inductive Piece : CodePoint → List Char → Prop
  | single {p : CodePoint} {u : List Char} (single : Single p u) : Piece p u
  | halves {h l : Fin 2048} {u v : List Char} (high : isHigh (.surrogate h) = true)
      (low : isLow (.surrogate l) = true) (first : Single (.surrogate h) u)
      (second : Single (.surrogate l) v) :
      Piece (.ofNat (joinHalves (0xD800 + h) (0xD800 + l))) (u ++ v)

/-- A text is written as pieces of some kind. -/
inductive Spelled (kind : CodePoint → List Char → Prop) : Text → List Char → Prop
  | nil : Spelled kind [] []
  | cons {p : CodePoint} {t : Text} {u s : List Char} (piece : kind p u)
      (spelled : Spelled kind t s) : Spelled kind (p :: t) (u ++ s)

/-- A text is written in quotes. -/
inductive Quoted : Text → List Char → Prop
  | intro {t : Text} {s : List Char} (apart : Apart t) (spelled : Spelled Piece t s) :
      Quoted t ('"' :: (s ++ ['"']))

/-! ### Joining halves -/

/-- Two halves make a character. -/
theorem exists_ofNat_joinHalves {h l : Fin 2048} (high : isHigh (.surrogate h) = true)
    (low : isLow (.surrogate l) = true) :
    ∃ c, CodePoint.ofNat (joinHalves (0xD800 + h) (0xD800 + l)) = .char c := by
  have hh : h.val < 0x400 := of_decide_eq_true high
  have hl : 0x400 ≤ l.val := of_decide_eq_true low
  have hbig : 0x10000 ≤ joinHalves (0xD800 + h) (0xD800 + l) := by
    unfold joinHalves
    omega
  rw [CodePoint.ofNat, dif_neg (by omega)]
  exact ⟨_, rfl⟩

/-- A half on its own is a single piece. -/
theorem Piece.single_of_surrogate {k : Fin 2048} (h : Piece (.surrogate k) u) :
    Single (.surrogate k) u := by
  generalize hp : CodePoint.surrogate k = p at h
  cases h with
  | single single => exact hp ▸ single
  | halves high low =>
    obtain ⟨c, hc⟩ := exists_ofNat_joinHalves high low
    rw [hc] at hp
    cases hp

/-- Only halves are high or low. -/
theorem exists_halves {p q : CodePoint} (high : isHigh p = true) (low : isLow q = true) :
    ∃ h l, p = .surrogate h ∧ q = .surrogate l := by
  cases p with
  | char => cases high
  | surrogate h =>
    cases q with
    | char => cases low
    | surrogate l => exact ⟨h, l, rfl, rfl⟩

/-- A code point is joined to the one after it, or it stays as it is. -/
theorem joinPairs_cons (p : CodePoint) (us : Text) :
    (∃ h l t, p = .surrogate h ∧ isHigh (.surrogate h) = true ∧ isLow (.surrogate l) = true ∧
        joinPairs us = .surrogate l :: t ∧
        joinPairs (p :: us) = .ofNat (joinHalves (0xD800 + h) (0xD800 + l)) :: t) ∨
      (∀ q ∈ (joinPairs us).head?, ¬(isHigh p = true ∧ isLow q = true)) ∧
        joinPairs (p :: us) = p :: joinPairs us := by
  rw [joinPairs.eq_def (p :: us)]
  dsimp only
  split
  · rename_i h l t hus
    rw [hus]
    split
    · rename_i hjoin
      exact .inl ⟨h, l, t, rfl, decide_eq_true hjoin.1, decide_eq_true hjoin.2, rfl, rfl⟩
    · rename_i hjoin
      refine .inr ⟨?_, rfl⟩
      rintro q hq ⟨high, low⟩
      obtain rfl := Option.some.inj hq
      exact hjoin ⟨of_decide_eq_true high, of_decide_eq_true low⟩
  · rename_i p _ _ hnot
    refine .inr ⟨?_, rfl⟩
    rintro q hq ⟨high, low⟩
    -- Two halves are the case above.
    obtain ⟨h, l, rfl, rfl⟩ := exists_halves high low
    obtain ⟨t, ht⟩ := List.head?_eq_some_iff.mp hq
    exact hnot h l t rfl ht

/-- A code point stays as it is unless it is a high half with a low half after it. -/
theorem joinPairs_cons_of_apart
    (h : ∀ q ∈ (joinPairs us).head?, ¬(isHigh p = true ∧ isLow q = true)) :
    joinPairs (p :: us) = p :: joinPairs us := by
  rcases joinPairs_cons p us with ⟨h', l, t, rfl, high, low, hus, -⟩ | ⟨-, heq⟩
  · rw [hus] at h
    exact absurd ⟨high, low⟩ (h _ rfl)
  · exact heq

/-- Two halves are joined, whatever comes after them. -/
theorem joinPairs_halves {h l : Fin 2048} (high : isHigh (.surrogate h) = true)
    (low : isLow (.surrogate l) = true) (us : Text) :
    joinPairs (.surrogate h :: .surrogate l :: us) =
      .ofNat (joinHalves (0xD800 + h) (0xD800 + l)) :: joinPairs us := by
  have hhigh : h.val < 0x400 := of_decide_eq_true high
  have hlow : 0x400 ≤ l.val := of_decide_eq_true low
  have hsecond : joinPairs (.surrogate l :: us) = .surrogate l :: joinPairs us := by
    refine joinPairs_cons_of_apart fun q _ hjoin => ?_
    have : l.val < 0x400 := of_decide_eq_true hjoin.1
    omega
  rw [joinPairs.eq_def (.surrogate h :: .surrogate l :: us)]
  dsimp only
  rw [hsecond]
  exact if_pos ⟨hhigh, hlow⟩

/-- What single pieces spell, pieces spell once the halves are joined. -/
theorem Spelled.join (h : Spelled Single us u) :
    Spelled Piece (joinPairs us) u ∧ Apart (joinPairs us) := by
  induction h with
  | nil => exact ⟨.nil, .nil⟩
  | @cons p us u s piece _ ih =>
    obtain ⟨spelled, apart⟩ := ih
    rcases joinPairs_cons p us with ⟨h, l, t, rfl, high, low, hus, hjoined⟩ | ⟨hhead, hjoined⟩
    · rw [hus] at spelled apart
      rw [hjoined]
      cases spelled with
      | @cons _ _ v s second spelled =>
        rw [← List.append_assoc]
        obtain ⟨c, hc⟩ := exists_ofNat_joinHalves high low
        refine ⟨.cons (.halves high low piece second.single_of_surrogate) spelled, ?_⟩
        rw [hc]
        exact List.isChain_cons.mpr ⟨fun q _ hq => absurd hq.1 nofun, apart.tail⟩
    · rw [hjoined]
      exact ⟨.cons (.single piece) spelled, List.isChain_cons.mpr ⟨hhead, apart⟩⟩

/-- What pieces spell comes from single pieces whose halves are joined. -/
theorem Spelled.split (h : Spelled Piece t u) (apart : Apart t) :
    ∃ us, Spelled Single us u ∧ joinPairs us = t := by
  induction h with
  | nil => exact ⟨[], .nil, rfl⟩
  | @cons p t u s piece _ ih =>
    obtain ⟨hhead, htail⟩ := List.isChain_cons.mp apart
    obtain ⟨us, spelled, rfl⟩ := ih htail
    cases piece with
    | single single => exact ⟨p :: us, .cons single spelled, joinPairs_cons_of_apart hhead⟩
    | halves high low first second =>
      rw [List.append_assoc]
      exact ⟨_, .cons first (.cons second spelled), joinPairs_halves high low us⟩

/-! ### Reading -/

/-- A character after a backslash stands for another one. -/
theorem readString_letter {e c : Char} (h : shortEscape? e = some c) :
    readString opening got ('\\' :: e :: rest) = readString opening (.char c :: got) rest := by
  have hu : e ≠ 'u' := by
    rintro rfl
    exact absurd h nofun
  rw [readString, h]
  · intro _ _ _ _ _ he
    exact absurd he hu
  · exact hu

/-- Any other character stands for itself. -/
theorem readString_plain {c : Char} (hquote : c ≠ '"') (hbackslash : c ≠ '\\')
    (hc : 32 ≤ c.toNat) :
    readString opening got (c :: rest) = readString opening (.char c :: got) rest := by
  rw [readString, if_neg (Nat.not_lt.mpr hc)]
  all_goals intros; contradiction

/-- A number stands for its code point. -/
theorem readString_number {a b c d : Char} {n : Nat} (h : hex4? a b c d = some n)
    (hrest : rest ≠ []) :
    readString opening got ('\\' :: 'u' :: a :: b :: c :: d :: rest) =
      readString opening (.ofNat n :: got) rest := by
  have hempty : rest.isEmpty = false := by
    rw [List.isEmpty_eq_false_iff]
    exact hrest
  rw [readString, hempty, h]

/-- Single pieces are read one by one, up to the closing quote. -/
theorem Spelled.readString_eq (h : Spelled Single us u) (opening : List Char) (got : Text)
    (rest : List Char) :
    readString opening got (u ++ '"' :: rest) = .ok (joinPairs (got.reverse ++ us), rest) := by
  induction h generalizing got with
  | nil => rw [List.nil_append, readString, List.append_nil]
  | @cons p us u s piece spelled ih =>
    have hstep : readString opening got (u ++ (s ++ '"' :: rest)) =
        readString opening (p :: got) (s ++ '"' :: rest) := by
      cases piece with
      | plain quote backslash printable => exact readString_plain quote backslash printable
      | letter means => exact readString_letter means
      | number digits => exact readString_number digits (by simp)
    rw [List.append_assoc, hstep, ih, List.reverse_cons, List.append_assoc, List.singleton_append]

/-- What is read up to a closing quote is spelled by single pieces, after those that were read
before. -/
def SpelledUpTo (s : List Char) (got t : Text) (rest : List Char) : Prop :=
  ∃ us u, Spelled Single us u ∧ s = u ++ '"' :: rest ∧ t = joinPairs (got.reverse ++ us)

theorem SpelledUpTo.cons (piece : Single p v) (h : SpelledUpTo s (p :: got) t rest) :
    SpelledUpTo (v ++ s) got t rest := by
  obtain ⟨us, u, spelled, rfl, rfl⟩ := h
  refine ⟨p :: us, v ++ u, .cons piece spelled, (List.append_assoc _ _ _).symm, ?_⟩
  rw [List.reverse_cons, List.append_assoc, List.singleton_append]

theorem spelledUpTo_of_readString (h : readString opening got s = .ok (t, rest)) :
    SpelledUpTo s got t rest := by
  fun_induction readString opening got s with
  | case1 | case4 | case5 | case6 | case8 | case9 => cases h
  | case2 =>
    obtain ⟨rfl, rfl⟩ := Prod.mk.inj (Except.ok.inj h)
    exact ⟨[], [], .nil, rfl, by rw [List.append_nil]⟩
  | case3 got a b c d left n hdigits hrest ih => exact (ih h).cons (.number hdigits)
  | case7 got c left _ _ x hx ih => exact (ih h).cons (.letter hx)
  | case10 got c left hquote _ _ hlast hmore hprintable ih =>
    have hbackslash : c ≠ '\\' := by
      intro hc
      rcases left with _ | ⟨e, left⟩
      · exact hlast hc rfl
      · exact hmore e left hc rfl
    exact (ih h).cons (.plain hquote hbackslash (Nat.not_lt.mp hprintable))

/-- A string is read exactly if its text is spelled up to the closing quote. -/
theorem readString_eq_ok_iff :
    readString opening [] s = .ok (t, rest) ↔
      ∃ u, Apart t ∧ Spelled Piece t u ∧ s = u ++ '"' :: rest := by
  constructor
  · intro h
    obtain ⟨us, u, spelled, hs, ht⟩ := spelledUpTo_of_readString h
    obtain ⟨hspelled, apart⟩ := spelled.join
    obtain rfl : t = joinPairs us := ht
    exact ⟨u, apart, hspelled, hs⟩
  · rintro ⟨u, apart, spelled, rfl⟩
    obtain ⟨us, hsingle, rfl⟩ := spelled.split apart
    exact hsingle.readString_eq opening [] rest

end FederatedLogin.Json
