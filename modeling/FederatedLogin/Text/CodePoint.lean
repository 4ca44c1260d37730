/-!
# Text with lone surrogates

An escape in a JSON text can name half of a surrogate pair, which no `Char` is. `CodePoint` adds
these halves to the characters, and a `Text` is a list of code points. `Text.toString?` reads a
text as a `String` when it has no lone half, and is the left inverse of `Text.ofString`.
-/

namespace FederatedLogin

/-- A character, or one half of a surrogate pair that stands alone (`U+D800` plus the offset). -/
inductive CodePoint where
  | char (c : Char)
  | surrogate (offset : Fin 2048)
  deriving DecidableEq, Repr, Inhabited

namespace CodePoint

/-- The number of the code point. -/
def toNat : CodePoint → Nat
  | char c => c.toNat
  | surrogate k => 0xD800 + k

/-- The code point with a number below `0x110000`; any other number gives `U+0000`. -/
def ofNat (n : Nat) : CodePoint :=
  if h : 0xD800 ≤ n ∧ n < 0xE000 then surrogate ⟨n - 0xD800, by omega⟩ else char (Char.ofNat n)

/-- The character, unless this is a lone half. -/
def toChar? : CodePoint → Option Char
  | char c => some c
  | surrogate _ => none

end CodePoint

/-- A text in which halves of surrogate pairs may stand alone. -/
abbrev Text := List CodePoint

namespace Text

/-- A string as a text. -/
def ofString (s : String) : Text := s.toList.map .char

/-- The characters of a text without lone halves. -/
def chars? (t : Text) : Option (List Char) := t.mapM CodePoint.toChar?

/-- The string with these code points, if none is a lone half. -/
def toString? (t : Text) : Option String := (chars? t).map String.ofList

/-- Texts are ordered by the numbers of their code points. -/
def le : Text → Text → Bool
  | [], _ => true
  | _ :: _, [] => false
  | a :: s, b :: t =>
    if a.toNat < b.toNat then true else if b.toNat < a.toNat then false else le s t

theorem chars?_map_char (s : List Char) : chars? (s.map .char) = some s := by
  induction s with
  | nil => rfl
  | cons c s ih => simp_all [chars?, CodePoint.toChar?]

@[simp] theorem toString?_ofString (s : String) : toString? (ofString s) = some s := by
  simp [toString?, ofString, chars?_map_char]

theorem ofString_inj {s t : String} : ofString s = ofString t ↔ s = t := by
  refine ⟨fun h => ?_, congrArg _⟩
  have hs := toString?_ofString s
  rw [h, toString?_ofString] at hs
  exact (Option.some.inj hs).symm

theorem eq_map_char_of_chars? {t : Text} {s : List Char} (h : chars? t = some s) :
    t = s.map .char := by
  induction t generalizing s with
  | nil => simp_all [chars?]
  | cons p t ih =>
    cases p with
    | surrogate k => simp [chars?, CodePoint.toChar?] at h
    | char c =>
      obtain ⟨s', hs, hcons⟩ : ∃ s', chars? t = some s' ∧ some (c :: s') = some s := by
        simpa [chars?, CodePoint.toChar?, Option.bind_eq_some_iff] using h
      obtain rfl := Option.some.inj hcons
      rw [List.map_cons, ← ih hs]

theorem toString?_eq_some {t : Text} {s : String} : toString? t = some s ↔ t = ofString s := by
  refine ⟨fun h => ?_, fun h => h ▸ toString?_ofString s⟩
  obtain ⟨cs, hcs, rfl⟩ := Option.map_eq_some_iff.mp h
  rw [ofString, String.toList_ofList]
  exact eq_map_char_of_chars? hcs

end Text

end FederatedLogin
