import FederatedLogin.Text.Ranges

/-!
# Blank characters

Two sets of blanks are in use. `isBlank` holds the characters with the Unicode property
`White_Space`; `isSpacing` adds the four information separators U+001C to U+001F. Stripping removes
blanks at both ends and nothing inside.
-/

namespace FederatedLogin.Text

/-- Ranges of the characters with the property `White_Space`. -/
def blankRanges : List (Nat × Nat) :=
  [(9, 13), (32, 32), (133, 133), (160, 160), (5760, 5760), (8192, 8202), (8232, 8233),
    (8239, 8239), (8287, 8287), (12288, 12288)]

/-- The character has the property `White_Space`. -/
def isBlank (c : Char) : Bool := inRanges blankRanges c.toNat

/-- The character is a blank or one of the information separators U+001C to U+001F. -/
def isSpacing (c : Char) : Bool := isBlank c || (28 ≤ c.toNat && c.toNat ≤ 31)

/-- Remove from both ends what the test accepts. -/
def stripBy (p : Char → Bool) (s : List Char) : List Char :=
  ((s.dropWhile p).reverse.dropWhile p).reverse

/-- Remove spacing at both ends. -/
def strip (s : String) : String := String.ofList (stripBy isSpacing s.toList)

/-- Remove blanks at both ends; the information separators stay. -/
def stripBlanks (s : String) : String := String.ofList (stripBy isBlank s.toList)

/-- The text is empty or spacing throughout. -/
def isAllSpacing (s : String) : Bool := s.toList.all isSpacing

/-- Split at spacing, without empty words; `got` is the word at hand, reversed. -/
def wordsFrom (got : List Char) : List Char → List (List Char)
  | [] => if got.isEmpty then [] else [got.reverse]
  | c :: rest =>
    if isSpacing c then if got.isEmpty then wordsFrom [] rest else got.reverse :: wordsFrom [] rest
    else wordsFrom (c :: got) rest

/-- The words of a text. -/
def words (s : List Char) : List (List Char) := wordsFrom [] s

/-- There is no spacing inside a word, nor in the word at hand. -/
theorem isSpacing_of_mem_wordsFrom {got s w : List Char} (hgot : ∀ c ∈ got, isSpacing c = false)
    (hw : w ∈ wordsFrom got s) : ∀ c ∈ w, isSpacing c = false := by
  have hend : ∀ c ∈ got.reverse, isSpacing c = false := fun c hc => hgot c (List.mem_reverse.mp hc)
  induction s generalizing got with
  | nil =>
    rw [wordsFrom] at hw
    split at hw
    · exact absurd hw List.not_mem_nil
    · exact List.mem_singleton.mp hw ▸ hend
  | cons c rest ih =>
    rw [wordsFrom] at hw
    split at hw
    · split at hw
      · exact ih (by simp) hw (by simp)
      · rcases List.mem_cons.mp hw with rfl | hw
        · exact hend
        · exact ih (by simp) hw (by simp)
    · rename_i hc
      have hmore : ∀ c' ∈ c :: got, isSpacing c' = false :=
        List.forall_mem_cons.mpr ⟨Bool.eq_false_iff.mpr hc, hgot⟩
      exact ih hmore hw fun c' hc' => hmore c' (List.mem_reverse.mp hc')

theorem isSpacing_of_isBlank {c : Char} (h : isBlank c = true) : isSpacing c = true := by
  simp [isSpacing, h]

end FederatedLogin.Text
