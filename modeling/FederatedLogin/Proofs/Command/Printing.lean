import FederatedLogin.Command.Printing
import FederatedLogin.Proofs.Terminal.Lines
import Mathlib.Data.List.TakeWhile

/-!
# Running a command step by step

`exec` runs a command from the lines printed so far, and the equations of this module take such a
run apart along the command. A step that prints either adds its lines or crashes and adds nothing:
it adds them exactly if its markup can be read and none of them has a lone surrogate
(`exec_say_ok`, `exec_say_error`).
-/

namespace FederatedLogin.Command.Printing

open FederatedLogin.Terminal

variable {ε α β : Type}

/-- Run a command from the lines printed so far. -/
def exec (p : Printing α) (printed : List String) : Except Crash α × List String :=
  (ExceptT.run p).run printed

theorem run_eq (p : Printing α) : run p = exec p [] := rfl

@[simp]
theorem exec_pure (a : α) (printed : List String) :
    exec (pure a) printed = (.ok a, printed) := rfl

/-- What follows a crash is not run. -/
@[simp]
theorem exec_bind (p : Printing α) (f : α → Printing β) (printed : List String) :
    exec (p >>= f) printed = match exec p printed with
      | (.ok a, printed) => exec (f a) printed
      | (.error c, printed) => (.error c, printed) := by
  simp only [exec, ExceptT.run_bind, StateT.run_bind]
  rcases StateT.run (ExceptT.run p) printed with ⟨r, printed⟩
  cases r <;> rfl

theorem exec_bind_ok {p : Printing α} {a : α} {printed out : List String}
    (h : exec p printed = (.ok a, out)) (f : α → Printing β) :
    exec (p >>= f) printed = exec (f a) out := by
  rw [exec_bind, h]

theorem exec_bind_error {p : Printing α} {c : Crash} {printed out : List String}
    (h : exec p printed = (.error c, out)) (f : α → Printing β) :
    exec (p >>= f) printed = (.error c, out) := by
  rw [exec_bind, h]

@[simp]
theorem exec_crash (c : Crash) (printed : List String) :
    exec (crash c : Printing α) printed = (.error c, printed) := rfl

@[simp]
theorem exec_of (f : ε → Crash) (r : Except ε α) (printed : List String) :
    exec (of f r) printed = (r.mapError f, printed) := by
  cases r <;> rfl

@[simp]
theorem exec_lines (l printed : List String) :
    exec (lines l) printed = (.ok (), printed ++ l) := rfl

/-! ### Lines of markup -/

theorem isSurrogate_eq_false {p : CodePoint} : (!isSurrogate p) = true ↔ ∃ c, p = .char c := by
  cases p <;> simp [isSurrogate]

/-- Lines can be encoded exactly if none of them has a lone surrogate. -/
theorem encodingCrash?_eq_none {l : List Text} : encodingCrash? l = none ↔ ∀ t ∈ l, Whole t := by
  have hlines : Whole (l.flatMap (· ++ [.char '\n'])) ↔ ∀ t ∈ l, Whole t := by
    rw [List.flatMap_def, whole_flatten, List.forall_mem_map]
    exact forall₂_congr fun t _ => whole_append.trans (and_iff_left (whole_map_char ['\n']))
  rw [← hlines, encodingCrash?]
  generalize l.flatMap (· ++ [.char '\n']) = whole
  have hsplit := List.prefix_iff_eq_append.mp (List.takeWhile_prefix (!isSurrogate ·) (l := whole))
  split
  · rename_i hrest
    rw [hrest, List.append_nil] at hsplit
    refine iff_of_true rfl fun p hp => ?_
    rw [← hsplit] at hp
    exact isSurrogate_eq_false.mp (List.all_eq_true.mp List.all_takeWhile p hp)
  · rename_i p rest hrest
    refine iff_of_false nofun fun h => ?_
    have hall : whole.takeWhile (!isSurrogate ·) = whole :=
      List.takeWhile_eq_self_iff.mpr fun p hp => isSurrogate_eq_false.mpr (h p hp)
    rw [hall, List.drop_length] at hrest
    exact absurd hrest nofun

/-- Lines that can be encoded are printed. -/
theorem exec_say_ok {l : Except MarkupFault (List Text)} {ls : List String}
    (h : l = .ok (ls.map Text.ofString)) (printed : List String) :
    exec (say l) printed = (.ok (), printed ++ ls) := by
  have hencoded : encodingCrash? (ls.map Text.ofString) = none :=
    encodingCrash?_eq_none.mpr (forall_whole_iff.mpr ⟨ls, rfl⟩)
  simp [say, h, hencoded, Function.comp_def]

/-- Of anything else nothing is printed. -/
theorem exec_say_error {l : Except MarkupFault (List Text)}
    (h : ∀ ls : List String, l ≠ .ok (ls.map Text.ofString)) :
    ∃ c, ∀ printed, exec (say l) printed = (.error c, printed) := by
  rcases l with f | ts
  · exact ⟨.markup f, fun printed => by simp [say]⟩
  · rcases hcrash : encodingCrash? ts with _ | c
    · obtain ⟨ls, rfl⟩ := forall_whole_iff.mp (encodingCrash?_eq_none.mp hcrash)
      exact absurd rfl (h ls)
    · exact ⟨c, fun printed => by simp [say, hcrash]⟩

end FederatedLogin.Command.Printing
