import FederatedLogin.Service.Context
import FederatedLogin.Terminal.Table

/-!
# Printing

A command prints lines and ends with an exit code, or with a crash: a failure that it does not
foresee. Lines printed before a crash stay printed. What is printed at once is encoded at once, so a
lone surrogate in it keeps all of it from being printed.
-/

namespace FederatedLogin.Command

open FederatedLogin.Terminal

/-- A failure that a command does not foresee. -/
inductive Crash where
  | markup (f : MarkupFault)
  /-- A run of lone surrogates cannot be encoded. -/
  | notEncodable (first : CodePoint) (position count : Nat)
  /-- Something without fields is asked for a field. -/
  | noFields (typeName : String)
  /-- A part of the user's name is no text. -/
  | nameNotText (index : Nat) (typeName : String)
  | userMissing
  /-- The user is looked for in something without keys. -/
  | noKeys (d : Datum)
  | settings (e : Settings.LoadError)
  | mapping (limit : Json.Limit)
  | store (fault : Store.Fault)
  | service (e : Service.Unhandled)

namespace Crash

/-- What a value without keys is told. -/
def noKeysMessage : Datum → String
  | .text _ => "string indices must be integers, not 'str'"
  | .list _ => "list indices must be integers or slices, not str"
  | d => s!"'{d.typeName}' object is not subscriptable"

/-- The wording of a crash in printing or in reading an answer. -/
def message : Crash → Text
  | markup f => f.message
  | notEncodable first position count =>
    let last := position + count - 1
    let which :=
      if count = 1 then s!"character {Text.quoted [first]} in position {position}"
      else s!"characters in position {position}-{last}"
    Text.ofString (s!"'utf-8' codec can't encode {which}: surrogates not allowed\n" ++
      "*** You may need to add PYTHONIOENCODING=utf-8 to your environment ***")
  | noFields typeName => Text.ofString s!"'{typeName}' object has no attribute 'get'"
  | nameNotText index typeName =>
    Text.ofString s!"sequence item {index}: expected str instance, {typeName} found"
  | userMissing => Text.ofString "'user'"
  | noKeys d => Text.ofString (noKeysMessage d)
  | _ => []

end Crash

/-- The lines printed so far, and a crash or a result. -/
abbrev Printing (α : Type) := ExceptT Crash (StateM (List String)) α

namespace Printing

variable {α : Type}

/-- Crash. -/
def crash (c : Crash) : Printing α := ExceptT.mk (pure (.error c))

/-- Crash, or go on with a value. -/
def of {ε : Type} (f : ε → Crash) : Except ε α → Printing α
  | .ok a => pure a
  | .error e => crash (f e)

/-- Print lines as they are. -/
def lines (l : List String) : Printing Unit := modify (· ++ l)

/-- The code point is a lone surrogate. -/
def isSurrogate : CodePoint → Bool
  | .surrogate _ => true
  | .char _ => false

/-- What keeps lines from being encoded. -/
def encodingCrash? (l : List Text) : Option Crash :=
  let whole := l.flatMap (· ++ [.char '\n'])
  let clean := whole.takeWhile (!isSurrogate ·)
  match whole.drop clean.length with
  | [] => none
  | p :: rest => some (.notEncodable p clean.length ((p :: rest).takeWhile isSurrogate).length)

/-- Print the lines that some markup makes. -/
def say (l : Except MarkupFault (List Text)) : Printing Unit := do
  let l ← of .markup l
  match encodingCrash? l with
  | some c => crash c
  | none => lines (l.map fun t => (Text.toString? t).getD "")

/-- The lines that are printed, and a crash or a result. -/
def run (p : Printing α) : Except Crash α × List String := (ExceptT.run p).run []

end Printing

end FederatedLogin.Command
