import FederatedLogin.Datum
import FederatedLogin.Text.Blank
import FederatedLogin.Text.Case

/-!
# Fields of a validated record

Values of unknown shape become fields of a record one by one. Each reader takes a value or says what
is wrong with it; the faults of a record name the field, and the place inside it, that they are
about. A text stands for a number or a truth value when it spells one.
-/

namespace FederatedLogin

/-- A step of the way from a record to one of its parts. -/
inductive PathStep where
  | name (s : String)
  | index (i : Nat)
  deriving DecidableEq, Repr, Inhabited

/-- What is wrong with a value. -/
inductive Flaw where
  | missing | notText | notUnicode | tooShort (least : Nat) | tooLong (most : Nat)
  | notInteger | unreadableInteger | fractionalInteger | oversizedInteger | infinite
  | notBoolean | unreadableBoolean | notList | notTuple | notOneOf (names : List String)
  | notMember (names : List String) | frozen
  deriving DecidableEq, Repr, Inhabited

/-- A list of quoted names, the last one after "or". -/
def alternatives (names : List String) : String :=
  match names.reverse with
  | [] => ""
  | [n] => s!"'{n}'"
  | last :: rest =>
    String.intercalate ", " (rest.reverse.map fun n => s!"'{n}'") ++ s!" or '{last}'"

/-- The kind of a flaw. -/
def Flaw.kind : Flaw → String
  | missing => "missing"
  | notText => "string_type"
  | notUnicode => "string_unicode"
  | tooShort _ => "string_too_short"
  | tooLong _ => "string_too_long"
  | notInteger => "int_type"
  | unreadableInteger => "int_parsing"
  | fractionalInteger => "int_from_float"
  | oversizedInteger => "int_parsing_size"
  | infinite => "finite_number"
  | notBoolean => "bool_type"
  | unreadableBoolean => "bool_parsing"
  | notList => "list_type"
  | notTuple => "tuple_type"
  | notOneOf _ => "literal_error"
  | notMember _ => "enum"
  | frozen => "frozen_instance"

/-- A count of characters. -/
private def characters (n : Nat) : String := if n = 1 then "1 character" else s!"{n} characters"

/-- The wording of a flaw. -/
def Flaw.message : Flaw → String
  | missing => "Field required"
  | notText => "Input should be a valid string"
  | notUnicode =>
    "Input should be a valid string, unable to parse raw data as a unicode string"
  | tooShort n => s!"String should have at least {characters n}"
  | tooLong n => s!"String should have at most {characters n}"
  | notInteger => "Input should be a valid integer"
  | unreadableInteger => "Input should be a valid integer, unable to parse string as an integer"
  | fractionalInteger => "Input should be a valid integer, got a number with a fractional part"
  | oversizedInteger => "Unable to parse input string as an integer, exceeded maximum size"
  | infinite => "Input should be a finite number"
  | notBoolean => "Input should be a valid boolean"
  | unreadableBoolean => "Input should be a valid boolean, unable to interpret input"
  | notList => "Input should be a valid list"
  | notTuple => "Input should be a valid tuple"
  | notOneOf names => s!"Input should be {alternatives names}"
  | notMember names => s!"Input should be {alternatives names}"
  | frozen => "Instance is frozen"

/-- A flaw at a place of a record. -/
structure FieldFault where
  path : List PathStep
  flaw : Flaw
  deriving DecidableEq, Repr, Inhabited

namespace Field

/-- What a field reader gives. -/
abbrev Checked (α : Type) := Except (List FieldFault) α

/-- A flaw of the value itself. -/
def flawed {α : Type} (f : Flaw) : Checked α := .error [⟨[], f⟩]

/-- Put a step in front of the paths of the faults. -/
def within {α : Type} (step : PathStep) (c : Checked α) : Checked α :=
  c.mapError fun faults => faults.map fun f => { f with path := step :: f.path }

/-- A string: a text without lone surrogates, or bytes that are UTF-8. -/
def string : Datum → Checked String
  | .text t =>
    match t.toString? with
    | some s => .ok s
    | none => flawed .notUnicode
  | .bytes bs =>
    match String.fromUTF8? ⟨bs.toArray⟩ with
    | some s => .ok s
    | none => flawed .notUnicode
  | _ => flawed .notText

/-- A string or null. -/
def string? : Datum → Checked (Option String)
  | .null => .ok none
  | d => (string d).map some

/-- Read the items of a list one by one, collecting every fault. -/
def itemsFrom {α : Type} (item : Datum → Checked α) : Nat → List Datum → Checked (List α)
  | _, [] => .ok []
  | i, d :: rest =>
    match within (.index i) (item d), itemsFrom item (i + 1) rest with
    | .ok a, .ok as => .ok (a :: as)
    | .error e, .ok _ => .error e
    | .ok _, .error e => .error e
    | .error e, .error e' => .error (e ++ e')

/-- A list of strings; `flaw` is what is wrong with a value that is no list. -/
def strings (flaw : Flaw) : Datum → Checked (List String)
  | .list ds => itemsFrom string 0 ds
  | _ => flawed flaw

/-- Underscores stand alone, and not at the end. -/
private def singleUnderscores : List Char → Bool
  | [] => true
  | ['_'] => false
  | '_' :: '_' :: _ => false
  | _ :: rest => singleUnderscores rest

/-- The number that digits spell; only zero itself begins with a zero. -/
private def digitsValue? : List Char → Option Nat
  | [] => none
  | '0' :: _ :: _ => none
  | ds =>
    if ds.all Char.isDigit then some (ds.foldl (fun n c => n * 10 + (c.toNat - 48)) 0) else none

/-- The number that digits spell, with single underscores between them and a fraction of zeros. -/
private def wholeNumber? (s : List Char) : Option Nat :=
  let (front, fraction) := s.span (· ≠ '.')
  if (fraction.drop 1).all (· = '0') && singleUnderscores front then
    digitsValue? (front.filter (· ≠ '_'))
  else none

/-- Drop zeros and underscores in front of a number; what stands before the end or a point stays.
The first argument is the one dropped last. -/
private def dropZeros (last : Char) : List Char → List Char
  | [] => [last]
  | '.' :: rest => last :: '.' :: rest
  | c :: rest => if c = '0' || c = '_' then dropZeros c rest else c :: rest

/-- The number that a text without a sign spells: it may begin with zeros. -/
private def unsignedNumber? : List Char → Option Nat
  | '_' :: _ => none
  | '0' :: rest => wholeNumber? (dropZeros '0' rest)
  | s => wholeNumber? s

/-- The whole number that a text spells: digits after an optional sign, single underscores allowed
between digits, and a fraction of zeros allowed after them. No zeros begin a negative number. -/
def spelledInteger? : List Char → Option Int
  | '-' :: rest => (wholeNumber? rest).map fun n => -(n : Int)
  | '+' :: rest => (unsignedNumber? rest).map Int.ofNat
  | s => (unsignedNumber? s).map Int.ofNat

/-- The whole number that a text spells, blanks around it aside. -/
def integerText (s : String) : Checked Int :=
  let body := Text.stripBy Text.isBlank s.toList
  if 4300 < (String.ofList body).utf8ByteSize then flawed .oversizedInteger
  else
    match spelledInteger? body with
    | some n => .ok n
    | none => flawed .unreadableInteger

/-- A whole number: also a truth value, a double without a fraction, and a text that spells one. -/
def integer : Datum → Checked Int
  | .int n => .ok n
  | .bool b => .ok (if b then 1 else 0)
  | .float x =>
    match x with
    | .finite _ _ _ =>
      match x.whole? with
      | some n => if n.natAbs < Nat.pow 2 63 then .ok n else flawed .oversizedInteger
      | none => flawed .fractionalInteger
    | _ => flawed .infinite
  | .text t =>
    match t.toString? with
    | some s => integerText s
    | none => flawed .unreadableInteger
  | .bytes bs =>
    match String.fromUTF8? ⟨bs.toArray⟩ with
    | some s => integerText s
    | none => flawed .unreadableInteger
  | _ => flawed .notInteger

/-- The truth value that a word spells, in any case of letters. -/
def spelledBoolean? (s : String) : Option Bool :=
  let w := Text.asciiLower s
  if ["1", "on", "t", "true", "y", "yes"].contains w then some true
  else if ["0", "off", "f", "false", "n", "no"].contains w then some false
  else none

/-- The truth value that zero or one stands for; a number beyond 64 bits is not even looked at. -/
def booleanOfInteger (n : Int) : Checked Bool :=
  if n = 0 then .ok false
  else if n = 1 then .ok true
  else if -0x8000000000000000 ≤ n ∧ n < 0x8000000000000000 then flawed .unreadableBoolean
  else flawed .notBoolean

/-- The truth value that a string spells. -/
def booleanText (s : Option String) : Checked Bool :=
  match s.bind spelledBoolean? with
  | some b => .ok b
  | none => flawed .unreadableBoolean

/-- A truth value: also zero, one, and a word that spells one. -/
def boolean : Datum → Checked Bool
  | .bool b => .ok b
  | .int n => booleanOfInteger n
  | .float x =>
    match x.whole? with
    | some n => if n.natAbs < Nat.pow 2 63 then booleanOfInteger n else flawed .notBoolean
    | none => flawed .notBoolean
  | .text t => booleanText t.toString?
  | .bytes bs => booleanText (String.fromUTF8? ⟨bs.toArray⟩)
  | _ => flawed .notBoolean

/-- Read a field of a record; `absent` is what a missing field gives. -/
def read {α : Type} (entries : List (Text × Datum)) (name : String) (absent : Checked α)
    (reader : Datum → Checked α) : Checked α :=
  within (.name name) <|
    match Datum.lookup (Text.ofString name) entries with
    | some d => reader d
    | none => absent

/-- Apply a function whose faults come first to an argument, keeping the faults of both. -/
def both {α β : Type} (f : Checked (α → β)) (a : Checked α) : Checked β :=
  match f, a with
  | .ok f, .ok a => .ok (f a)
  | .error e, .ok _ => .error e
  | .ok _, .error e => .error e
  | .error e, .error e' => .error (e ++ e')

end Field

end FederatedLogin
