import FederatedLogin.Datum
import FederatedLogin.Text.Digit

/-!
# Reading JSON

The reader takes the usual grammar with three more literals, `NaN`, `Infinity` and `-Infinity`, and
lets halves of surrogate pairs stand alone in a string. A fault carries the place where reading
stopped. Two limits are faults of their own: a whole number may have 4300 digits, and lists and
objects may nest 990 deep. A key that comes twice keeps its first place and its last value.
-/

namespace FederatedLogin.Json

/-- What is wrong with a text that is not JSON. -/
inductive Complaint where
  | expectingValue | extraData | unterminatedString | controlCharacter | badEscape
  | badUnicodeEscape | expectingColon | expectingComma | expectingKey | byteOrderMark
  deriving DecidableEq, Repr, Inhabited

/-- The wording of a complaint. -/
def Complaint.message : Complaint → String
  | expectingValue => "Expecting value"
  | extraData => "Extra data"
  | unterminatedString => "Unterminated string starting at"
  | controlCharacter => "Invalid control character at"
  | badEscape => "Invalid \\escape"
  | badUnicodeEscape => "Invalid \\uXXXX escape"
  | expectingColon => "Expecting ':' delimiter"
  | expectingComma => "Expecting ',' delimiter"
  | expectingKey => "Expecting property name enclosed in double quotes"
  | byteOrderMark => "Unexpected UTF-8 BOM (decode using utf-8-sig)"

/-- A limit of the reader that a text goes beyond. -/
inductive Limit where
  | hugeInteger (digits : Nat)
  | tooDeep
  deriving DecidableEq, Repr, Inhabited

/-- Why a text could not be read. -/
inductive Fault where
  | malformed (complaint : Complaint) (line column : Nat)
  | beyond (limit : Limit)
  deriving DecidableEq, Repr, Inhabited

/-- A fault inside the reader: a complaint stands at the first character of `rest`. -/
inductive Stop where
  | complaint (c : Complaint) (rest : List Char)
  | beyond (limit : Limit)

/-- The most digits that a whole number may have. -/
def maxDigits : Nat := 4300

/-- How deep lists and objects may nest. -/
def maxDepth : Nat := 990

/-- The characters that may stand between the parts of a JSON text. -/
def isPadding (c : Char) : Bool := c = ' ' || c = '\t' || c = '\n' || c = '\r'

/-- Skip padding. -/
def skip (s : List Char) : List Char := s.dropWhile isPadding

/-- The value of a hexadecimal digit. -/
def hexValue? (c : Char) : Option Nat :=
  if '0' ≤ c ∧ c ≤ '9' then some (c.toNat - 48)
  else if 'a' ≤ c ∧ c ≤ 'f' then some (c.toNat - 87)
  else if 'A' ≤ c ∧ c ≤ 'F' then some (c.toNat - 55)
  else none

/-- The value of four hexadecimal digits. -/
def hex4? (a b c d : Char) : Option Nat := do
  let a ← hexValue? a
  let b ← hexValue? b
  let c ← hexValue? c
  let d ← hexValue? d
  return ((a * 16 + b) * 16 + c) * 16 + d

/-- The character that a one-letter escape stands for. -/
def shortEscape? : Char → Option Char
  | '"' => some '"'
  | '\\' => some '\\'
  | '/' => some '/'
  | 'b' => some '\x08'
  | 'f' => some '\x0c'
  | 'n' => some '\n'
  | 'r' => some '\r'
  | 't' => some '\t'
  | _ => none

/-- Join a high half and a low half of a surrogate pair. -/
def joinHalves (high low : Nat) : Nat := 0x10000 + (high - 0xD800) * 0x400 + (low - 0xDC00)

/-- Join every high half with the low half right after it. -/
def joinPairs : Text → Text
  | [] => []
  | p :: rest =>
    match p, joinPairs rest with
    | .surrogate h, .surrogate l :: rest' =>
      if h.val < 0x400 ∧ 0x400 ≤ l.val then .ofNat (joinHalves (0xD800 + h) (0xD800 + l)) :: rest'
      else p :: .surrogate l :: rest'
    | _, rest' => p :: rest'

/-- Read the inside of a string up to its closing quote. `opening` is the text from the opening
quote on, and `got` holds what was read, last first. -/
def readString (opening : List Char) (got : Text) :
    List Char → Except Stop (Text × List Char)
  | [] => .error (.complaint .unterminatedString opening)
  | '"' :: rest => .ok (joinPairs got.reverse, rest)
  | '\\' :: 'u' :: a :: b :: c :: d :: rest =>
    -- the escape has to have a character after it before its digits are looked at
    match rest.isEmpty, hex4? a b c d with
    | false, some n => readString opening (.ofNat n :: got) rest
    | _, _ => .error (.complaint .badUnicodeEscape ('u' :: a :: b :: c :: d :: rest))
  | '\\' :: 'u' :: rest => .error (.complaint .badUnicodeEscape ('u' :: rest))
  | ['\\'] => .error (.complaint .unterminatedString opening)
  | '\\' :: c :: rest =>
    match shortEscape? c with
    | some x => readString opening (.char x :: got) rest
    | none => .error (.complaint .badEscape ('\\' :: c :: rest))
  | c :: rest =>
    if c.toNat < 32 then .error (.complaint .controlCharacter (c :: rest))
    else readString opening (.char c :: got) rest

/-- The digits at the front, and the rest. -/
def digits (s : List Char) : List Char × List Char := s.span Char.isDigit

/-- The number that decimal digits write. -/
def ofDigits (ds : List Char) : Nat := ds.foldl (fun n c => n * 10 + (c.toNat - 48)) 0

/-- The fraction at the front: a point with at least one digit after it. -/
def readFraction : List Char → List Char × List Char
  | '.' :: rest =>
    match digits rest with
    | ([], _) => ([], '.' :: rest)
    | (ds, rest') => (ds, rest')
  | s => ([], s)

/-- The exponent at the front, if there is one. -/
def readExponent (s : List Char) : Option Int × List Char :=
  match s with
  | [] => (none, s)
  | e :: rest =>
    if e = 'e' ∨ e = 'E' then
      let (negative, body) := match rest with
        | '-' :: r => (true, r)
        | '+' :: r => (false, r)
        | r => (false, r)
      match digits body with
      | ([], _) => (none, s)
      | (ds, rest') =>
        let n : Int := ofDigits ds
        (some (if negative then -n else n), rest')
    else (none, s)

/-- Read a number after its sign. `whole` is the text from the sign on. -/
def readNumber (whole : List Char) (negative : Bool) (s : List Char) :
    Except Stop (Datum × List Char) :=
  let number (front rest : List Char) : Except Stop (Datum × List Char) :=
    let (fraction, rest) := readFraction rest
    let (exponent, rest) := readExponent rest
    if fraction.isEmpty && exponent.isNone then
      if maxDigits < front.length then .error (.beyond (.hugeInteger front.length))
      else
        let n : Int := ofDigits front
        .ok (.int (if negative then -n else n), rest)
    else
      let place := exponent.getD 0 - fraction.length
      .ok (.float (Binary64.ofDecimal negative (ofDigits (front ++ fraction)) place), rest)
  match s with
  | '0' :: rest => number ['0'] rest
  | _ =>
    match digits s with
    | ([], _) => .error (.complaint .expectingValue whole)
    | (front, rest) => number front rest

/-- Read a literal or a number. -/
def readScalar (s : List Char) : Except Stop (Datum × List Char) :=
  match s with
  | 'n' :: 'u' :: 'l' :: 'l' :: rest => .ok (.null, rest)
  | 't' :: 'r' :: 'u' :: 'e' :: rest => .ok (.bool true, rest)
  | 'f' :: 'a' :: 'l' :: 's' :: 'e' :: rest => .ok (.bool false, rest)
  | 'N' :: 'a' :: 'N' :: rest => .ok (.float .nan, rest)
  | 'I' :: 'n' :: 'f' :: 'i' :: 'n' :: 'i' :: 't' :: 'y' :: rest =>
    .ok (.float (.infinity false), rest)
  | '-' :: 'I' :: 'n' :: 'f' :: 'i' :: 'n' :: 'i' :: 't' :: 'y' :: rest =>
    .ok (.float (.infinity true), rest)
  | '-' :: rest => readNumber s true rest
  | _ => readNumber s false s

mutual

/-- Read one value; `depth` more levels may be opened. -/
def readValue : Nat → Nat → List Char → Except Stop (Datum × List Char)
  | 0, _, s => .error (.complaint .expectingValue s)
  | fuel + 1, depth, s =>
    match s with
    | [] => .error (.complaint .expectingValue [])
    | '"' :: rest => do
      let (t, rest) ← readString s [] rest
      return (.text t, rest)
    | '[' :: rest =>
      match depth with
      | 0 => .error (.beyond .tooDeep)
      | depth + 1 =>
        match skip rest with
        | ']' :: rest => .ok (.list [], rest)
        | s => do
          let (items, rest) ← readItems fuel depth [] s
          return (.list items, rest)
    | '{' :: rest =>
      match depth with
      | 0 => .error (.beyond .tooDeep)
      | depth + 1 =>
        match skip rest with
        | '}' :: rest => .ok (.record [], rest)
        | s => do
          let (entries, rest) ← readEntries fuel depth [] s
          return (.record entries, rest)
    | _ => readScalar s

/-- Read the items of a list up to its bracket; `got` holds those read, last first. -/
def readItems : Nat → Nat → List Datum → List Char → Except Stop (List Datum × List Char)
  | 0, _, _, s => .error (.complaint .expectingValue s)
  | fuel + 1, depth, got, s => do
    let (d, rest) ← readValue fuel depth s
    match skip rest with
    | ']' :: rest => .ok ((d :: got).reverse, rest)
    | ',' :: rest => readItems fuel depth (d :: got) (skip rest)
    | rest => .error (.complaint .expectingComma rest)

/-- Read the entries of an object up to its brace. -/
def readEntries : Nat → Nat → List (Text × Datum) → List Char →
    Except Stop (List (Text × Datum) × List Char)
  | 0, _, _, s => .error (.complaint .expectingKey s)
  | fuel + 1, depth, got, s =>
    match s with
    | '"' :: rest => do
      let (key, rest) ← readString s [] rest
      match skip rest with
      | ':' :: rest =>
        let (d, rest) ← readValue fuel depth (skip rest)
        let got := Datum.insert key d got
        match skip rest with
        | '}' :: rest => .ok (got, rest)
        | ',' :: rest => readEntries fuel depth got (skip rest)
        | rest => .error (.complaint .expectingComma rest)
      | rest => .error (.complaint .expectingColon rest)
    | _ => .error (.complaint .expectingKey s)

end

/-- The line and the column, from one, of the place that `before` leads up to. -/
def position (before : List Char) : Nat × Nat :=
  (before.count '\n' + 1, (before.reverse.takeWhile (· ≠ '\n')).length + 1)

/-- A fault with its place in the text. -/
def Stop.locate (whole : List Char) : Stop → Fault
  | .complaint c rest =>
    let p := position (whole.take (whole.length - rest.length))
    .malformed c p.1 p.2
  | .beyond limit => .beyond limit

/-- Read a JSON text. -/
def read (s : List Char) : Except Fault Datum :=
  match s with
  | '\ufeff' :: _ => .error (.malformed .byteOrderMark 1 1)
  | _ =>
    -- no two steps in a row leave the text as it is, so this fuel is never used up
    match readValue (2 * s.length + 2) maxDepth (skip s) with
    | .error stop => .error (stop.locate s)
    | .ok (d, rest) =>
      match skip rest with
      | [] => .ok d
      | rest => .error ((Stop.complaint .extraData rest).locate s)

/-- Read a JSON text given as a string. -/
def readText (s : String) : Except Fault Datum := read s.toList

/-- The wording of a limit. -/
def Limit.message : Limit → String
  | hugeInteger n =>
    s!"Exceeds the limit ({maxDigits} digits) for integer string conversion: " ++
      s!"value has {n} digits; " ++
      "use sys.set_int_max_str_digits() to increase the limit"
  | tooDeep => "maximum recursion depth exceeded"

/-- The wording of a complaint with its place. -/
def placed (c : Complaint) (line column : Nat) : String :=
  s!"{c.message} (line {line}, column {column})"

end FederatedLogin.Json
