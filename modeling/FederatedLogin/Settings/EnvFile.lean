import FederatedLogin.Text.Blank

/-!
# Environment files

A file of `NAME=value` lines. Names may follow the word `export` and may stand in single quotes;
values may be bare, up to a blank and a `#`, or stand in single or double quotes and then go over
several lines and use escapes. A line that does not fit is skipped. After reading, `${NAME}` and
`${NAME:-default}` in values are replaced by the names defined above or in the environment.
-/

namespace FederatedLogin.EnvFile

open FederatedLogin.Text

/-- A name with its value, or with none when no `=` follows it. -/
abbrev Binding := String × Option String

/-- Spacing within a line. -/
def isInlineSpacing (c : Char) : Bool := isSpacing c && c ≠ '\r' && c ≠ '\n'

/-- Drop spacing within the line. -/
def skipInline (s : List Char) : List Char := s.dropWhile isInlineSpacing

/-- Line ends written as one line feed, and no byte order mark in front. -/
def normalized : List Char → List Char
  | '\ufeff' :: s => unify s
  | s => unify s
where
  /-- Write each line end as one line feed. -/
  unify : List Char → List Char
    | [] => []
    | '\r' :: '\n' :: rest => '\n' :: unify rest
    | '\r' :: rest => '\n' :: unify rest
    | c :: rest => c :: unify rest

/-- The text inside quotes and what follows the closing one. A quote after a backslash is part of
the text; but if no other quote follows, the last such quote closes it. `last` is that way out, and
`escaped` says that a backslash stands in front. -/
def quotedSpan (q : Char) (got : List Char) (escaped : Bool)
    (last : Option (List Char × List Char)) : List Char → Option (List Char × List Char)
  | [] => last
  | c :: rest =>
    if c = q then
      if escaped then quotedSpan q (q :: got) false (some (got.reverse, rest)) rest
      else some (got.reverse, rest)
    else quotedSpan q (c :: got) (c = '\\') last rest

/-- Replace each escape that the table knows. -/
def unescape (table : List (Char × Char)) : List Char → List Char
  | '\\' :: c :: rest =>
    match table.find? (·.1 == c) with
    | some e => e.2 :: unescape table rest
    | none => '\\' :: unescape table (c :: rest)
  | c :: rest => c :: unescape table rest
  | [] => []

/-- The escapes between double quotes. -/
def doubleEscapes : List (Char × Char) :=
  [('\\', '\\'), ('\'', '\''), ('"', '"'), ('a', '\x07'), ('b', '\x08'), ('f', '\x0c'),
    ('n', '\n'), ('r', '\r'), ('t', '\t'), ('v', '\x0b')]

/-- The escapes between single quotes. -/
def singleEscapes : List (Char × Char) := [('\\', '\\'), ('\'', '\'')]

/-- Cut a bare value where spacing and a `#` begin a comment. -/
def cutComment : List Char → List Char
  | [] => []
  | c :: rest =>
    if isSpacing c && (rest.dropWhile isSpacing).head? == some '#' then []
    else c :: cutComment rest

/-- A value, and what follows it on the line. -/
def readValue (s : List Char) : Option (List Char × List Char) :=
  match s with
  | '\'' :: rest =>
    (quotedSpan '\'' [] false none rest).map fun r => (unescape singleEscapes r.1, r.2)
  | '"' :: rest =>
    (quotedSpan '"' [] false none rest).map fun r => (unescape doubleEscapes r.1, r.2)
  | s =>
    let (line, rest) := s.span (· ≠ '\n')
    some (((cutComment line).reverse.dropWhile isSpacing).reverse, rest)

/-- A name, or nothing in front of a comment, and what follows. `none` if the line does not fit. -/
def readName (s : List Char) : Option (Option (List Char) × List Char) :=
  match s with
  | '#' :: _ => some (none, s)
  | '\'' :: rest =>
    match rest.span (· ≠ '\'') with
    | (c :: name, '\'' :: rest) => some (some (c :: name), rest)
    | _ => none
  | s =>
    match s.span fun c => c ≠ '=' && c ≠ '#' && !isSpacing c with
    | ([], _) => none
    | (name, rest) => some (some name, rest)

/-- Drop the word `export` when spacing follows it. -/
def skipExport (s : List Char) : List Char :=
  match s with
  | 'e' :: 'x' :: 'p' :: 'o' :: 'r' :: 't' :: c :: rest =>
    if isInlineSpacing c then skipInline rest else s
  | _ => s

/-- A binding and what follows its line, or where reading stopped. -/
def readBinding (s : List Char) : Except (List Char) (Option Binding × List Char) :=
  let s := skipExport s
  match readName s with
  | none => .error s
  | some (name, rest) =>
    let finish (value : Option (List Char)) (rest : List Char) :
        Except (List Char) (Option Binding × List Char) :=
      let rest := match skipInline rest with
        | '#' :: r => r.dropWhile (· ≠ '\n')
        | r => r
      let bound := name.map fun n => (String.ofList n, value.map String.ofList)
      match rest with
      | [] => .ok (bound, [])
      | '\n' :: r => .ok (bound, r)
      | r => .error r
    match skipInline rest with
    | '=' :: rest =>
      let rest := skipInline rest
      match readValue rest with
      | none => .error rest
      | some (value, rest) => finish (some value) rest
    | rest => finish none rest

/-- Read bindings while the text lasts; each takes at least one character. -/
def readBindings : Nat → List Char → List Binding
  | 0, _ => []
  | fuel + 1, s =>
    match s.dropWhile isSpacing with
    | [] => []
    | s =>
      match readBinding s with
      | .ok (some b, rest) => b :: readBindings fuel rest
      | .ok (none, rest) => readBindings fuel rest
      | .error rest => readBindings fuel ((rest.dropWhile (· ≠ '\n')).drop 1)

/-- Replace references in a value by what `get` knows; an unknown name without a default is
empty. -/
def expand (get : String → Option String) : Nat → List Char → List Char
  | 0, s => s
  | _, [] => []
  | fuel + 1, '$' :: '\x7b' :: rest =>
    let (name, after) := rest.span fun c => c ≠ '\x7d' && c ≠ ':'
    let value (fallback : List Char) : List Char :=
      ((get (String.ofList name)).map String.toList).getD fallback
    match after with
    | '\x7d' :: after => value [] ++ expand get fuel after
    | ':' :: '-' :: after =>
      match after.span (· ≠ '\x7d') with
      | (fallback, '\x7d' :: after) => value fallback ++ expand get fuel after
      | _ => '$' :: expand get fuel ('\x7b' :: rest)
    | _ => '$' :: expand get fuel ('\x7b' :: rest)
  | fuel + 1, c :: rest => c :: expand get fuel rest

/-- Set a name, in its place if it is there, else at the end. -/
def set (name : String) (value : Option String) : List Binding → List Binding
  | [] => [(name, value)]
  | b :: rest => if b.1 = name then (name, value) :: rest else b :: set name value rest

/-- The value of a name among bindings, above those of the environment. -/
def get (bindings : List Binding) (env : List (String × String)) (name : String) :
    Option String :=
  match bindings.find? (·.1 == name) with
  | some b => some (b.2.getD "")
  | none => (env.find? (·.1 == name)).map (·.2)

/-- Read a file: its names in the order of first definition, each with its last value. -/
def read (env : List (String × String)) (source : String) : List Binding :=
  let s := normalized source.toList
  (readBindings (s.length + 1) s).foldl (fun done b =>
    let value := b.2.map fun v =>
      String.ofList (expand (get done env) (v.length + 1) v.toList)
    set b.1 value done) []

example : read [] "A=1 # one\nexport B='x y'\nC=\"${A}\\n\"\nD" =
    [("A", some "1"), ("B", some "x y"), ("C", some "1\n"), ("D", none)] := by decide +kernel

end FederatedLogin.EnvFile
