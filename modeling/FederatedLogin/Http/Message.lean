import FederatedLogin.Datum
import FederatedLogin.Text.Case
import FederatedLogin.Text.Percent

/-!
# Requests and responses

The parts of a request and a response that the service looks at or sets. Header names are in lower
case. A form is a list of named values, in which a name may come more than once.
-/

namespace FederatedLogin.Http

/-- What a client asks for. -/
structure Request where
  method : String
  /-- The path, without a query. -/
  path : String
  /-- What follows the question mark. -/
  query : String := ""
  headers : List (String × String) := []
  form : List (String × String) := []
  deriving Inhabited

/-- The first value of a header. -/
def Request.header? (r : Request) (name : String) : Option String := r.headers.lookup name

/-- The content of a response. -/
inductive Body where
  | empty
  | text (s : String)
  | json (d : Datum)
  deriving Inhabited

/-- What the service answers. -/
structure Response where
  status : Nat
  headers : List (String × String) := []
  body : Body := .empty
  deriving Inhabited

/-- An answer that says in one sentence why the request is refused. -/
def refusal (status : Nat) (detail : String) (headers : List (String × String)) : Response :=
  ⟨status, headers, .json (.object [("detail", .str detail)])⟩

/-- The header by which a client learns how to authenticate. -/
def challenge : List (String × String) := [("www-authenticate", "Bearer")]

/-- Cut a list at each separator. -/
def parts (sep : Char) (s : List Char) : List (List Char) :=
  s.foldr (fun c acc =>
    if c = sep then [] :: acc
    else match acc with
      | f :: rest => (c :: f) :: rest
      | [] => [[c]]) [[]]

/-- The characters of an encoded form. It should be ASCII; any other byte counts as a character. -/
def formChars (s : String) : List Char := s.toUTF8.toList.map fun b => Char.ofNat b.toNat

/-- Read an encoded form; a name without a value has the empty one. -/
def readForm (s : String) : List (String × String) :=
  ((parts '&' (formChars s)).filter (!·.isEmpty)).map fun p =>
    let (name, value) := p.span (· ≠ '=')
    (Text.queryDecode name, Text.queryDecode (value.drop 1))

/-- Split a target into path and query. -/
def splitTarget (s : String) : String × String :=
  let (path, query) := (s.toList.takeWhile (· ≠ '#')).span (· ≠ '?')
  (Text.percentDecode (String.ofList path), String.ofList (query.drop 1))

/-- The last value of a form field; an empty one counts as none. -/
def Request.field? (r : Request) (name : String) : Option String :=
  ((r.form.reverse.find? (·.1 == name)).map (·.2)).filter (!·.isEmpty)

end FederatedLogin.Http
