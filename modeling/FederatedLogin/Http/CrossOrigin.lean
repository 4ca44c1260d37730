import FederatedLogin.Http.Message

/-!
# Requests from other origins

A browser asks before it sends some requests to another origin, and shows an answer to a page only
if the page's origin is allowed. Every origin is allowed if `*` is among the configured ones.
Answers allow credentials, so they name the origin itself.
-/

namespace FederatedLogin.Http.CrossOrigin

/-- The methods that pages of other origins may use. -/
def methods : List String := ["DELETE", "GET", "HEAD", "OPTIONS", "PATCH", "POST", "PUT", "QUERY"]

/-- An origin is allowed. -/
def allowed (origins : List String) (origin : String) : Bool :=
  origins.contains "*" || origins.contains origin

/-- The headers that tell a browser whether the page may see the answer. -/
def access (origins : List String) (origin : String) : List (String × String) :=
  ("access-control-allow-credentials", "true") ::
    if allowed origins origin then [("access-control-allow-origin", origin)] else []

/-- The answer to a browser that asks before it sends a request. -/
def preflight (origins : List String) (r : Request) (origin method : String) : Response :=
  let asked := r.header? "access-control-request-headers"
  let failures :=
    (if allowed origins origin then [] else ["origin"]) ++
    (if methods.contains method then [] else ["method"]) ++
    (if (r.header? "access-control-request-private-network").isSome then ["private-network"]
      else [])
  let headers := access origins origin ++
    (asked.toList.map fun h => ("access-control-allow-headers", h)) ++
    [("access-control-allow-methods", String.intercalate ", " methods),
      ("access-control-max-age", "600"),
      ("vary", "Origin, Access-Control-Request-Method, Access-Control-Request-Headers, " ++
        "Access-Control-Request-Private-Network")]
  if failures.isEmpty then ⟨200, headers, .text "OK"⟩
  else ⟨400, headers, .text ("Disallowed CORS " ++ String.intercalate ", " failures)⟩

/-- The answer to a request that is such a question. -/
def preflight? (origins : List String) (r : Request) : Option Response :=
  match r.method, r.header? "origin", r.header? "access-control-request-method" with
  | "OPTIONS", some origin, some method => some (preflight origins r origin method)
  | _, _, _ => none

/-- Add to an answer what a browser needs to know. -/
def mark (origins : List String) (r : Request) (a : Response) : Response :=
  let added := match r.header? "origin" with
    | some origin => access origins origin
    | none => []
  { a with headers := a.headers ++ added ++ [("vary", "Origin")] }

end FederatedLogin.Http.CrossOrigin
