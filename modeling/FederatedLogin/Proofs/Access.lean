import FederatedLogin.Proofs.Store.Consistency
import FederatedLogin.Proofs.Token.Issued
import FederatedLogin.Proofs.Uuid
import FederatedLogin.Service.Access

/-!
# Getting through with a token

A request `Names` the subject of its token, if the token is accepted and the subject is an
identifier. Its user is the stored one with this identifier (`currentUser_of_names`), and it gets
through if the user is active (`activeUser_of_read`). If the token is rejected, the request is
refused for that reason (`activeUser_of_rejected`).
-/

namespace FederatedLogin.Service.Access

variable {c : Context} {s : Store} {r : Http.Request} {token : String} {id : Uuid}
  {claims : List (Text × Datum)} {u : User}

/-- What stands before a separator is cut off there. -/
theorem span_append_cons {separator : Char} {front back : List Char} (h : separator ∉ front) :
    (front ++ separator :: back).span (· ≠ separator) = (front, separator :: back) := by
  have hfront (c : Char) (hc : c ∈ front) : decide (c ≠ separator) = true :=
    decide_eq_true fun heq => h (heq ▸ hc)
  rw [List.span_eq_takeWhile_dropWhile, List.takeWhile_append_of_pos hfront,
    List.dropWhile_append_of_pos hfront, List.takeWhile_cons_of_neg (by simp),
    List.dropWhile_cons_of_neg (by simp), List.append_nil]

/-- A request has the token that follows the word "bearer", in any case of letters, and one
blank. -/
theorem bearer?_of_header {word : String} (hblank : ' ' ∉ word.toList)
    (hword : Text.lower word = "bearer")
    (h : r.header? "authorization" = some (word ++ " " ++ token)) : bearer? r = some token := by
  have hlist : (word ++ " " ++ token).toList = word.toList ++ ' ' :: token.toList := by
    rw [String.toList_append, String.toList_append, List.append_assoc]
    rfl
  have hspan : (word ++ " " ++ token).toList.span (· ≠ ' ') =
      (word.toList, ' ' :: token.toList) := by rw [hlist, span_append_cons hblank]
  rw [bearer?, h]
  split
  · rename_i hnone
    exact absurd hnone nofun
  · rename_i hempty
    rw [Option.some.inj hempty] at hlist
    simp at hlist
  · rename_i value _ hvalue
    obtain rfl := Option.some.inj hvalue
    simp only [hspan, String.ofList_toList]
    rw [if_pos hword, List.drop_one, List.tail_cons, String.ofList_toList]

/-- Accepted claims name an identifier if their subject is a string that is one. -/
theorem subject?_eq_some_iff :
    subject? claims = some id ↔
      ∃ subject, Token.field? claims "sub" = some (.str subject) ∧
        Uuid.ofText? subject = some id := by
  rw [subject?, Option.bind_eq_some_iff]
  constructor
  · rintro ⟨subject, hsubject, hid⟩
    obtain ⟨d, hd, htext⟩ := Option.bind_eq_some_iff.mp hsubject
    exact ⟨subject, hd.trans (congrArg some (Datum.toString?_eq_some.mp htext)), hid⟩
  · rintro ⟨subject, hsubject, hid⟩
    exact ⟨subject, Option.bind_eq_some_iff.mpr ⟨_, hsubject, Text.toString?_ofString subject⟩, hid⟩

/-- The token of a request is accepted, and its subject is an identifier. -/
inductive Names (c : Context) (r : Http.Request) (id : Uuid) : Prop
  | intro {token subject : String} {claims : List (Text × Datum)} (bearer : bearer? r = some token)
      (accepted : Token.read c.settings c.now token = .ok claims)
      (named : Token.field? claims "sub" = some (.str subject))
      (identifier : Uuid.ofText? subject = some id)

/-- The user of such a request is the stored one with the identifier. -/
theorem currentUser_of_names (h : Names c r id) (store : Option Store) :
    currentUser c store r = match store with
      | none => .error (.failed (.store .noTables))
      | some s => match s.findById id with
        | none => .error (.refused .unknownUser)
        | some u => .ok u := by
  obtain ⟨bearer, accepted, named, identifier⟩ := h
  have hsubject := subject?_eq_some_iff.mpr ⟨_, named, identifier⟩
  rcases store with _ | s
  · simp [currentUser, bearer, userOf, Access.claims, accepted, hsubject, bind, Except.bind]
  · rcases hfound : s.findById id with _ | u <;>
      simp [currentUser, bearer, userOf, Access.claims, accepted, hsubject, hfound, bind,
        Except.bind]

/-- A request gets through with an accepted token of an active user. -/
theorem activeUser_of_read (bearer : bearer? r = some token)
    (accepted : Token.read c.settings c.now token = .ok claims)
    (subject : Token.field? claims "sub" = some (.str id.text)) (found : s.findById id = some u)
    (active : u.isActive = true) : activeUser c (some s) r = .ok u := by
  have names : Names c r id := .intro bearer accepted subject (Uuid.ofText?_text id)
  have huser : currentUser c (some s) r = .ok u := by
    simp only [currentUser_of_names names, found]
  rw [activeUser, huser]
  simp only [bind, Except.bind, active, if_true]
  rfl

/-- A request with a rejected token is refused. -/
theorem activeUser_of_rejected {rejection : Token.Rejection} (bearer : bearer? r = some token)
    (rejected : Token.read c.settings c.now token = .error (.rejected rejection))
    (store : Option Store) : activeUser c store r = .error (.refused (.badToken rejection)) := by
  simp only [activeUser, currentUser, bearer, userOf, Access.claims, rejected, bind, Except.bind]

end FederatedLogin.Service.Access
