import FederatedLogin.Log.Line
import Mathlib.Data.List.Forall2

/-!
# Credentials on log lines

The values of the credential fields are masked after the fixed fields have joined the context of a
call and before a line is rendered. Two contexts are the same after masking exactly if they agree
outside the credentials (`maskSecrets_eq_iff`), and the fixed fields change nothing about that
(`maskSecrets_fields`). So two calls that agree outside the credentials write the same line.

Nothing else on a line is touched. A line is put together from the parts that stand for its fields
(`render_eq`), and masking replaces the parts of credential fields, one by one, by the part of the
mask (`parts_maskSecrets`). `written_of_agrees` says both of whole runs of calls, under all
settings.
-/

namespace FederatedLogin.Log

variable {f : Format} {level : Level} {fields fields' : List (Text × Datum)} {key : Text}
  {logger time : Text} {c c' : Call}

/-! ### Fields under their keys -/

/-- A field after masking. -/
def hidden (e : Text × Datum) : Text × Datum := if isSecret e.1 then (e.1, masked) else e

theorem maskSecrets_eq_map (fields : List (Text × Datum)) :
    maskSecrets fields = fields.map hidden := rfl

@[simp]
theorem hidden_fst (e : Text × Datum) : (hidden e).1 = e.1 := by
  rw [hidden]
  split <;> rfl

theorem hidden_of_secret {e : Text × Datum} (h : isSecret e.1 = true) : hidden e = (e.1, masked) :=
  if_pos h

theorem hidden_of_open {e : Text × Datum} (h : isSecret e.1 = false) : hidden e = e :=
  if_neg (Bool.eq_false_iff.mp h)

/-- Two fields have the same key, and the same value unless it is a credential. -/
def SameOutside (e e' : Text × Datum) : Prop :=
  e.1 = e'.1 ∧ (isSecret e.1 = false → e.2 = e'.2)

/-- Hiding makes two fields equal exactly when they agree outside secret values. -/
theorem hidden_eq_iff {e e' : Text × Datum} : hidden e = hidden e' ↔ SameOutside e e' := by
  constructor
  · intro h
    have hkey : e.1 = e'.1 := by rw [← hidden_fst e, h, hidden_fst]
    refine ⟨hkey, fun hopen => ?_⟩
    rw [hidden_of_open hopen, hidden_of_open (hkey ▸ hopen)] at h
    exact congrArg Prod.snd h
  · rintro ⟨hkey, hvalue⟩
    cases hsecret : isSecret e.1
    · rw [hidden_of_open hsecret, hidden_of_open (hkey ▸ hsecret)]
      exact Prod.ext hkey (hvalue hsecret)
    · rw [hidden_of_secret hsecret, hidden_of_secret (hkey ▸ hsecret), hkey]

/-- Contexts are the same after masking exactly if they agree outside the credentials. -/
theorem maskSecrets_eq_iff :
    maskSecrets fields = maskSecrets fields' ↔ List.Forall₂ SameOutside fields fields' := by
  rw [maskSecrets_eq_map, maskSecrets_eq_map, ← List.forall₂_eq_eq_eq, List.forall₂_map_left_iff,
    List.forall₂_map_right_iff]
  exact ⟨fun h => h.imp fun _ _ => hidden_eq_iff.mp, fun h => h.imp fun _ _ => hidden_eq_iff.mpr⟩

/-- Masking does not look at the values under other keys. -/
theorem lookup_maskSecrets (hopen : isSecret key = false) (fields : List (Text × Datum)) :
    Datum.lookup key (maskSecrets fields) = Datum.lookup key fields := by
  rw [maskSecrets_eq_map]
  induction fields with
  | nil => rfl
  | cons e fields ih =>
    rw [Datum.lookup, Datum.lookup] at ih ⊢
    rw [List.map_cons, List.find?_cons, List.find?_cons, hidden_fst]
    by_cases hkey : e.1 = key
    · rw [hidden_of_open (hkey ▸ hopen)]
      simp [hkey]
    · rw [beq_eq_false_iff_ne.mpr hkey]
      exact ih

/-- A field that is no secret may be put in before the masking or after it. -/
theorem maskSecrets_insert (hopen : isSecret key = false) (d : Datum)
    (fields : List (Text × Datum)) :
    maskSecrets (Datum.insert key d fields) = Datum.insert key d (maskSecrets fields) := by
  have hput : hidden (key, d) = (key, d) := hidden_of_open hopen
  rw [maskSecrets_eq_map, maskSecrets_eq_map]
  induction fields with
  | nil => rw [Datum.insert, List.map_cons, hput]; rfl
  | cons e fields ih =>
    rw [Datum.insert, List.map_cons, Datum.insert, hidden_fst]
    split
    · rw [List.map_cons, hput]
    · rw [List.map_cons, ih]

/-- Masking keeps the keys, so that it may come before or after a choice among them. -/
theorem maskSecrets_filter (p : Text → Bool) (fields : List (Text × Datum)) :
    maskSecrets (fields.filter fun e => p e.1) = (maskSecrets fields).filter fun e => p e.1 := by
  rw [maskSecrets_eq_map, maskSecrets_eq_map, List.filter_map]
  congr 2
  funext e
  rw [Function.comp_apply, hidden_fst]

/-- The fixed fields are no credentials: masking the fields of a call masks its context. -/
theorem maskSecrets_fields (c : Call) (logger time : Text) :
    maskSecrets (c.fields logger time) =
      Call.fields { c with context := maskSecrets c.context } logger time := by
  rw [Call.fields, maskSecrets_filter fun k => !isTraceField k, maskSecrets_insert (by decide),
    maskSecrets_insert (by decide), maskSecrets_insert (by decide), maskSecrets_insert (by decide)]
  rfl

/-- The fields with a place of their own on a terminal line are no credentials. -/
theorem placed_open : ∀ n ∈ placedNames, isSecret (Text.ofString n) = false := by decide

/-- Nor are the fields below it. -/
theorem below_open : ∀ n ∈ belowNames, isSecret (Text.ofString n) = false := by decide

/-! ### The parts of a line -/

/-- What stands on a line for a field that has no place of its own. -/
def fieldPart (f : Format) (e : Text × Datum) : Text :=
  match f with
  | .json => Text.ofString (Json.writeText e.1 ++ ": " ++ Json.write Json.spaced e.2)
  | .console => fieldText e

/-- What stands on a terminal line for the field of a name, in its own place, beside its key. -/
def placedPart (fields : List (Text × Datum)) (name : String) (show' : Text → Text) :
    List (Text × Text) :=
  ((Datum.lookup (Text.ofString name) fields).map fun d =>
    (Text.ofString name, show' d.display)).toList

/-- What stands on a line for its fields, each part beside the key of the field. -/
def parts (f : Format) (level : Level) (fields : List (Text × Datum)) : List (Text × Text) :=
  match f with
  | .json => fields.map fun e => (e.1, fieldPart .json e)
  | .console =>
    let others := fields.filter fun e =>
      !(placedNames ++ belowNames).any fun n => Text.ofString n == e.1
    placedPart fields "timestamp" (fun t => look 2 ++ t ++ plain) ++
      placedPart fields "level" (fun t => Text.ofString "[" ++ look (levelColour level) ++ bright ++
        padded 9 t ++ plain ++ Text.ofString "]") ++
      placedPart fields "event" (fun t => bright ++ padded 30 t ++ plain) ++
      placedPart fields "logger" loggerText ++ placedPart fields "logger_name" loggerText ++
      (others.mergeSort fun a b => Text.le a.1 b.1).map fun e => (e.1, fieldPart .console e)

/-- Put a line together from the parts for its fields and what stands below it. -/
def assembled (f : Format) (ts : List Text) (under : Text) : Text :=
  match f with
  | .json => Text.ofString "\x7b" ++ List.intercalate (Text.ofString ", ") ts ++
      Text.ofString "\x7d"
  | .console => trimEnd (spaced ts) ++ under

/-- A text as it stands on a line without masking: its parts in their order. -/
theorem ofString_writeEntries (fields : List (Text × Datum)) :
    Text.ofString (Json.writeEntries Json.spaced fields) =
      List.intercalate (Text.ofString ", ") (fields.map (fieldPart .json)) := by
  induction fields with
  | nil => rfl
  | cons e fields ih =>
    cases fields with
    | nil =>
      rw [List.map_singleton, List.intercalate_singleton]
      simp [Json.writeEntries, fieldPart, Json.spaced]
    | cons e' fields =>
      rw [Json.writeEntries]
      · rw [List.map_cons, List.map_cons, List.intercalate_cons_cons, ← List.map_cons, ← ih]
        simp [Text.ofString, fieldPart, Json.spaced]
      · exact List.cons_ne_nil e' fields

/-- A line consists of the parts for its fields. -/
theorem render_eq (f : Format) (level : Level) (fields : List (Text × Datum)) :
    render f level fields = assembled f ((parts f level fields).map (·.2)) (below fields) := by
  cases f with
  | json =>
    have hparts : (parts .json level fields).map (·.2) = fields.map (fieldPart .json) := by
      rw [parts, List.map_map]
      rfl
    rw [hparts, assembled, ← ofString_writeEntries, render, Json.write]
    simp [Text.ofString]
  | console =>
    have hplaced : ∀ name show', (placedPart fields name show').map (·.2) =
        ((Datum.lookup (Text.ofString name) fields).map fun d => show' d.display).toList := by
      intro name show'
      rw [placedPart]
      cases Datum.lookup (Text.ofString name) fields <;> rfl
    simp only [parts, List.map_append, hplaced, List.map_map]
    rfl

/-- The part of a field after masking. -/
def maskedPart (f : Format) (p : Text × Text) : Text × Text :=
  if isSecret p.1 then (p.1, fieldPart f (p.1, masked)) else p

/-- Masking the fields is masking the part that has a place of its own. -/
theorem placedPart_maskSecrets {name : String} (hopen : isSecret (Text.ofString name) = false)
    (fields : List (Text × Datum)) (show' : Text → Text) :
    placedPart (maskSecrets fields) name show' =
      (placedPart fields name show').map (maskedPart f) := by
  rw [placedPart, placedPart, lookup_maskSecrets hopen]
  cases Datum.lookup (Text.ofString name) fields
  · rfl
  · simp [maskedPart, hopen]

/-- Masking the fields is masking the parts that are written of them. -/
theorem fieldPart_maskSecrets (f : Format) (fields : List (Text × Datum)) :
    (maskSecrets fields).map (fun e => (e.1, fieldPart f e)) =
      (fields.map fun e => (e.1, fieldPart f e)).map (maskedPart f) := by
  rw [maskSecrets_eq_map, List.map_map, List.map_map]
  refine List.map_congr_left fun e _ => ?_
  rw [Function.comp_apply, Function.comp_apply, maskedPart, hidden]
  split <;> rfl

/-- **Masking.** It replaces the parts of the credential fields, and no other part. -/
theorem parts_maskSecrets (f : Format) (level : Level) (fields : List (Text × Datum)) :
    parts f level (maskSecrets fields) = (parts f level fields).map (maskedPart f) := by
  cases f with
  | json => exact fieldPart_maskSecrets .json fields
  | console =>
    have hsorted : ∀ l : List (Text × Datum),
        (maskSecrets l).mergeSort (fun a b => Text.le a.1 b.1) =
          maskSecrets (l.mergeSort fun a b => Text.le a.1 b.1) := by
      intro l
      rw [maskSecrets_eq_map, maskSecrets_eq_map]
      refine (List.map_mergeSort fun a _ b _ => ?_).symm
      rw [hidden_fst, hidden_fst]
    have hothers := maskSecrets_filter
      (fun k => !(placedNames ++ belowNames).any fun n => Text.ofString n == k) fields
    have hplaced : ∀ n ∈ placedNames, ∀ show', placedPart (maskSecrets fields) n show' =
        (placedPart fields n show').map (maskedPart .console) := fun n hn =>
      placedPart_maskSecrets (placed_open n hn) fields
    -- Which fields have no place of their own, and how they are sorted, is up to their keys.
    simp only [parts, List.map_append, ← hothers, hsorted, fieldPart_maskSecrets]
    rw [hplaced "timestamp" (by decide), hplaced "level" (by decide), hplaced "event" (by decide),
      hplaced "logger" (by decide), hplaced "logger_name" (by decide)]

/-- What stands below a line is no credential. -/
theorem below_maskSecrets (fields : List (Text × Datum)) :
    below (maskSecrets fields) = below fields := by
  have htext : ∀ n ∈ belowNames, text? n (maskSecrets fields) = text? n fields := fun n hn => by
    rw [text?, lookup_maskSecrets (below_open n hn), text?]
  rw [below, htext "stack" (by decide), htext "exception" (by decide), below]

/-! ### Calls -/

/-- Two calls agree outside the credentials: they have the same level and event, the same keys in
the same order, and the same value under each key that is not the name of a credential. -/
structure Call.Agrees (c c' : Call) : Prop where
  level : c.level = c'.level
  event : c.event = c'.event
  context : List.Forall₂ SameOutside c.context c'.context

/-- Calls that agree outside secret values write the same line. -/
theorem Call.Agrees.line_eq (h : c.Agrees c') (f : Format) (logger time : Text) :
    c.line f logger time = c'.line f logger time := by
  rw [Call.line, Call.line, maskSecrets_fields, maskSecrets_fields,
    maskSecrets_eq_iff.mpr h.context, Call.fields, Call.fields, h.level, h.event]

/-- A line is the line without masking, with other parts for the credentials. -/
theorem Call.line_eq (c : Call) (f : Format) (logger time : Text) :
    c.line f logger time =
      assembled f (((parts f c.level (c.fields logger time)).map (maskedPart f)).map (·.2))
        (below (c.fields logger time)) := by
  rw [Call.line, render_eq, parts_maskSecrets, below_maskSecrets]

/-- Under any settings, calls of a logger that agree outside the credentials write the same lines at
the same levels. A line is put together from the same parts in the same order as it is without
masking, but for the parts of the credentials, each of which shows the mask. -/
theorem written_of_agrees (s : Settings) (logger time : Text) {calls calls' : List Call}
    (h : List.Forall₂ Call.Agrees calls calls') :
    written s logger time calls = written s logger time calls' ∧
      ∀ c ∈ calls,
        let f := Format.ofSettings s
        let fields := c.fields logger time
        let ps := parts f c.level fields
        render f c.level fields = assembled f (ps.map (·.2)) (below fields) ∧
          c.line f logger time =
            assembled f ((ps.map (maskedPart f)).map (·.2)) (below fields) := by
  constructor
  · rw [written, written, lines, lines]
    induction h with
    | nil => rfl
    | @cons c c' calls calls' hc _ ih =>
      -- Both calls reach the threshold or neither does.
      rw [List.filter_cons, List.filter_cons, hc.level]
      split
      · rw [List.map_cons, List.map_cons, hc.line_eq, hc.level, ih]
      · exact ih
  · exact fun c _ => ⟨render_eq _ _ _, c.line_eq _ _ _⟩

/-- A login with a password and one with another password write the same terminal line. -/
theorem written_of_agrees_login :
    ∃ c c' : Call, c.Agrees c' ∧ c.context ≠ c'.context ∧
      written { appDebug := true } (Text.ofString "audit") (Text.ofString "now") [c] =
        written { appDebug := true } (Text.ofString "audit") (Text.ofString "now") [c'] := by
  let call (password : Datum) : Call := ⟨.info, .str "login",
    [(Text.ofString "email", .str "ada@example.org"), (Text.ofString "password", password)]⟩
  have hagrees : (call (.str "horse")).Agrees (call (.int 7)) :=
    ⟨rfl, rfl, .cons ⟨rfl, fun _ => rfl⟩ (.cons ⟨rfl, fun h => absurd h (by decide)⟩ .nil)⟩
  exact ⟨_, _, hagrees, nofun, (written_of_agrees _ _ _ (.cons hagrees .nil)).1⟩

end FederatedLogin.Log
