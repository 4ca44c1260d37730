import FederatedLogin.Notice
import FederatedLogin.Proofs.Json.Grammar
import FederatedLogin.Proofs.Store.Execution

/-!
# What becomes of a mapping text

A mapping text is accepted as a mapping (`Accepts`), refused (`Refuses`), or beyond a limit of the
JSON reader (`Beyond`). Each excludes the others, because `load` has one result, and
`accepts_or_refuses_or_beyond` says that there is no fourth way.

`parse` is the lenient way to load a text: a refusal is reported, and the empty mapping used.
`exists_parsed` says what comes of it: only a text beyond a limit makes it fail.
-/

namespace FederatedLogin.RoleMapping

variable {source : Option String} {m : RoleMapping} {r : Refusal} {limit : Json.Limit}
  {entries : List (Text × Datum)}

/-! ### Objects of texts -/

/-- The value is a text. -/
def isText : Datum → Bool
  | .text _ => true
  | _ => false

/-- The keys whose values are no texts. -/
def offending (entries : List (Text × Datum)) : List Text :=
  (entries.filter fun e => !isText e.2).map (·.1)

/-- The entries of the object that a mapping is written as. -/
def written (m : RoleMapping) : List (Text × Datum) := m.map fun e => (e.1, .text e.2)

theorem isText_iff {d : Datum} : isText d = true ↔ ∃ t, d = .text t := by
  cases d <;> simp [isText]

theorem ofEntries_text (key slug : Text) (entries : List (Text × Datum)) :
    ofEntries ((key, .text slug) :: entries) =
      ((key, slug) :: (ofEntries entries).1, (ofEntries entries).2) := rfl

/-- An entry whose value is no text is left out and its key is reported. -/
theorem ofEntries_of_not_isText {e : Text × Datum} (he : isText e.2 = false) :
    ofEntries (e :: entries) = ((ofEntries entries).1, e.1 :: (ofEntries entries).2) := by
  rcases e with ⟨key, d⟩
  cases d with
  | text => exact absurd he nofun
  | null | bool | int | float | bytes | list | record => rfl

/-- The keys that are left over are the offending ones. -/
theorem ofEntries_snd (entries : List (Text × Datum)) :
    (ofEntries entries).2 = offending entries := by
  induction entries with
  | nil => rfl
  | cons e entries ih =>
    rcases hd : isText e.2 with _ | _
    · rw [ofEntries_of_not_isText hd, offending, List.filter_cons_of_pos (by simp [hd])]
      exact congrArg _ ih
    · rw [offending, List.filter_cons_of_neg (by simp [hd])]
      obtain ⟨key, d⟩ := e
      obtain ⟨slug, rfl⟩ := isText_iff.mp hd
      exact ih

/-- If no key offends, all entries are in the mapping. -/
theorem written_ofEntries (h : offending entries = []) :
    written (ofEntries entries).1 = entries := by
  induction entries with
  | nil => rfl
  | cons e entries ih =>
    rcases hd : isText e.2 with _ | _
    · rw [offending, List.filter_cons_of_pos (by simp [hd])] at h
      exact absurd h nofun
    · rw [offending, List.filter_cons_of_neg (by simp [hd])] at h
      obtain ⟨key, d⟩ := e
      obtain ⟨slug, rfl⟩ := isText_iff.mp hd
      exact congrArg _ (ih h)

/-- All entries of a written mapping are texts. -/
theorem ofEntries_written (m : RoleMapping) : ofEntries (written m) = (m, []) := by
  induction m with
  | nil => rfl
  | cons e m ih =>
    have hcons : written (e :: m) = (e.1, .text e.2) :: written m := rfl
    rw [hcons, ofEntries_text, ih]

/-- Offending keys are reported in order. -/
theorem ofDatum_of_offending (h : offending entries ≠ []) :
    ofDatum (.record entries) = .error (.notStrings ((offending entries).mergeSort Text.le)) := by
  have hkeys := ofEntries_snd entries
  rw [ofDatum]
  split
  · rename_i hentries
    rw [hentries] at hkeys
    exact absurd hkeys.symm h
  · rename_i hentries
    rw [hentries] at hkeys
    rw [← hkeys]

/-! ### Three ways for a text -/

/-- A text is accepted as a mapping: no text, a blank one, or an object whose values are texts. -/
inductive Accepts : Option String → RoleMapping → Prop
  | missing : Accepts none []
  | blank {s : String} (blank : Text.isAllSpacing s = true) : Accepts (some s) []
  | object {s : String} {m : RoleMapping} (nonblank : Text.isAllSpacing s = false)
      (read : Json.readText s = .ok (.record m.written)) : Accepts (some s) m

/-- A text is refused: it is not JSON, or no object, or an object with values that are no texts. -/
inductive Refuses : Option String → Refusal → Prop
  | notJson {s : String} {c : Json.Complaint} {line column : Nat}
      (nonblank : Text.isAllSpacing s = false)
      (read : Json.readText s = .error (.malformed c line column)) :
      Refuses (some s) (.notJson c line column)
  | notObject {s : String} {d : Datum} (nonblank : Text.isAllSpacing s = false)
      (read : Json.readText s = .ok d) (noRecord : ∀ entries, d ≠ .record entries) :
      Refuses (some s) (.notObject d.typeName)
  | notStrings {s : String} {entries : List (Text × Datum)}
      (nonblank : Text.isAllSpacing s = false) (read : Json.readText s = .ok (.record entries))
      (offends : offending entries ≠ []) :
      Refuses (some s) (.notStrings ((offending entries).mergeSort Text.le))

/-- A text is beyond a limit of the JSON reader. -/
inductive Beyond : Option String → Json.Limit → Prop
  | beyond {s : String} {limit : Json.Limit} (nonblank : Text.isAllSpacing s = false)
      (read : Json.readText s = .error (.beyond limit)) : Beyond (some s) limit

theorem Accepts.load_eq (h : Accepts source m) : load source = .ok m := by
  cases h with
  | missing => rfl
  | blank blank => simp [load, blank]
  | object nonblank read => simp [load, nonblank, read, ofDatum, ofEntries_written]

theorem Refuses.load_eq (h : Refuses source r) : load source = .error (.refused r) := by
  cases h with
  | notJson nonblank read => simp [load, nonblank, read]
  | @notObject s d nonblank read noRecord =>
    cases d with
    | record entries => exact absurd rfl (noRecord entries)
    | null | bool | int | float | text | bytes | list => simp [load, nonblank, read, ofDatum]
  | notStrings nonblank read offends =>
    simp [load, nonblank, read, ofDatum_of_offending offends]

/-- A text beyond the limits is neither accepted nor refused. -/
theorem Beyond.load_eq (h : Beyond source limit) : load source = .error (.beyond limit) := by
  cases h with
  | beyond nonblank read => simp [load, nonblank, read]

/-- There is no fourth way. -/
theorem accepts_or_refuses_or_beyond (source : Option String) :
    (∃ m, Accepts source m) ∨ (∃ r, Refuses source r) ∨ ∃ limit, Beyond source limit := by
  rcases source with _ | s
  · exact .inl ⟨_, .missing⟩
  rcases nonblank : Text.isAllSpacing s with _ | _
  swap
  · exact .inl ⟨_, .blank nonblank⟩
  rcases read : Json.readText s with (⟨c, line, column⟩ | limit) | d
  · exact .inr (.inl ⟨_, .notJson nonblank read⟩)
  · exact .inr (.inr ⟨_, .beyond nonblank read⟩)
  by_cases hrecord : ∃ entries, d = .record entries
  · obtain ⟨entries, rfl⟩ := hrecord
    by_cases offends : offending entries = []
    · rw [← written_ofEntries offends] at read
      exact .inl ⟨_, .object nonblank read⟩
    · exact .inr (.inl ⟨_, .notStrings nonblank read offends⟩)
  · exact .inr (.inl ⟨_, .notObject nonblank read (not_exists.mp hrecord)⟩)

/-- Loading refuses no other texts. -/
theorem load_eq_refused_iff : load source = .error (.refused r) ↔ Refuses source r := by
  refine ⟨fun h => ?_, Refuses.load_eq⟩
  rcases accepts_or_refuses_or_beyond source with ⟨m, accepts⟩ | ⟨r', refuses⟩ | ⟨limit, beyond⟩
  · exact absurd (accepts.load_eq.symm.trans h) nofun
  · have hsame := refuses.load_eq.symm.trans h
    obtain rfl := LoadError.refused.inj (Except.error.inj hsame)
    exact refuses
  · exact absurd (beyond.load_eq.symm.trans h) nofun

/-- Loading leniently fails for no other texts. -/
theorem loadLenient_eq_error_iff : loadLenient source = .error limit ↔ Beyond source limit := by
  refine ⟨fun h => ?_, fun h => by rw [loadLenient, h.load_eq]⟩
  rcases accepts_or_refuses_or_beyond source with ⟨m, accepts⟩ | ⟨r, refuses⟩ | ⟨limit', beyond⟩
  · rw [loadLenient, accepts.load_eq] at h
    exact absurd h nofun
  · rw [loadLenient, refuses.load_eq] at h
    exact absurd h nofun
  · rw [loadLenient, beyond.load_eq] at h
    exact Except.error.inj h ▸ beyond

/-- No key comes twice in a mapping. -/
theorem Accepts.nodup_keys (h : Accepts source m) : (m.map (·.1)).Nodup := by
  cases h with
  | missing | blank => exact List.nodup_nil
  | object _ read =>
    have hkeys := Json.nodup_keys_of_readText read
    rwa [written, List.map_map] at hkeys

/-- Only a text that is not within the limits goes beyond one. -/
theorem Beyond.not_within {s : String} (h : Beyond (some s) limit) :
    ¬Json.Within Json.maxDepth s.toList := by
  cases h with
  | beyond _ read => exact fun within => Json.readText_of_within within limit read

/-! ### Loading leniently -/

/-- Load a mapping text. A refused one is reported, and the empty mapping used in its place. -/
def parse {ε : Type} (lift : Json.Limit → ε) (provider configKey : Option String)
    (source : Option String) : Action ε RoleMapping := do
  let (m, refusal) ← Action.of ((loadLenient source).mapError lift)
  if let some r := refusal then Action.report (.mappingIgnored provider configKey r)
  return m

section Parse

variable {ε : Type} (lift : Json.Limit → ε) (provider configKey : Option String)

/-- A refused text counts as no mapping, and a notice says so. -/
theorem Refuses.exec_parse (h : Refuses source r) (s : Store) (n : List Notice) :
    (parse lift provider configKey source).exec ⟨s, n⟩ =
      (.ok [], ⟨s, n ++ [.mappingIgnored provider configKey r]⟩) := by
  simp [parse, loadLenient, h.load_eq, Except.map]

/-- A limit ends the action without a notice. -/
theorem Beyond.exec_parse (h : Beyond source limit) (s : Store) (n : List Notice) :
    (parse lift provider configKey source).exec ⟨s, n⟩ = (.error (lift limit), ⟨s, n⟩) := by
  simp [parse, loadLenient, h.load_eq]

/-- What comes of a text that is parsed: the result, and what is reported. -/
inductive Parsed : Option String → Except ε RoleMapping → List Notice → Prop
  | accepted {source : Option String} {m : RoleMapping} (accepts : Accepts source m)
      (distinct : (m.map (·.1)).Nodup) : Parsed source (.ok m) []
  | refused {source : Option String} {r : Refusal} (refuses : Refuses source r) :
      Parsed source (.ok []) [.mappingIgnored provider configKey r]
  | beyond {t : String} {limit : Json.Limit} (beyond : Beyond (some t) limit)
      (outside : ¬Json.Within Json.maxDepth t.toList) : Parsed (some t) (.error (lift limit)) []

/-- Parsing does one of these things, and leaves the store alone. -/
theorem exists_parsed (source : Option String) :
    ∃ result ns, Parsed lift provider configKey source result ns ∧ ∀ s n,
      (parse lift provider configKey source).exec ⟨s, n⟩ = (result, ⟨s, n ++ ns⟩) := by
  rcases accepts_or_refuses_or_beyond source with ⟨m, accepts⟩ | ⟨r, refuses⟩ | ⟨limit, hbeyond⟩
  · refine ⟨_, _, .accepted accepts accepts.nodup_keys, fun s n => ?_⟩
    simp [parse, loadLenient, accepts.load_eq]
  · exact ⟨_, _, .refused refuses, refuses.exec_parse lift provider configKey⟩
  · rcases source with _ | t
    · exact absurd hbeyond nofun
    · refine ⟨_, _, .beyond hbeyond hbeyond.not_within, fun s n => ?_⟩
      rw [hbeyond.exec_parse, List.append_nil]

end Parse

end FederatedLogin.RoleMapping
