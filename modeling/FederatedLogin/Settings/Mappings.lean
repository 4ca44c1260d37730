import FederatedLogin.Proofs.Results
import FederatedLogin.Settings

/-!
# Mapping texts in the surroundings

The mapping texts that the surroundings hold (`mappingsNow`) are what reading them on their own
gives. That never fails (`loadMappings_eq`), whatever the texts are and whatever else the
surroundings hold: a mapping text is not looked into, so there is nothing that could be refused. The
text of a provider is what the environment says under its key, or else what the environment file
says, or else the built-in one (`mappingsNow_text`).
-/

namespace FederatedLogin

theorem Datum.lookup_append (key : Text) (es es' : List (Text × Datum)) :
    lookup key (es ++ es') = (lookup key es).or (lookup key es') := by
  rw [lookup, List.find?_append, Option.map_or]
  rfl

namespace Settings

variable {get : String → Option String} {names : List String}

/-- The value of a name: the environment comes before its file. -/
def valueNow (w : Surroundings) (name : String) : Option String :=
  (lastOf name (environment w)).or (lastOf name (fileBindings w)).join

/-- The mapping text of a provider in the surroundings. -/
def textNow (w : Surroundings) (p : Provider) : String :=
  (valueNow w p.mappingKey).getD (({} : MappingTexts).text p)

/-! ### Sources of texts -/

/-- The entries of a source whose values are all texts. -/
def textEntries (get : String → Option String) (names : List String) : List (Text × Datum) :=
  names.flatMap fun name => ((get name).map fun s => (Text.ofString name, Datum.str s)).toList

theorem fromSource_text (source : Source) {name : String} (h : name ∉ listNames)
    (value : Option String) : fromSource source name value = .ok (value.map .str) := by
  cases value with
  | none => rfl
  | some s =>
    have hlist : listNames.contains name = false := by
      rw [Bool.eq_false_iff]
      exact mt List.contains_iff_mem.mp h
    rw [fromSource, hlist]
    rfl

/-- Names that are not those of lists are never refused by a source. -/
theorem sourceValues_text (source : Source) (h : ∀ name ∈ names, name ∉ listNames) :
    sourceValues source get names = .ok (textEntries get names) := by
  rw [sourceValues, textEntries, List.flatMap_eq_foldl]
  refine foldlM_eq_ok (fun got name hname => ?_) []
  rw [fromSource_text source (h name hname)]
  rcases get name with _ | s
  · exact congrArg Except.ok (List.append_nil got).symm
  · rfl

theorem lookup_textEntries (get : String → Option String) (names : List String) (name : String) :
    Datum.lookup (Text.ofString name) (textEntries get names) =
      if name ∈ names then (get name).map .str else none := by
  induction names with
  | nil => rfl
  | cons first rest ih =>
    rw [textEntries, List.flatMap_cons, Datum.lookup_append, ← textEntries, ih]
    -- A name that the source does not give has no entry, and so a later occurrence has none either.
    by_cases hname : first = name
    · subst hname
      rcases hvalue : get first with _ | s <;> simp [Datum.lookup]
    · have hother : Datum.lookup (Text.ofString name)
          ((get first).map fun s => (Text.ofString first, Datum.str s)).toList = none := by
        rcases get first with _ | s <;> simp [Datum.lookup, Text.ofString_inj, hname]
      rw [hother, Option.none_or]
      simp [Ne.symm hname]

/-! ### The mapping texts -/

theorem mappingNames_disjoint : ∀ name ∈ mappingNames, name ∉ listNames := by decide

/-- All values of the mapping names, those of the environment first. -/
theorem gather_mappingNames (w : Surroundings) :
    gather w [] mappingNames = .ok (textEntries (lastOf · (environment w)) mappingNames ++
      textEntries (fun name => (lastOf name (fileBindings w)).join) mappingNames) := by
  rw [gather, sourceValues_text .environment mappingNames_disjoint,
    sourceValues_text .envFile mappingNames_disjoint]
  rfl

/-- The field of a provider is read as its mapping text. -/
theorem read_mappingKey (w : Surroundings) (p : Provider) {values : List (Text × Datum)}
    (h : gather w [] mappingNames = .ok values) :
    Field.read values p.mappingKey (.ok (({} : MappingTexts).text p)) Field.string =
      .ok (textNow w p) := by
  obtain rfl := Except.ok.inj (h.symm.trans (gather_mappingNames w))
  have hname : p.mappingKey ∈ mappingNames := List.mem_map_of_mem (Provider.mem_all p)
  rw [Field.read, Datum.lookup_append, lookup_textEntries, lookup_textEntries, if_pos hname,
    if_pos hname, ← Option.map_or, textNow, valueNow]
  rcases (lastOf p.mappingKey (environment w)).or (lastOf p.mappingKey (fileBindings w)).join
    with _ | s
  · rfl
  · exact Field.within_eq_ok.mpr (by simp [Field.string, Datum.str])

/-- The mapping texts can always be read. -/
theorem loadMappings_eq (w : Surroundings) : loadMappings w [] =
    .ok ⟨textNow w .postgres, textNow w .xsuaa, textNow w .oidc⟩ := by
  have hgather := gather_mappingNames w
  have hpostgres := read_mappingKey w .postgres hgather
  have hxsuaa := read_mappingKey w .xsuaa hgather
  have hoidc := read_mappingKey w .oidc hgather
  simp only [MappingTexts.text] at hpostgres hxsuaa hoidc
  rw [loadMappings, hgather]
  simp only [bind, Except.bind, checkMappings, hpostgres, hxsuaa, hoidc, Field.both, mapError_ok]

/-- The mapping texts that the surroundings hold now. -/
def mappingsNow (w : Surroundings) : MappingTexts :=
  match h : loadMappings w [] with
  | .ok m => m
  | .error _ => absurd ((loadMappings_eq w).symm.trans h) nofun

/-- The mapping text of a provider that the surroundings hold now is that under its own key. -/
theorem mappingsNow_text (w : Surroundings) (p : Provider) :
    (mappingsNow w).text p = textNow w p := by
  rw [mappingsNow]
  split
  · rename_i m hload
    obtain rfl := Except.ok.inj ((loadMappings_eq w).symm.trans hload)
    cases p <;> rfl
  · rename_i e hload
    exact absurd ((loadMappings_eq w).symm.trans hload) nofun

end Settings

end FederatedLogin
