import FederatedLogin.Datum
import Mathlib.Data.List.Induction
import Mathlib.Data.List.Nodup

/-!
# The keys of an object

An object is made by entering its entries one after the other (`Datum.collect`). A key that comes
twice is entered once: `Datum.insert` finds it and replaces its value. So each key stands where it
came first, with the value that came last (`Datum.collect_eq_survivors`).
-/

namespace FederatedLogin.Datum

variable {key k : Text} {value : Datum} {entries es : List (Text × Datum)}

/-! ### Entering a key -/

/-- A new key is entered at the end. -/
theorem insert_of_notMem (h : key ∉ entries.map (·.1)) :
    insert key value entries = entries ++ [(key, value)] := by
  induction entries with
  | nil => rfl
  | cons e entries ih =>
    have hne : e.1 ≠ key := fun hkey => h (hkey ▸ List.mem_cons_self)
    rw [insert, if_neg hne, ih fun hmem => h (List.mem_cons_of_mem _ hmem), List.cons_append]

/-- A known key stays in its place. -/
theorem keys_insert_of_mem (h : key ∈ entries.map (·.1)) :
    (insert key value entries).map (·.1) = entries.map (·.1) := by
  induction entries with
  | nil => exact absurd h List.not_mem_nil
  | cons e entries ih =>
    rw [insert]
    split
    · rename_i hkey
      rw [List.map_cons, List.map_cons, hkey]
    · rename_i hkey
      rcases List.mem_cons.mp h with heq | hmem
      · exact absurd heq.symm hkey
      · rw [List.map_cons, List.map_cons, ih hmem]

/-- Entering a key never makes one come twice. -/
theorem nodup_keys_insert (key : Text) (value : Datum) (h : (entries.map (·.1)).Nodup) :
    ((insert key value entries).map (·.1)).Nodup := by
  by_cases hmem : key ∈ entries.map (·.1)
  · rwa [keys_insert_of_mem hmem]
  · rw [insert_of_notMem hmem, List.map_append]
    refine List.nodup_append.mpr ⟨h, List.nodup_singleton _, fun a ha b hb hab => ?_⟩
    obtain rfl := List.mem_singleton.mp hb
    exact hmem (hab ▸ ha)

/-- The value under a key is the one that was entered last. -/
theorem find?_insert :
    (insert key value entries).find? (·.1 == k) =
      if key = k then some (key, value) else entries.find? (·.1 == k) := by
  induction entries with
  | nil =>
    by_cases hkey : key = k <;> simp [insert, hkey]
  | cons e entries ih =>
    rw [insert]
    split
    · rename_i hkey
      by_cases hk : key = k
      · simp [hk]
      · simp [hkey, hk]
    · rename_i hkey
      by_cases hk : e.1 = k
      · have hne : key ≠ k := fun h => hkey (hk.trans h.symm)
        simp [hk, hne]
      · simp [hk, ih]

/-! ### Entering entries one after the other -/

/-- Put an entry into an object. -/
def enter (got : List (Text × Datum)) (e : Text × Datum) : List (Text × Datum) :=
  insert e.1 e.2 got

/-- The object that comes of entries, one after the other. -/
def collect (es : List (Text × Datum)) : List (Text × Datum) := es.foldl enter []

/-- The entries that are left when every key stands where it came first, with the value that came
last. -/
def survivors {α : Type} (es : List (Text × α)) : List (Text × α) :=
  (es.map (·.1)).eraseDups.filterMap fun k => es.reverse.find? (·.1 == k)

theorem collect_concat (es : List (Text × Datum)) (e : Text × Datum) :
    collect (es ++ [e]) = enter (collect es) e := by
  rw [collect, List.foldl_append]
  rfl

/-- The keys come in the order in which they came first. -/
theorem keys_collect (es : List (Text × Datum)) :
    (collect es).map (·.1) = (es.map (·.1)).eraseDups := by
  induction es using List.reverseRecOn with
  | nil => rfl
  | append_singleton es e ih =>
    rw [collect_concat, enter, List.map_append, List.map_singleton, List.eraseDups_append]
    by_cases hmem : e.1 ∈ es.map (·.1)
    · rw [keys_insert_of_mem (by rwa [ih, List.mem_eraseDups]), ih]
      simp [List.removeAll, hmem]
    · rw [insert_of_notMem (by rwa [ih, List.mem_eraseDups]), List.map_append, ih]
      simp [List.removeAll, hmem, List.eraseDups_cons]

theorem nodup_keys_collect (es : List (Text × Datum)) : ((collect es).map (·.1)).Nodup := by
  induction es using List.reverseRecOn with
  | nil => exact List.nodup_nil
  | append_singleton es e ih =>
    rw [collect_concat]
    exact nodup_keys_insert e.1 e.2 ih

/-- Under every key is the value that came last. -/
theorem find?_collect (es : List (Text × Datum)) (k : Text) :
    (collect es).find? (·.1 == k) = es.reverse.find? (·.1 == k) := by
  induction es using List.reverseRecOn with
  | nil => rfl
  | append_singleton es e ih =>
    rw [collect_concat, enter, find?_insert, ih, List.reverse_append, List.reverse_singleton,
      List.singleton_append]
    split
    · rename_i hk
      rw [List.find?_cons_of_pos (by simpa using hk)]
    · rename_i hk
      rw [List.find?_cons_of_neg (by simpa using hk)]

/-- Entries whose keys are distinct are the ones that are found under their keys. -/
theorem filterMap_find? {α : Type} {es : List (Text × α)} (h : (es.map (·.1)).Nodup) :
    (es.map (·.1)).filterMap (fun k => es.find? (·.1 == k)) = es := by
  induction es with
  | nil => rfl
  | cons e es ih =>
    obtain ⟨hnew, hrest⟩ := List.nodup_cons.mp h
    have hskip : ∀ k ∈ es.map (·.1), (e :: es).find? (·.1 == k) = es.find? (·.1 == k) := by
      intro k hk
      have hne : e.1 ≠ k := by
        rintro rfl
        exact hnew hk
      exact List.find?_cons_of_neg (by simpa using hne)
    have hfirst : (e :: es).find? (·.1 == e.1) = some e :=
      List.find?_cons_of_pos (beq_self_eq_true e.1)
    rw [List.map_cons, List.filterMap_cons, hfirst]
    simp only
    rw [List.filterMap_congr hskip, ih hrest]

/-- Of the entries that are entered, those are left that survive. -/
theorem collect_eq_survivors (es : List (Text × Datum)) : collect es = survivors es := by
  rw [survivors, ← keys_collect, ← List.filterMap_congr fun k _ => find?_collect es k]
  exact (filterMap_find? (nodup_keys_collect es)).symm

/-- Entries whose keys are distinct all survive. -/
theorem collect_of_nodup (h : (es.map (·.1)).Nodup) : collect es = es := by
  induction es using List.reverseRecOn with
  | nil => rfl
  | append_singleton es e ih =>
    rw [List.map_append, List.map_singleton] at h
    obtain ⟨hes, -, hnew⟩ := List.nodup_append.mp h
    rw [collect_concat, ih hes, enter]
    exact insert_of_notMem fun hmem => hnew _ hmem _ (List.mem_singleton_self _) rfl

end FederatedLogin.Datum
