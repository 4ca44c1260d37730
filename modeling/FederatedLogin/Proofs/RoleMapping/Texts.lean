import FederatedLogin.Proofs.Json.RoundTrip
import FederatedLogin.Proofs.RoleMapping.Loading

/-!
# Which texts are role mappings

Loading is described by the grammar of JSON texts here, without the reader. A text is accepted if it
is the text of an object, and if of its entries those that survive, the last one for each key, are
all strings; they are the mapping, in the order in which their keys came first. A value that does
not survive makes no difference, whatever it is.

Otherwise the keys whose surviving values are no strings are named in their order, which is that of
the numbers of the code points.
-/

namespace FederatedLogin

/-! ### The order of texts -/

namespace Text

variable {a b : CodePoint} {s t u : Text}

/-- The first code point that differs decides. -/
theorem le_cons_iff :
    le (a :: s) (b :: t) = true ↔ a.toNat < b.toNat ∨ a.toNat = b.toNat ∧ le s t = true := by
  rw [le]
  split
  · simp [*]
  · split
    · rename_i hlt hgt
      exact iff_of_false Bool.false_ne_true (by omega)
    · rename_i hlt hgt
      have heq : a.toNat = b.toNat := by omega
      simp [heq]

theorem le_trans (hst : le s t = true) (htu : le t u = true) : le s u = true := by
  induction s generalizing t u with
  | nil => rfl
  | cons a s ih =>
    cases t with
    | nil => exact absurd hst nofun
    | cons b t =>
      cases u with
      | nil => exact absurd htu nofun
      | cons c u =>
        rw [le_cons_iff] at hst htu ⊢
        rcases hst with hab | ⟨hab, hst⟩
        · exact .inl (by omega)
        · rcases htu with hbc | ⟨hbc, htu⟩
          · exact .inl (by omega)
          · exact .inr ⟨hab.trans hbc, ih hst htu⟩

theorem le_total (s t : Text) : (le s t || le t s) = true := by
  rw [Bool.or_eq_true]
  induction s generalizing t with
  | nil => exact .inl rfl
  | cons a s ih =>
    cases t with
    | nil => exact .inr rfl
    | cons b t =>
      rw [le_cons_iff, le_cons_iff]
      rcases Nat.lt_trichotomy a.toNat b.toNat with hlt | heq | hgt
      · exact .inl (.inl hlt)
      · exact (ih t).imp (fun h => .inr ⟨heq, h⟩) fun h => .inr ⟨heq.symm, h⟩
      · exact .inr (.inl hgt)

end Text

namespace RoleMapping

open Json (Denotes ObjectText)
open Datum (survivors)

variable {s : String} {es : List (Text × Datum)}

/-! ### Surviving entries -/

/-- An entry whose value is no text. -/
theorem mem_offending {entries : List (Text × Datum)} {k : Text} :
    k ∈ offending entries ↔ ∃ d, (k, d) ∈ entries ∧ isText d = false := by
  simp [offending]

theorem offending_eq_nil_iff {entries : List (Text × Datum)} :
    offending entries = [] ↔ ∀ e ∈ entries, isText e.2 = true := by
  simp [offending]

theorem nodup_offending {entries : List (Text × Datum)} (h : (entries.map (·.1)).Nodup) :
    (offending entries).Nodup :=
  h.sublist (List.filter_sublist.map _)

/-- The mapping that a list of pairs becomes: it is written as the entries that survive. -/
theorem survivors_written (m : RoleMapping) : survivors (written m) = written (survivors m) := by
  have hkeys : (written m).map (·.1) = m.map (·.1) := by
    rw [written, List.map_map]
    rfl
  have hfind (k : Text) : (written m).reverse.find? (·.1 == k) =
      (m.reverse.find? (·.1 == k)).map fun e => (e.1, .text e.2) := by
    rw [written, ← List.map_reverse, List.find?_map]
    rfl
  have hleft : survivors (written m) = (m.map (·.1)).eraseDups.filterMap fun k =>
      (m.reverse.find? (·.1 == k)).map fun e => (e.1, .text e.2) := by
    rw [survivors, hkeys]
    exact List.filterMap_congr fun k _ => hfind k
  rw [hleft, written, survivors, List.map_filterMap]

/-! ### Loading -/

/-- An object text is not blank. -/
theorem nonblank_of_objectText (h : ObjectText es s.toList) : Text.isAllSpacing s = false := by
  -- It has a brace, and that is no spacing.
  have hbrace : '{' ∈ s.toList := by
    generalize s.toList = cs at h
    cases h with
    | intro before written after => cases written <;> simp
  rw [Text.isAllSpacing, List.all_eq_false]
  exact ⟨'{', hbrace, by decide⟩

/-- An object text is read as the entries that survive. -/
theorem readText_of_objectText (h : ObjectText es s.toList) :
    Json.readText s = .ok (.record (survivors es)) :=
  Json.readText_eq_record_iff.mpr ⟨es, h, Datum.collect_eq_survivors es⟩

/-- The keys are in order, and none comes twice. -/
def Ascending (keys : List Text) : Prop := keys.Pairwise fun a b => Text.le a b = true ∧ a ≠ b

/-- The keys of a refusal are in order. -/
theorem ascending_mergeSort {keys : List Text} (h : keys.Nodup) :
    Ascending (keys.mergeSort Text.le) := by
  have hsorted : (keys.mergeSort Text.le).Pairwise fun a b => Text.le a b = true := by
    refine List.pairwise_mergeSort ?_ ?_ keys
    · exact fun _ _ _ => Text.le_trans
    · exact Text.le_total
  have hnodup : (keys.mergeSort Text.le).Nodup := (List.mergeSort_perm keys Text.le).nodup_iff.mpr h
  exact hsorted.and hnodup

/-- The entries are those of a mapping exactly if no key offends. -/
theorem exists_written_iff {entries : List (Text × Datum)} :
    (∃ m, written m = entries) ↔ offending entries = [] := by
  constructor
  · rintro ⟨m, rfl⟩
    rw [← ofEntries_snd, ofEntries_written]
  · exact fun h => ⟨_, written_ofEntries h⟩

/-- An object is accepted exactly if the values that survive are all texts: they are the mapping. -/
theorem load_eq_ok_iff_of_objectText (h : ObjectText es s.toList) {m : RoleMapping} :
    load (some s) = .ok m ↔ written m = survivors es := by
  refine ⟨fun hload => ?_, fun hm => ?_⟩
  · -- Some mapping is written as the entries, or the text would be refused.
    obtain ⟨m', hm'⟩ : ∃ m', written m' = survivors es := by
      rw [exists_written_iff]
      refine Classical.byContradiction fun hoffends => ?_
      have hrefused := (Refuses.notStrings (nonblank_of_objectText h) (readText_of_objectText h)
        hoffends).load_eq
      exact absurd (hrefused.symm.trans hload) nofun
    have accepts : Accepts (some s) m' :=
      .object (nonblank_of_objectText h) (hm' ▸ readText_of_objectText h)
    obtain rfl := Except.ok.inj (accepts.load_eq.symm.trans hload)
    exact hm'
  · exact (Accepts.object (nonblank_of_objectText h) (hm ▸ readText_of_objectText h)).load_eq

/-- An object with other values is refused for their keys, in order. -/
theorem exists_load_eq_notStrings (h : ObjectText es s.toList)
    (hoffends : offending (survivors es) ≠ []) :
    ∃ keys, load (some s) = .error (.refused (.notStrings keys)) ∧ Ascending keys ∧
      ∀ k, k ∈ keys ↔ ∃ d, (k, d) ∈ survivors es ∧ isText d = false := by
  have hread := readText_of_objectText h
  refine ⟨_, (Refuses.notStrings (nonblank_of_objectText h) hread hoffends).load_eq,
    ascending_mergeSort (nodup_offending (Json.nodup_keys_of_readText hread)), fun k => ?_⟩
  rw [(List.mergeSort_perm _ Text.le).mem_iff, mem_offending]

/-- Nothing but a blank text and the text of an object is accepted. -/
theorem exists_objectText (hnonblank : Text.isAllSpacing s = false) {m : RoleMapping}
    (h : load (some s) = .ok m) : ∃ es, ObjectText es s.toList ∧ written m = survivors es := by
  rcases accepts_or_refuses_or_beyond (some s) with ⟨m', accepts⟩ | ⟨r, refuses⟩ | ⟨limit, beyond⟩
  · obtain rfl := Except.ok.inj (accepts.load_eq.symm.trans h)
    cases accepts with
    | blank hblank => exact absurd (hblank.symm.trans hnonblank) nofun
    | object _ read =>
      obtain ⟨es, htext, hcollect⟩ := Json.readText_eq_record_iff.mp read
      exact ⟨es, htext, hcollect.symm.trans (Datum.collect_eq_survivors es)⟩
  · exact absurd (refuses.load_eq.symm.trans h) nofun
  · exact absurd (beyond.load_eq.symm.trans h) nofun

/-- A text that stands for no value is refused where the reader stops, or it goes beyond a limit. -/
theorem load_of_not_denotes (hnonblank : Text.isAllSpacing s = false)
    (hnone : ∀ d, ¬Denotes d s.toList) :
    (∃ c line column, Json.readText s = .error (.malformed c line column) ∧
        load (some s) = .error (.refused (.notJson c line column))) ∨
      ∃ limit, Json.readText s = .error (.beyond limit) ∧ load (some s) = .error (.beyond limit) ∧
        ¬Json.Within Json.maxDepth s.toList := by
  rcases hread : Json.readText s with (⟨c, line, column⟩ | limit) | d
  · exact .inl ⟨c, line, column, rfl, (Refuses.notJson hnonblank hread).load_eq⟩
  · have beyond : Beyond (some s) limit := .beyond hnonblank hread
    exact .inr ⟨limit, rfl, beyond.load_eq, beyond.not_within⟩
  · exact absurd (Json.readText_eq_ok_iff.mp hread) (hnone d)

/-- No text and a blank text are the empty mapping. The text of an object is accepted exactly if the
values that survive are all texts, and then it is the mapping that is written as the surviving
entries; otherwise it is refused for exactly the keys whose surviving values are no texts, in order.
The text of another value is refused for its type. A text that stands for no value is refused for
what is wrong with it, or goes beyond a limit of the JSON reader; so nothing but the text of an
object is accepted. In particular the text of a list of pairs, however it is spelled, is loaded as
the pairs that survive, and every list in whose texts no two halves stand next to each other has
such a text. -/
theorem load_outcome :
    load none = .ok [] ∧
      (∀ s, Text.isAllSpacing s = true → load (some s) = .ok []) ∧
      (∀ s es, ObjectText es s.toList →
        ((∃ m, load (some s) = .ok m) ↔ ∀ e ∈ survivors es, isText e.2 = true) ∧
        (∀ m, load (some s) = .ok m ↔ written m = survivors es) ∧
        ((∃ e ∈ survivors es, isText e.2 = false) →
          ∃ keys, load (some s) = .error (.refused (.notStrings keys)) ∧ Ascending keys ∧
            ∀ k, k ∈ keys ↔ ∃ d, (k, d) ∈ survivors es ∧ isText d = false)) ∧
      (∀ s d, Text.isAllSpacing s = false → Denotes d s.toList →
        (∀ entries, d ≠ .record entries) →
          load (some s) = .error (.refused (.notObject d.typeName))) ∧
      (∀ s, Text.isAllSpacing s = false → (∀ d, ¬Denotes d s.toList) →
        (∃ c line column, Json.readText s = .error (.malformed c line column) ∧
            load (some s) = .error (.refused (.notJson c line column))) ∨
          ∃ limit, Json.readText s = .error (.beyond limit) ∧
            load (some s) = .error (.beyond limit) ∧ ¬Json.Within Json.maxDepth s.toList) ∧
      (∀ s m, Text.isAllSpacing s = false → load (some s) = .ok m →
        ∃ es, ObjectText es s.toList ∧ written m = survivors es) ∧
      (∀ s pairs, ObjectText (written pairs) s.toList → load (some s) = .ok (survivors pairs)) ∧
      ∀ pairs, (∀ e ∈ pairs, Json.Apart e.1 ∧ Json.Apart e.2) →
        ∃ s : String, ObjectText (written pairs) s.toList := by
  refine ⟨rfl, fun s hblank => (Accepts.blank hblank).load_eq,
    fun s es h => ⟨?_, fun m => load_eq_ok_iff_of_objectText h, fun hoffends => ?_⟩,
    fun s d hnonblank hdenotes hrecord => ?_, fun s => load_of_not_denotes,
    fun s m hnonblank => exists_objectText hnonblank, fun s pairs h => ?_, fun pairs hpairs => ?_⟩
  · simp only [load_eq_ok_iff_of_objectText h]
    rw [exists_written_iff, offending_eq_nil_iff]
  · refine exists_load_eq_notStrings h fun hnone => ?_
    obtain ⟨e, he, hnot⟩ := hoffends
    rw [offending_eq_nil_iff.mp hnone e he] at hnot
    exact absurd hnot nofun
  · exact (Refuses.notObject hnonblank (Json.readText_eq_ok_iff.mpr hdenotes) hrecord).load_eq
  · exact (load_eq_ok_iff_of_objectText h).mpr (survivors_written pairs).symm
  · refine ⟨Json.write Json.spaced (.record (written pairs)), Json.objectText_write
      Json.legible_spaced fun e he => ?_⟩
    obtain ⟨pair, hpair, rfl⟩ := List.mem_map.mp he
    obtain ⟨hkey, hvalue⟩ := hpairs pair hpair
    refine ⟨hkey, .text ?_⟩
    rw [Json.write]
    exact Json.quoted_writeText hvalue

/-- A value that does not survive makes no difference, and the key keeps its first place. -/
example : load (some "\x7b\"b\": 1, \"a\": \"x\", \"b\": \"y\"\x7d") =
    .ok [(Text.ofString "b", Text.ofString "y"), (Text.ofString "a", Text.ofString "x")] := by
  decide +kernel

end RoleMapping

end FederatedLogin
