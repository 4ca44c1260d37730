import FederatedLogin.Command
import FederatedLogin.Proofs.Command.Printing
import FederatedLogin.Proofs.RoleMapping.Loading
import FederatedLogin.Proofs.Terminal.Tables

/-!
# Which role mappings are reported

`Reported` says what a report of a provider is: one line if it has no mapping, the table of its
mapping, or the message of a refusal. External roles and slugs stand in the cells of the table as
they are, and offending keys in the message, so a report can only be printed (`Legible`) if their
markup can be read (`Readable`) and the lines can be encoded. At the first provider where that fails
the command ends (`exec_showEach_error`); where it fails for none, all reports are printed and the
exit code says whether a mapping is refused (`exec_showEach_ok`).

What the command itself puts around these texts can always be read: the line for no mapping stands
for itself (`print_unconfigured`), and no bracket is in the message of a refusal unless an offending
key has one (`notMem_message`). So a report without tags is readable (`Plain.readable`).
-/

namespace FederatedLogin.Command

open FederatedLogin.Terminal FederatedLogin.Text Printing
open RoleMapping (Accepts Refuses Beyond)

variable {s : Settings} {p : Provider} {m : RoleMapping} {r : RoleMapping.Refusal}

/-! ### What is reported of a provider -/

/-- The line that reports a provider without a mapping. -/
def unconfiguredLine (s : Settings) (p : Provider) : String :=
  s!"{providerState s p}: no role mapping configured"

/-- What the report of a refusal says behind the name of the provider. -/
def refusalText (s : Settings) (p : Provider) (r : RoleMapping.Refusal) : String :=
  let state := if s.enabled p then "enabled" else "disabled"
  s!" ({state}): {p.mappingKey} is invalid: {r.message}"

/-- The lines that report a provider. -/
inductive Reported (s : Settings) (p : Provider) : List Text → Prop
  | unconfigured (accepts : Accepts (some (s.mappings.text p)) []) :
      Reported s p [ofString (unconfiguredLine s p)]
  | table {m : RoleMapping} {lines : List Text} (accepts : Accepts (some (s.mappings.text p)) m)
      (nonempty : m ≠ []) (printed : (mappingTable s p m).print = .ok lines) : Reported s p lines
  | invalid {r : RoleMapping.Refusal} {t : Text} (refuses : Refuses (some (s.mappings.text p)) r)
      (read : unmarked (ofString (refusalText s p r)) = .ok t) :
      Reported s p (wrap outputWidth .fold .none false (ofString p.name ++ t))

/-- The report of a provider can be printed. -/
def Legible (s : Settings) (p : Provider) : Prop :=
  ∃ lines : List String, Reported s p (lines.map ofString)

/-- The mapping of the provider is refused. -/
def refused (s : Settings) (p : Provider) : Bool :=
  match RoleMapping.load (some (s.mappings.text p)) with
  | .error (.refused _) => true
  | _ => false

/-! ### Markup of a report -/

theorem ordinary_name (p : Provider) : ∀ q ∈ ofString p.name, Ordinary q := by
  unfold Ordinary Passes Printable
  cases p <;> decide

theorem ordinary_providerState (s : Settings) (p : Provider) :
    ∀ q ∈ ofString (providerState s p), Ordinary q := by
  have hstate : ∀ q ∈ ofString " (" ++ ofString (if s.enabled p then "enabled" else "disabled") ++
      ofString ")", Ordinary q := by
    unfold Ordinary Passes Printable
    cases s.enabled p <;> decide
  have hsplit : ofString (providerState s p) = ofString p.name ++ (ofString " (" ++
      ofString (if s.enabled p then "enabled" else "disabled") ++ ofString ")") := by
    simp only [providerState, ofString_append, toString, List.append_assoc]
  rw [hsplit]
  exact List.forall_mem_append.mpr ⟨ordinary_name p, hstate⟩

/-- The state of a provider fits on a line of its own. -/
theorem length_providerState (s : Settings) (p : Provider) : (providerState s p).length ≤ 19 := by
  have hname : p.name.length ≤ 8 := by cases p <;> decide
  have hstate : (if s.enabled p then "enabled" else "disabled").length ≤ 8 := by
    cases s.enabled p <;> decide
  simp only [providerState, toString, String.length_append]
  have hopen : " (".length = 2 := by decide
  have hclose : ")".length = 1 := by decide
  omega

section Unconfigured

variable (s : Settings) (p : Provider)

/-- The one colon of the line has a blank behind it, so it names no picture. -/
theorem ofString_unconfiguredLine : ofString (unconfiguredLine s p) =
    ofString (providerState s p) ++ .char ':' :: .char ' ' ::
      ofString "no role mapping configured" := by
  simp only [unconfiguredLine, ofString_append, toString]
  rfl

theorem ordinary_unconfigured : ∀ q ∈ ofString "no role mapping configured", Ordinary q := by
  unfold Ordinary Passes Printable
  decide

/-- What holds of ordinary text, a colon and a blank holds of the whole line. -/
theorem forall_mem_unconfiguredLine {P : CodePoint → Prop} (hordinary : ∀ q, Ordinary q → P q)
    (hcolon : P (.char ':')) (hblank : P (.char ' ')) :
    ∀ q ∈ ofString (unconfiguredLine s p), P q := by
  rw [ofString_unconfiguredLine, List.forall_mem_append, List.forall_mem_cons, List.forall_mem_cons]
  exact ⟨fun q hq => hordinary q (ordinary_providerState s p q hq), hcolon, hblank,
    fun q hq => hordinary q (ordinary_unconfigured q hq)⟩

theorem printable_unconfiguredLine : ∀ q ∈ ofString (unconfiguredLine s p), Printable q :=
  forall_mem_unconfiguredLine s p (fun _ hq => hq.2.1) (by unfold Printable; decide)
    (by unfold Printable; decide)

theorem passes_unconfiguredLine : ∀ q ∈ ofString (unconfiguredLine s p), Passes q :=
  forall_mem_unconfiguredLine s p (fun _ hq => hq.1) (by unfold Passes; decide)
    (by unfold Passes; decide)

/-- An unconfigured line is shown as it is written. -/
theorem inert_unconfiguredLine : Inert (ofString (unconfiguredLine s p)) := by
  have hopen : .char '[' ∉ ofString (unconfiguredLine s p) :=
    fun hmem => (passes_unconfiguredLine s p _ hmem).1 rfl
  refine ⟨tagless_of_notMem hopen, fun h => hopen (h.subset (by simp)), ?_⟩
  rw [ofString_unconfiguredLine,
    withPictures_append fun hmem => (ordinary_providerState s p _ hmem).2.2 rfl,
    withPictures_colon_blank,
    withPictures_of_notMem fun hmem => (ordinary_unconfigured _ hmem).2.2 rfl]

/-- Without its tags, the line stands for itself and fits into the output. -/
theorem print_unconfigured :
    print (ofString s!"[dim]{providerState s p}: no role mapping configured[/dim]") =
      .ok [ofString (unconfiguredLine s p)] := by
  have hmarkup : ofString s!"[dim]{providerState s p}: no role mapping configured[/dim]" =
      .char '[' :: (ofString "dim" ++ .char ']' :: (ofString (unconfiguredLine s p) ++
        .char '[' :: .char '/' :: (ofString "dim" ++ .char ']' :: []))) := by
    have hopening : ofString "[dim]" = .char '[' :: (ofString "dim" ++ [.char ']']) := rfl
    have hclosing : ofString ": no role mapping configured[/dim]" =
        ofString ": no role mapping configured" ++
          .char '[' :: .char '/' :: (ofString "dim" ++ [.char ']']) := rfl
    simp only [unconfiguredLine, ofString_append, hopening, hclosing, toString, List.append_assoc,
      List.cons_append, List.nil_append]
  have hunmarked := toOption_unmarked_tagged encloses_dim (passes_unconfiguredLine s p) []
  have hnil : unmarked [] = .ok [] := rfl
  rw [← hmarkup, (inert_unconfiguredLine s p).plainText_eq (printable_unconfiguredLine s p), hnil,
    Except.toOption, Option.map_some, List.append_nil, toOption_eq_some] at hunmarked
  have hlength : (ofString (unconfiguredLine s p)).length ≤ outputWidth := by
    have hstate := length_providerState s p
    have hrest : ": no role mapping configured".length = 28 := by decide
    simp only [ofString, List.length_map, String.length_toList, unconfiguredLine, toString,
      String.length_append, outputWidth]
    omega
  rw [print, hunmarked, Except.map, wrap_of_printable (printable_unconfiguredLine s p) hlength]

end Unconfigured

/-- The report of a refusal prints the name of the provider and what the rest stands for. -/
theorem toOption_print_invalid (s : Settings) (p : Provider) (r : RoleMapping.Refusal) :
    (print (ofString ("[red]" ++ p.name ++ "[/red]" ++ refusalText s p r))).toOption =
      (unmarked (ofString (refusalText s p r))).toOption.map fun t =>
        wrap outputWidth .fold .none false (ofString p.name ++ t) := by
  have hmarkup : ofString ("[red]" ++ p.name ++ "[/red]" ++ refusalText s p r) =
      .char '[' :: (ofString "red" ++ .char ']' :: (ofString p.name ++
        .char '[' :: .char '/' :: (ofString "red" ++ .char ']' ::
          ofString (refusalText s p r)))) := by
    have hopening : ofString "[red]" = .char '[' :: (ofString "red" ++ [.char ']']) := rfl
    have hclosing : ofString "[/red]" =
        .char '[' :: .char '/' :: (ofString "red" ++ [.char ']']) := rfl
    simp only [ofString_append, hopening, hclosing, List.append_assoc, List.cons_append,
      List.nil_append]
  rw [print, toOption_map, hmarkup,
    toOption_unmarked_tagged encloses_red fun q hq => (ordinary_name p q hq).1,
    plainText_of_ordinary (ordinary_name p), Option.map_map]
  rfl

/-! ### The report of one provider -/

theorem refused_of_accepts (h : Accepts (some (s.mappings.text p)) m) : refused s p = false := by
  rw [refused, h.load_eq]

theorem refused_of_refuses (h : Refuses (some (s.mappings.text p)) r) : refused s p = true := by
  rw [refused, h.load_eq]

/-- An accepted mapping without entries is reported as none. -/
theorem showMapping_of_nil (h : Accepts (some (s.mappings.text p)) []) :
    showMapping s p =
      (say (print (ofString s!"[dim]{providerState s p}: no role mapping configured[/dim]")) >>=
        fun _ => pure true) := by
  rw [showMapping, h.load_eq]

/-- An accepted mapping with entries is reported as a table. -/
theorem showMapping_of_ne_nil (h : Accepts (some (s.mappings.text p)) m) (hm : m ≠ []) :
    showMapping s p = (say (mappingTable s p m).print >>= fun _ => pure true) := by
  obtain ⟨e, rest, rfl⟩ := List.exists_cons_of_ne_nil hm
  rw [showMapping, h.load_eq]

/-- A refused mapping is reported in red, with the reason. -/
theorem showMapping_of_refuses (h : Refuses (some (s.mappings.text p)) r) :
    showMapping s p =
      (say (print (ofString ("[red]" ++ p.name ++ "[/red]" ++ refusalText s p r))) >>=
        fun _ => pure false) := by
  have hsplit : "[/red] (" = "[/red]" ++ " (" := by decide
  rw [showMapping, h.load_eq]
  simp only [refusalText, hsplit, toString, String.append_assoc]

/-- A report that can be printed is printed, and says whether the mapping is accepted. -/
theorem exec_showMapping_ok {lines : List String} (h : Reported s p (lines.map ofString))
    (printed : List String) :
    exec (showMapping s p) printed = (.ok (!refused s p), printed ++ lines) := by
  generalize htexts : lines.map ofString = texts at h
  cases h with
  | unconfigured accepts =>
    have hprint := print_unconfigured s p
    rw [← htexts] at hprint
    rw [showMapping_of_nil accepts, exec_bind_ok (exec_say_ok hprint printed),
      refused_of_accepts accepts]
    rfl
  | table accepts nonempty hprint =>
    rw [← htexts] at hprint
    rw [showMapping_of_ne_nil accepts nonempty, exec_bind_ok (exec_say_ok hprint printed),
      refused_of_accepts accepts]
    rfl
  | @invalid r t refuses read =>
    have hprint := toOption_print_invalid s p r
    rw [toOption_eq_some.mpr read, Option.map_some, ← htexts, toOption_eq_some] at hprint
    rw [showMapping_of_refuses refuses, exec_bind_ok (exec_say_ok hprint printed),
      refused_of_refuses refuses]
    rfl

/-- In any other case nothing is printed. -/
theorem exec_showMapping_error (h : ¬Legible s p) :
    ∃ c, ∀ printed, exec (showMapping s p) printed = (.error c, printed) := by
  have hreported : ∀ lines : List String, ¬Reported s p (lines.map ofString) := not_exists.mp h
  rcases RoleMapping.accepts_or_refuses_or_beyond (some (s.mappings.text p)) with
    ⟨m, accepts⟩ | ⟨r, refuses⟩ | ⟨limit, beyond⟩
  · rcases eq_or_ne m [] with rfl | hm
    · exact absurd (.unconfigured accepts) (hreported [unconfiguredLine s p])
    · obtain ⟨c, hc⟩ := exec_say_error fun lines hprint =>
        hreported lines (.table accepts hm hprint)
      refine ⟨c, fun printed => ?_⟩
      rw [showMapping_of_ne_nil accepts hm, exec_bind_error (hc printed)]
  · have hprint : ∀ lines : List String,
        print (ofString ("[red]" ++ p.name ++ "[/red]" ++ refusalText s p r)) ≠
          .ok (lines.map ofString) := by
      intro lines hlines
      have hinvalid := toOption_print_invalid s p r
      rw [hlines] at hinvalid
      obtain ⟨t, ht, hlines⟩ := Option.map_eq_some_iff.mp hinvalid.symm
      exact hreported lines (hlines ▸ .invalid refuses (toOption_eq_some.mp ht))
    obtain ⟨c, hc⟩ := exec_say_error hprint
    refine ⟨c, fun printed => ?_⟩
    rw [showMapping_of_refuses refuses, exec_bind_error (hc printed)]
  · exact ⟨.mapping limit, fun printed => by rw [showMapping, beyond.load_eq]; rfl⟩

/-! ### The reports of many providers -/

/-- The reports of the first providers, one after another. -/
abbrev Reports (s : Settings) : List Provider → List (List String) → Prop :=
  List.Forall₂ fun p lines => Reported s p (lines.map ofString)

variable {ps before : List Provider} {reports : List (List String)}

/-- All reports are printed in order, and the answer says whether no mapping is refused. -/
theorem exec_showEach_ok (h : Reports s ps reports) (printed : List String) :
    exec (showEach s ps) printed = (.ok (!ps.any (refused s)), printed ++ reports.flatten) := by
  induction h generalizing printed with
  | nil => exact congrArg (Prod.mk _) (List.append_nil printed).symm
  | @cons p lines ps reports hp _ ih =>
    rw [showEach, exec_bind_ok (exec_showMapping_ok hp printed), exec_bind_ok (ih _), exec_pure,
      List.any_cons, List.flatten_cons, List.append_assoc, Bool.not_or]

/-- The command ends at the first provider whose report cannot be printed. -/
theorem exec_showEach_error (h : Reports s before reports) (hp : ¬Legible s p)
    (after : List Provider) :
    ∃ c, ∀ printed, exec (showEach s (before ++ p :: after)) printed =
      (.error c, printed ++ reports.flatten) := by
  induction h with
  | nil =>
    obtain ⟨c, hc⟩ := exec_showMapping_error hp
    refine ⟨c, fun printed => ?_⟩
    rw [List.nil_append, showEach, exec_bind_error (hc printed), List.flatten_nil, List.append_nil]
  | @cons q lines before reports hq _ ih =>
    obtain ⟨c, hc⟩ := ih
    refine ⟨c, fun printed => ?_⟩
    rw [List.cons_append, showEach, exec_bind_ok (exec_showMapping_ok hq printed),
      exec_bind_error (hc _), List.flatten_cons, List.append_assoc]

/-! ### Reports that can be printed -/

/-- The mapping text of the provider is within the limits, and the markup of what is reported of it
can be read. -/
inductive Readable (s : Settings) (p : Provider) : Prop
  | accepted {m : RoleMapping} (accepts : Accepts (some (s.mappings.text p)) m)
      (texts : ∀ e ∈ m, (∃ t, unmarked e.1 = .ok t) ∧ ∃ t, unmarked e.2 = .ok t)
  | refused {r : RoleMapping.Refusal} (refuses : Refuses (some (s.mappings.text p)) r)
      (message : ∃ t, unmarked (ofString (refusalText s p r)) = .ok t)

/-- No external role and no slug of an accepted mapping has a lone surrogate. -/
def Encodable (s : Settings) (p : Provider) : Prop :=
  ∀ m, Accepts (some (s.mappings.text p)) m → ∀ e ∈ m, Whole e.1 ∧ Whole e.2

theorem exists_unmarked_of_tagless {t : Text} (h : Tagless t) : ∃ u, unmarked t = .ok u :=
  ⟨_, unmarked_of_tagless h⟩

/-- The cells of the table are its two titles and, for each entry, the name and the role. -/
theorem forall_mem_mappingTable {P : Text → Prop} :
    (∀ c ∈ (mappingTable s p m).columns.zipIdx, ∀ cell ∈ (mappingTable s p m).column c, P cell) ↔
      P (ofString "External role") ∧ P (ofString "Local role") ∧
        ∀ e ∈ m, P e.1 ∧ P (orDash e.2) := by
  simp only [mappingTable, List.zipIdx_cons, List.zipIdx_nil, List.forall_mem_cons, Table.column,
    List.map_map, List.forall_mem_map, List.mem_mergeSort]
  constructor
  · rintro ⟨⟨hrole, hroles⟩, ⟨hslug, hslugs⟩, -⟩
    exact ⟨hrole, hslug, fun e he => ⟨hroles e he, hslugs e he⟩⟩
  · rintro ⟨hrole, hslug, hall⟩
    exact ⟨⟨hrole, fun e he => (hall e he).1⟩, ⟨hslug, fun e he => (hall e he).2⟩,
      List.forall_mem_nil _⟩

theorem exists_unmarked_orDash {t : Text} :
    (∃ u, unmarked (orDash t) = .ok u) ↔ ∃ u, unmarked t = .ok u := by
  rcases t with _ | ⟨q, t⟩
  · exact iff_of_true (exists_unmarked_of_tagless (tagless_of_notMem (by decide)))
      (exists_unmarked_of_tagless tagless_nil)
  · rfl

/-- The table of a mapping can be drawn exactly if the markup of all of its texts can be read. -/
theorem exists_print_mappingTable_iff :
    (∃ lines, (mappingTable s p m).print = .ok lines) ↔
      ∀ e ∈ m, (∃ t, unmarked e.1 = .ok t) ∧ ∃ t, unmarked e.2 = .ok t := by
  have htitle : .char '[' ∉ (mappingTable s p m).title := by
    have hstate : .char '[' ∉ ofString (providerState s p) :=
      fun hmem => (ordinary_providerState s p _ hmem).1.1 rfl
    have hkey : .char '[' ∉ ofString (" (" ++ p.mappingKey ++ ")") := by cases p <;> decide
    have hsplit : (mappingTable s p m).title =
        ofString (providerState s p) ++ ofString (" (" ++ p.mappingKey ++ ")") :=
      ofString_append _ _
    rw [hsplit, List.mem_append, not_or]
    exact ⟨hstate, hkey⟩
  rw [Table.exists_print_iff (exists_unmarked_of_tagless (tagless_of_notMem htitle)),
    forall_mem_mappingTable (P := fun cell => ∃ t, unmarked cell = .ok t),
    and_iff_right (exists_unmarked_of_tagless (tagless_of_notMem (by decide))),
    and_iff_right (exists_unmarked_of_tagless (tagless_of_notMem (by decide)))]
  simp only [exists_unmarked_orDash]

/-- The lines of the table have no lone surrogates unless the mapping has one. -/
theorem whole_print_mappingTable (h : ∀ e ∈ m, Whole e.1 ∧ Whole e.2) {texts : List Text}
    (hprint : (mappingTable s p m).print = .ok texts) : ∀ l ∈ texts, Whole l := by
  have hdash : ∀ e ∈ m, Whole (orDash e.2) := by
    intro e he
    rw [orDash]
    split
    · exact whole_ofString _
    · exact (h e he).2
  exact Table.whole_print (whole_ofString _) (forall_mem_mappingTable.mpr
    ⟨whole_ofString _, whole_ofString _, fun e he => ⟨(h e he).1, hdash e he⟩⟩) hprint

/-- Only readable reports are printed. -/
theorem Legible.readable (h : Legible s p) : Readable s p := by
  obtain ⟨lines, h⟩ := h
  generalize lines.map ofString = texts at h
  cases h with
  | unconfigured accepts => exact .accepted accepts (List.forall_mem_nil _)
  | table accepts _ printed =>
    exact .accepted accepts (exists_print_mappingTable_iff.mp ⟨_, printed⟩)
  | invalid refuses read => exact .refused refuses ⟨_, read⟩

/-- Cells that can be read and written can be printed. -/
theorem Readable.legible (h : Readable s p) (hencodable : Encodable s p) : Legible s p := by
  cases h with
  | @accepted m accepts htexts =>
    rcases eq_or_ne m [] with rfl | hm
    · exact ⟨[unconfiguredLine s p], .unconfigured accepts⟩
    · obtain ⟨texts, hprint⟩ := exists_print_mappingTable_iff.mpr htexts
      have hwhole := whole_print_mappingTable (hencodable m accepts) hprint
      obtain ⟨lines, rfl⟩ := forall_whole_iff.mp hwhole
      exact ⟨lines, .table accepts hm hprint⟩
  | @refused r refuses hmessage =>
    obtain ⟨t, hread⟩ := hmessage
    have hwhole := whole_append.mpr
      ⟨whole_ofString p.name, (whole_ofString (refusalText s p r)).of_unmarked hread⟩
    obtain ⟨lines, hlines⟩ := forall_whole_iff.mp (hwhole.wrap outputWidth .fold .none false)
    exact ⟨lines, hlines ▸ .invalid refuses hread⟩

/-! ### Reports without brackets -/

/-- The mapping text of the provider is within the limits, and nothing in it that is reported is
taken for a tag. -/
structure Plain (s : Settings) (p : Provider) : Prop where
  within : ∀ limit, ¬Beyond (some (s.mappings.text p)) limit
  accepted : ∀ m, Accepts (some (s.mappings.text p)) m → ∀ e ∈ m, Tagless e.1 ∧ Tagless e.2
  refused : ∀ keys, Refuses (some (s.mappings.text p)) (.notStrings keys) → ∀ k ∈ keys,
    .char '[' ∉ k

theorem notMem_append {a b : String} :
    '[' ∉ (a ++ b).toList ↔ '[' ∉ a.toList ∧ '[' ∉ b.toList := by
  rw [String.toList_append, List.mem_append, not_or]

theorem notMem_repr (n : Nat) : '[' ∉ n.repr.toList := by
  rw [Nat.toList_repr]
  exact fun h => absurd (Nat.isDigit_of_mem_toDigits (by decide) (by decide) h) (by decide)

theorem notMem_hex (width n : Nat) : '[' ∉ hex width n := by
  have hdigit : ∀ v < 16, hexDigit v ≠ '[' := by decide
  simp only [hex, List.mem_map, not_exists, not_and]
  exact fun i _ => hdigit _ (Nat.mod_lt _ (by decide))

/-- Quoting a code point brings in no bracket. -/
theorem notMem_quotedPoint (q : Char) {c : CodePoint} (hc : c ≠ .char '[') :
    '[' ∉ quotedPoint q c := by
  have hhex := notMem_hex
  rw [quotedPoint.eq_def]
  split
  · decide
  · decide
  · decide
  · rename_i x _ _ _
    have hx : '[' ≠ x := fun h => hc (h ▸ rfl)
    split
    · simpa using hx
    · split
      · simpa using hx
      · split
        · simp [hhex]
        · split <;> simp [hhex]
  · simp [hhex]

/-- Quoting a text brings in no bracket. -/
theorem notMem_quoted {t : Text} (h : .char '[' ∉ t) : '[' ∉ (quoted t).toList := by
  have hquote : ∀ single double, quoteFor single double ≠ '[' := by decide
  rw [quoted, String.toList_ofList, quotedChars]
  simp only [List.mem_cons, List.mem_append, List.mem_flatMap, List.not_mem_nil, or_false, not_or,
    not_exists, not_and]
  refine ⟨(hquote _ _).symm, fun c hc => ?_, (hquote _ _).symm⟩
  exact notMem_quotedPoint _ fun h' => h (h' ▸ hc)

theorem notMem_intercalate {ss : List String} (h : ∀ s ∈ ss, '[' ∉ s.toList) :
    '[' ∉ (", ".intercalate ss).toList := by
  induction ss with
  | nil => decide
  | cons s ss ih =>
    obtain ⟨hs, hss⟩ := List.forall_mem_cons.mp h
    cases ss with
    | nil => simpa using hs
    | cons s' ss =>
      rw [String.intercalate_cons_cons, notMem_append, notMem_append]
      exact ⟨⟨hs, by decide⟩, ih hss⟩

/-- There is no bracket in the message of a refusal, unless an offending key has one. -/
theorem notMem_message {source : Option String} (hr : Refuses source r)
    (h : ∀ keys, r = .notStrings keys → ∀ k ∈ keys, .char '[' ∉ k) :
    '[' ∉ r.message.toList := by
  cases hr with
  | @notJson _ c line column =>
    have hcomplaint : '[' ∉ c.message.toList := by cases c <;> decide +kernel
    have hmessage : (RoleMapping.Refusal.notJson c line column).message = "invalid JSON: " ++
        (c.message ++ " (line " ++ line.repr ++ ", column " ++ column.repr ++ ")") := rfl
    rw [hmessage]
    simp only [notMem_append]
    exact ⟨by decide, ⟨⟨⟨⟨hcomplaint, by decide⟩, notMem_repr line⟩, by decide⟩,
      notMem_repr column⟩, by decide⟩
  | @notObject _ d =>
    have htype : '[' ∉ d.typeName.toList := by cases d <;> (rw [Datum.typeName]; decide)
    have hmessage : (RoleMapping.Refusal.notObject d.typeName).message =
        "expected a JSON object, got " ++ d.typeName := rfl
    rw [hmessage, notMem_append]
    exact ⟨by decide, htype⟩
  | @notStrings _ entries =>
    have hkeys := h _ rfl
    have hmessage (keys : List Text) : (RoleMapping.Refusal.notStrings keys).message =
        "role slugs must be strings (offending keys: " ++ ", ".intercalate (keys.map quoted) ++
          ")" := rfl
    have hquoted := notMem_intercalate (List.forall_mem_map.mpr fun k hk =>
      notMem_quoted (hkeys k hk))
    rw [hmessage, notMem_append, notMem_append]
    exact ⟨⟨by decide +kernel, hquoted⟩, by decide⟩

/-- Around its message a refusal has no bracket. -/
theorem notMem_refusalText (h : '[' ∉ r.message.toList) : '[' ∉ (refusalText s p r).toList := by
  have hstate : '[' ∉ (if s.enabled p then "enabled" else "disabled").toList := by
    cases s.enabled p <;> decide
  have hkey : '[' ∉ p.mappingKey.toList := by cases p <;> decide
  have hsplit : refusalText s p r = " (" ++ (if s.enabled p then "enabled" else "disabled") ++
      "): " ++ p.mappingKey ++ " is invalid: " ++ r.message := rfl
  rw [hsplit]
  simp only [notMem_append]
  exact ⟨⟨⟨⟨⟨by decide, hstate⟩, by decide⟩, hkey⟩, by decide⟩, h⟩

/-- A plain report can be read. -/
theorem Plain.readable (h : Plain s p) : Readable s p := by
  rcases RoleMapping.accepts_or_refuses_or_beyond (some (s.mappings.text p)) with
    ⟨m, accepts⟩ | ⟨r, refuses⟩ | ⟨limit, beyond⟩
  · refine .accepted accepts fun e he => ?_
    have htagless := h.accepted m accepts e he
    exact ⟨exists_unmarked_of_tagless htagless.1, exists_unmarked_of_tagless htagless.2⟩
  · have hmessage : '[' ∉ r.message.toList :=
      notMem_message refuses fun keys hkeys => h.refused keys (hkeys ▸ refuses)
    have htext : .char '[' ∉ ofString (refusalText s p r) := by
      simpa [ofString] using notMem_refusalText (s := s) (p := p) hmessage
    exact .refused refuses (exists_unmarked_of_tagless (tagless_of_notMem htext))
  · exact absurd beyond (h.within limit)

/-! ### The outcome -/

/-- The providers asked for; without any, all of them. -/
def chosen (selected : List Provider) : List Provider :=
  if selected.isEmpty then Provider.all else selected

/-- Where every mapping can be printed there is a report of each. -/
theorem exists_reports (h : ∀ p ∈ ps, Legible s p) : ∃ reports, Reports s ps reports := by
  induction ps with
  | nil => exact ⟨[], .nil⟩
  | cons p ps ih =>
    obtain ⟨⟨lines, hp⟩, hps⟩ := List.forall_mem_cons.mp h
    obtain ⟨reports, hreports⟩ := ih hps
    exact ⟨lines :: reports, .cons hp hreports⟩

/-- There is a first one among the providers whose report cannot be printed. -/
theorem exists_first_illegible (h : ∃ p ∈ ps, ¬Legible s p) :
    ∃ before p after, ps = before ++ p :: after ∧ (∀ q ∈ before, Legible s q) ∧ ¬Legible s p := by
  induction ps with
  | nil => exact absurd h (by simp)
  | cons p ps ih =>
    by_cases hp : Legible s p
    · obtain ⟨q, hq, hillegible⟩ := h
      have hq : q ∈ ps := (List.mem_cons.mp hq).resolve_left fun heq => hillegible (heq ▸ hp)
      obtain ⟨before, q, after, rfl, hbefore, hillegible⟩ := ih ⟨q, hq, hillegible⟩
      exact ⟨p :: before, q, after, rfl, List.forall_mem_cons.mpr ⟨hp, hbefore⟩, hillegible⟩
    · exact ⟨[], p, ps, rfl, List.forall_mem_nil _, hp⟩

/-- A report has a line at least. -/
theorem Reported.ne_nil {lines : List Text} (h : Reported s p lines) : lines ≠ [] := by
  cases h with
  | unconfigured => exact List.cons_ne_nil _ _
  | table _ _ printed => exact Table.ne_nil_of_print printed
  | invalid => exact wrap_ne_nil

theorem nil_notMem_reports (h : Reports s ps reports) : [] ∉ reports := by
  induction h with
  | nil => exact List.not_mem_nil
  | @cons p lines _ _ hp _ ih =>
    have hlines : lines ≠ [] := fun hnil => hp.ne_nil (hnil ▸ rfl)
    rw [List.mem_cons, not_or]
    exact ⟨hlines.symm, ih⟩

/-- If the reports of all chosen providers can be printed, they are, one after another, and the exit
code is 1 exactly if one of the mappings is refused. Else those in front of the first one that
cannot be printed are, and nothing more. Lone surrogates aside, a report can be printed exactly if
its markup can be read; that is so for a mapping text within the limits without tags in what is
reported of it. -/
theorem showMappings_outcome (s : Settings) (selected : List Provider) :
    ((∀ p ∈ chosen selected, Legible s p) →
      ∃ reports, Reports s (chosen selected) reports ∧ [] ∉ reports ∧
        run (showMappings s selected) =
          (.ok (if (chosen selected).any (refused s) then 1 else 0), reports.flatten)) ∧
    ((∃ p ∈ chosen selected, ¬Legible s p) →
      ∃ before p after reports c, chosen selected = before ++ p :: after ∧ ¬Legible s p ∧
        Reports s before reports ∧ [] ∉ reports ∧
        run (showMappings s selected) = (.error c, reports.flatten)) ∧
    (∀ p, Encodable s p → (Legible s p ↔ Readable s p)) ∧ ∀ p, Plain s p → Readable s p := by
  refine ⟨fun h => ?_, fun h => ?_, fun p hencodable => ?_, fun p => Plain.readable⟩
  · obtain ⟨reports, hreports⟩ := exists_reports h
    refine ⟨reports, hreports, nil_notMem_reports hreports, ?_⟩
    have heach := exec_showEach_ok hreports []
    rw [run_eq, showMappings, ← chosen, exec_bind_ok heach, exec_pure, List.nil_append]
    cases (chosen selected).any (refused s) <;> rfl
  · obtain ⟨before, p, after, hsplit, hbefore, hillegible⟩ := exists_first_illegible h
    obtain ⟨reports, hreports⟩ := exists_reports hbefore
    obtain ⟨c, hc⟩ := exec_showEach_error hreports hillegible after
    refine ⟨before, p, after, reports, c, hsplit, hillegible, hreports,
      nil_notMem_reports hreports, ?_⟩
    rw [run_eq, showMappings, ← chosen, hsplit, exec_bind_error (hc []), List.nil_append]
  · exact ⟨Legible.readable, fun h => h.legible hencodable⟩

/-- One mapping that is accepted and one that is refused. -/
def mixed : Settings where
  mappings := { postgres := "\x7b\"opsAdmin\": \"admin\"\x7d", oidc := "\x7bnot json" }

/-- A mapping with an external role that is a closing tag. -/
def closing : Settings where
  mappings := { oidc := "\x7b\"[/]\": \"admin\"\x7d" }

theorem load_mixed : RoleMapping.load (some (mixed.mappings.text .postgres)) =
      .ok [(ofString "opsAdmin", ofString "admin")] ∧
    RoleMapping.load (some (mixed.mappings.text .oidc)) =
      .error (.refused (.notJson .expectingKey 1 2)) := by
  decide +kernel

theorem plain_mixed : ∀ p ∈ [Provider.postgres, .oidc], Encodable mixed p ∧ Plain mixed p := by
  have hnames : .char '[' ∉ ofString "opsAdmin" ∧ .char '[' ∉ ofString "admin" := by decide
  have hpostgres : Encodable mixed .postgres ∧ Plain mixed .postgres := by
    have hload := load_mixed.1
    refine ⟨fun m accepts => ?_, fun limit h => absurd (h.load_eq.symm.trans hload) nofun,
      fun m accepts => ?_, fun keys refuses => absurd (refuses.load_eq.symm.trans hload) nofun⟩
    all_goals
      obtain rfl := Except.ok.inj (accepts.load_eq.symm.trans hload)
      rw [List.forall_mem_singleton]
    · exact ⟨whole_ofString _, whole_ofString _⟩
    · exact ⟨tagless_of_notMem hnames.1, tagless_of_notMem hnames.2⟩
  have hoidc : Encodable mixed .oidc ∧ Plain mixed .oidc := by
    have hload := load_mixed.2
    exact ⟨fun m accepts => absurd (accepts.load_eq.symm.trans hload) nofun,
      fun limit h => absurd (h.load_eq.symm.trans hload) nofun,
      fun m accepts => absurd (accepts.load_eq.symm.trans hload) nofun,
      fun keys refuses => absurd (refuses.load_eq.symm.trans hload) nofun⟩
  exact List.forall_mem_cons.mpr ⟨hpostgres, List.forall_mem_singleton.mpr hoidc⟩

/-- The first mapping is shown and the second one reported, so the exit code is 1. -/
theorem showMappings_outcome_mixed : (∀ p ∈ chosen [.postgres, .oidc], Legible mixed p) ∧
    ∃ reports, Reports mixed [.postgres, .oidc] reports ∧ [] ∉ reports ∧
      run (showMappings mixed [.postgres, .oidc]) = (.ok 1, reports.flatten) := by
  have hrefused : [Provider.postgres, .oidc].any (refused mixed) = true :=
    List.any_eq_true.mpr ⟨.oidc, by simp, by rw [refused, load_mixed.2]⟩
  have hchosen : chosen [.postgres, .oidc] = [.postgres, .oidc] := rfl
  obtain ⟨hprinted, -, hreadable, hplain⟩ := showMappings_outcome mixed [.postgres, .oidc]
  rw [hchosen, hrefused, if_pos rfl] at hprinted
  rw [hchosen]
  have hlegible : ∀ p ∈ [Provider.postgres, .oidc], Legible mixed p := fun p hp =>
    (hreadable p (plain_mixed p hp).1).mpr (hplain p (plain_mixed p hp).2)
  exact ⟨hlegible, hprinted hlegible⟩

theorem load_closing : RoleMapping.load (some (closing.mappings.text .oidc)) =
    .ok [(ofString "[/]", ofString "admin")] := by
  decide +kernel

/-- A closing tag without an opening one cannot be printed. -/
theorem not_legible_closing : ¬Legible closing .oidc := by
  have hunmarked : unmarked (ofString "[/]") = .error (.nothingOpen 0) := rfl
  intro h
  cases h.readable with
  | accepted accepts texts =>
    obtain rfl := Except.ok.inj (accepts.load_eq.symm.trans load_closing)
    obtain ⟨t, ht⟩ := (texts _ List.mem_cons_self).1
    exact absurd (hunmarked.symm.trans ht) nofun
  | refused refuses => exact absurd (refuses.load_eq.symm.trans load_closing) nofun

/-- The accepted mapping is not reported: its external role is taken for a closing tag. -/
theorem showMappings_closing :
    (∃ m, RoleMapping.load (some (closing.mappings.text .oidc)) = .ok m) ∧
      ∃ c, run (showMappings closing [.oidc]) = (.error c, []) := by
  obtain ⟨c, hc⟩ := exec_showEach_error .nil not_legible_closing []
  have hchosen : chosen [.oidc] = [] ++ Provider.oidc :: [] := rfl
  refine ⟨⟨_, load_closing⟩, c, ?_⟩
  rw [run_eq, showMappings, ← chosen, hchosen, exec_bind_error (hc []), List.flatten_nil,
    List.append_nil]

end FederatedLogin.Command
