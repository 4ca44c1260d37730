import FederatedLogin.Proofs.Terminal.Lines
import FederatedLogin.Terminal.Table

/-!
# What becomes of tables

The texts of a table are read as markup one by one, so a table is printed exactly if all of them can
be read (`exists_print_iff`). It is drawn with lines and blanks around their lines, and so a table
of texts without lone surrogates is printed without any (`whole_print`).
-/

namespace FederatedLogin.Terminal

variable {ε α β γ : Type} {t : Text} {ts : List Text}

/-! ### Results of many texts -/

/-- A list is mapped without an error exactly when each of its members is. -/
theorem exists_mapM_iff {f : α → Except ε β} {l : List α} :
    (∃ bs, l.mapM f = .ok bs) ↔ ∀ a ∈ l, ∃ b, f a = .ok b := by
  induction l with
  | nil => exact ⟨fun _ _ ha => absurd ha List.not_mem_nil, fun _ => ⟨[], rfl⟩⟩
  | cons a l ih =>
    rw [List.mapM_cons, List.forall_mem_cons, ← ih]
    constructor
    · rintro ⟨bs, h⟩
      obtain ⟨b, hb, h⟩ := bind_eq_ok.mp h
      obtain ⟨rest, hrest, -⟩ := bind_eq_ok.mp h
      exact ⟨⟨b, hb⟩, rest, hrest⟩
    · rintro ⟨⟨b, hb⟩, rest, hrest⟩
      exact ⟨b :: rest, by rw [hb, hrest]; rfl⟩

theorem of_mem_mapM {f : α → Except ε β} {l : List α} {bs : List β}
    (h : l.mapM f = .ok bs) : ∀ b ∈ bs, ∃ a ∈ l, f a = .ok b := by
  induction l generalizing bs with
  | nil =>
    obtain rfl := Except.ok.inj h
    exact fun _ hb => absurd hb List.not_mem_nil
  | cons a l ih =>
    rw [List.mapM_cons] at h
    obtain ⟨b, hb, h⟩ := bind_eq_ok.mp h
    obtain ⟨rest, hrest, h⟩ := bind_eq_ok.mp h
    obtain rfl := Except.ok.inj h
    refine List.forall_mem_cons.mpr ⟨⟨a, List.mem_cons_self, hb⟩, fun b' hb' => ?_⟩
    obtain ⟨a', ha', hb'⟩ := ih hrest b' hb'
    exact ⟨a', List.mem_cons_of_mem a ha', hb'⟩

theorem forall_mem_zipWith {f : α → β → γ} {P : γ → Prop} {l : List α} {l' : List β}
    (h : ∀ a ∈ l, ∀ b ∈ l', P (f a b)) : ∀ c ∈ List.zipWith f l l', P c := by
  rw [← List.map_uncurry_zip_eq_zipWith]
  simp only [List.mem_map]
  rintro _ ⟨⟨a, b⟩, hmem, rfl⟩
  exact h a (List.of_mem_zip hmem).1 b (List.of_mem_zip hmem).2

namespace Table

variable {table : Table} {lines : List Text}

/-! ### Reading the texts -/

/-- The texts of a column, its header first. -/
def column (t : Table) (c : Column × Nat) : List Text :=
  c.1.header :: t.rows.map fun r => r.getD c.2 []

/-- With a readable title, a table is printed exactly if the markup in all its columns can be
read. -/
theorem exists_print_iff (htitle : ∃ u, unmarked table.title = .ok u) :
    (∃ lines, table.print = .ok lines) ↔
      ∀ c ∈ table.columns.zipIdx, ∀ cell ∈ table.column c, ∃ u, unmarked cell = .ok u := by
  have htexts : (∃ cells, table.texts = .ok cells) ↔
      ∀ c ∈ table.columns.zipIdx, ∀ cell ∈ table.column c, ∃ u, unmarked cell = .ok u := by
    simp only [← exists_mapM_iff]
    exact Iff.rfl
  rw [← htexts]
  constructor
  · rintro ⟨lines, h⟩
    obtain ⟨cells, hcells, -⟩ := bind_eq_ok.mp h
    exact ⟨cells, hcells⟩
  · rintro ⟨cells, hcells⟩
    obtain ⟨title, htitle⟩ := htitle
    exact ⟨_, bind_eq_ok.mpr ⟨cells, hcells, bind_eq_ok.mpr ⟨title, htitle, rfl⟩⟩⟩

/-! ### Drawing the lines -/

theorem whole_joinWith {separator : Text} (hs : Whole separator) (h : ∀ t ∈ ts, Whole t) :
    Whole (joinWith separator ts) := by
  fun_induction joinWith separator ts with
  | case1 => exact fun _ hp => absurd hp List.not_mem_nil
  | case2 t => exact h t List.mem_cons_self
  | case3 t rest _ ih =>
    obtain ⟨ht, hrest⟩ := List.forall_mem_cons.mp h
    exact whole_append.mpr ⟨whole_append.mpr ⟨ht, hs⟩, ih hrest⟩

theorem whole_getD (h : ∀ t ∈ ts, Whole t) (i : Nat) : Whole (ts.getD i []) := by
  rw [List.getD_eq_getElem?_getD]
  rcases hget : ts[i]? with _ | t
  · exact fun _ hp => absurd hp List.not_mem_nil
  · exact h t (List.mem_of_getElem? hget)

/-- The lines of a cell have no surrogates unless its text has one. -/
theorem whole_cellLines (h : Whole t) (n : Nat) (c : Column) : ∀ l ∈ cellLines n c t, Whole l := by
  simp only [cellLines, List.mem_map]
  rintro _ ⟨l, hl, rfl⟩
  have hline := (h.wrap _ _ _ _ l hl).fitTo (n - 2)
  exact (whole_append.mpr
    ⟨whole_append.mpr ⟨whole_blanks 1, hline⟩, whole_blanks 1⟩).fitTo n

theorem whole_rowLines {cells : List (List Text)} (h : ∀ ls ∈ cells, ∀ l ∈ ls, Whole l)
    (vertical : Char) (header : Bool) (widths : List Nat) :
    ∀ l ∈ rowLines vertical header widths cells, Whole l := by
  simp only [rowLines, List.mem_map]
  rintro _ ⟨i, -, rfl⟩
  refine (whole_cons vertical).mpr (whole_append.mpr ⟨?_, whole_map_char [vertical]⟩)
  refine whole_joinWith (whole_map_char [vertical]) ?_
  rw [List.forall_mem_map]
  refine forall_mem_zipWith fun n _ lines hlines => whole_getD ?_ i
  have hmissing (k : Nat) : ∀ l ∈ List.replicate k (blanks n), Whole l :=
    fun l hl => List.eq_of_mem_replicate hl ▸ whole_blanks n
  split
  · exact List.forall_mem_append.mpr ⟨hmissing _, h lines hlines⟩
  · exact List.forall_mem_append.mpr ⟨h lines hlines, hmissing _⟩

theorem whole_horizontal (left body crossing right : Char) (widths : List Nat) :
    Whole (horizontal left body crossing right widths) := by
  refine (whole_cons left).mpr (whole_append.mpr ⟨?_, whole_map_char [right]⟩)
  refine whole_joinWith (whole_map_char [crossing]) ?_
  rw [List.forall_mem_map]
  exact fun n _ => whole_replicate n body

/-- A table whose texts have no lone surrogates is printed without any. -/
theorem whole_print (htitle : Whole table.title)
    (hcells : ∀ c ∈ table.columns.zipIdx, ∀ cell ∈ table.column c, Whole cell)
    (h : table.print = .ok lines) : ∀ l ∈ lines, Whole l := by
  obtain ⟨cells, htexts, h⟩ := bind_eq_ok.mp h
  obtain ⟨title, hread, h⟩ := bind_eq_ok.mp h
  obtain rfl := Except.ok.inj h
  have hcolumns : ∀ texts ∈ cells, ∀ text ∈ texts, Whole text := by
    intro texts hmem text htext
    obtain ⟨c, hc, hcolumn⟩ := of_mem_mapM htexts texts hmem
    obtain ⟨cell, hcell, hunmarked⟩ := of_mem_mapM hcolumn text htext
    exact (hcells c hc cell hcell).of_unmarked hunmarked
  have hrow (vertical : Char) (header : Bool) (widths : List Nat) (i : Nat) :
      ∀ l ∈ rowLines vertical header widths (List.zipWith (fun n (c : Column × List Text) =>
        cellLines n c.1 (c.2.getD i [])) widths (table.columns.zip cells)), Whole l := by
    refine whole_rowLines (forall_mem_zipWith fun n _ c hc => ?_) vertical header widths
    exact whole_cellLines (whole_getD (hcolumns c.2 (List.of_mem_zip hc).2) i) n c.1
  -- The title, the line above, the header, the line under it, the rows and the line below.
  simp only [List.forall_mem_append, List.forall_mem_singleton]
  have hline (left body crossing right : Char) (widths : List Nat) :=
    whole_horizontal left body crossing right widths
  refine ⟨⟨⟨⟨⟨?_, hline _ _ _ _ _⟩, hrow _ _ _ _⟩, hline _ _ _ _ _⟩, ?_⟩, hline _ _ _ _ _⟩
  · exact (htitle.of_unmarked hread).wrap _ _ _ _
  · intro l hl
    obtain ⟨i, -, hl⟩ := List.mem_flatMap.mp hl
    exact hrow _ _ _ _ l hl

/-- A table prints at least a line. -/
theorem ne_nil_of_print (h : table.print = .ok lines) : lines ≠ [] := by
  obtain ⟨cells, -, h⟩ := bind_eq_ok.mp h
  obtain ⟨title, -, h⟩ := bind_eq_ok.mp h
  obtain rfl := Except.ok.inj h
  exact List.append_ne_nil_of_right_ne_nil _ (List.cons_ne_nil _ _)

end Table

end FederatedLogin.Terminal
