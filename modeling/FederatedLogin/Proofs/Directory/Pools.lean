import FederatedLogin.Directory
import FederatedLogin.Proofs.Results
import Mathlib.Data.List.Nodup

/-!
# One pool of connections for each address

The address of a directory is respelled before it is used, so that it names the driver that does not
block (`Respelled`). The pool of connections is looked up by the respelled text, and opened if it is
not there.

A pool of an address that cannot be used would be found without the address being checked. There is
none: the open pools are `Sound`, that is, each is for a usable address and no two are for the same.
So looking the pool up first makes no difference (`openPool_eq`), and what comes of a setup depends
on the setups before it by the number of the pool only (`answered_ofSettings`).

A setup opens at most one pool and closes none, whether it ends in a directory, in none or in an
error (`Answered.after`). Over a run of setups a pool therefore keeps its number
(`idxOf_poolsAfter`), and two directories of the run share their pool exactly if their addresses are
respelled alike (`setups_outcome`).
-/

namespace FederatedLogin.Directory

variable {pools : Pools} {s : Settings} {dsn text : String} {pool : Nat} {a : Address}
  {d : Directory} {result : Except SetupError Setup} {run : List Settings}

/-! ### The driver in an address -/

/-- An address is respelled to name the driver that does not block: its scheme is replaced, and
everything after that stays. An address with another scheme stays as it is. -/
inductive Respelled : String → String → Prop
  | short (rest : String) : Respelled ("postgres://" ++ rest) ("postgresql+asyncpg://" ++ rest)
  | long (rest : String) : Respelled ("postgresql://" ++ rest) ("postgresql+asyncpg://" ++ rest)
  | other {dsn : String} (short : ∀ rest, dsn ≠ "postgres://" ++ rest)
      (long : ∀ rest, dsn ≠ "postgresql://" ++ rest) : Respelled dsn dsn

theorem isPrefixOf_toList_iff {scheme : String} :
    scheme.toList.isPrefixOf dsn.toList = true ↔ ∃ rest, dsn = scheme ++ rest := by
  rw [List.isPrefixOf_iff_prefix]
  constructor
  · rintro ⟨rest, hrest⟩
    refine ⟨String.ofList rest, ?_⟩
    rw [← String.toList_inj, String.toList_append, String.toList_ofList, hrest]
  · rintro ⟨rest, rfl⟩
    rw [String.toList_append]
    exact List.prefix_append _ _

/-- The first scheme of the list that begins the text is replaced. -/
theorem addressText_of_find {scheme rest : String}
    (first : ["postgresql://", "postgres://"].find?
      (·.toList.isPrefixOf (scheme ++ rest).toList) = some scheme) :
    addressText (scheme ++ rest) = "postgresql+asyncpg://" ++ rest := by
  have hrest : (scheme ++ rest).toList.drop scheme.length = rest.toList := by
    rw [String.toList_append, ← String.length_toList, List.drop_left]
  rw [addressText, first]
  simp only [hrest, String.ofList_toList]

theorem Respelled.addressText_eq (h : Respelled dsn text) : addressText dsn = text := by
  cases h with
  | short rest => exact addressText_of_find (by simp)
  | long rest => exact addressText_of_find (by simp)
  | other short long =>
    have hnone :
        ["postgresql://", "postgres://"].find? (·.toList.isPrefixOf dsn.toList) = none := by
      rw [List.find?_eq_none]
      simp only [isPrefixOf_toList_iff, not_exists, List.forall_mem_cons]
      exact ⟨long, short, nofun⟩
    rw [addressText, hnone]

/-- Every address has a respelling. -/
theorem respelled_addressText (dsn : String) : Respelled dsn (addressText dsn) := by
  by_cases hshort : ∃ rest, dsn = "postgres://" ++ rest
  · obtain ⟨rest, rfl⟩ := hshort
    rw [(Respelled.short rest).addressText_eq]
    exact .short rest
  by_cases hlong : ∃ rest, dsn = "postgresql://" ++ rest
  · obtain ⟨rest, rfl⟩ := hlong
    rw [(Respelled.long rest).addressText_eq]
    exact .long rest
  have hother := Respelled.other (not_exists.mp hshort) (not_exists.mp hlong)
  rwa [hother.addressText_eq]

/-- **Respelling.** `Respelled` says exactly what the text of an address becomes. -/
theorem addressText_eq_iff : addressText dsn = text ↔ Respelled dsn text :=
  ⟨fun h => h ▸ respelled_addressText dsn, Respelled.addressText_eq⟩

/-- An address that names the driver is none of those that are respelled. -/
theorem respelled_driver (rest : String) :
    Respelled ("postgresql+asyncpg://" ++ rest) ("postgresql+asyncpg://" ++ rest) := by
  refine .other (fun rest' heq => ?_) fun rest' heq => ?_
  · simp [← String.toList_inj] at heq
  · simp [← String.toList_inj] at heq

/-- A respelled address is its own respelling. -/
theorem Respelled.again (h : Respelled dsn text) : Respelled text text := by
  cases h with
  | short rest => exact respelled_driver rest
  | long rest => exact respelled_driver rest
  | other short long => exact .other short long

theorem addressText_addressText (dsn : String) : addressText (addressText dsn) = addressText dsn :=
  (respelled_addressText dsn).again.addressText_eq

/-! ### Open pools -/

/-- The address in a text, from which a pool of connections can be set up. -/
def usableAddress (text : String) : Except Address.Flaw Address := do
  let address ← Address.read text
  address.check
  return address

/-- The pools with one for a text among them. -/
def Pools.opened (pools : Pools) (text : String) : Pools :=
  if text ∈ pools then pools else pools ++ [text]

/-- The open pools are for usable addresses, and no two of them are for the same text. -/
structure Pools.Sound (pools : Pools) : Prop where
  nodup : pools.Nodup
  usable : ∀ text ∈ pools, ∃ a, usableAddress text = .ok a

theorem sound_nil : Pools.Sound [] := ⟨List.nodup_nil, nofun⟩

theorem usableAddress_eq_ok :
    usableAddress text = .ok a ↔ Address.read text = .ok a ∧ a.check = .ok () := by
  simp only [usableAddress, bind_eq_ok, pure, Except.pure, Except.ok.injEq]
  constructor
  · rintro ⟨_, hread, _, hcheck, rfl⟩
    exact ⟨hread, hcheck⟩
  · rintro ⟨hread, hcheck⟩
    exact ⟨a, hread, (), hcheck, rfl⟩

/-- Opening a pool renumbers none that is open. -/
theorem Pools.prefix_opened (pools : Pools) (text : String) : pools <+: pools.opened text := by
  rw [opened]
  split
  · exact List.prefix_rfl
  · exact List.prefix_append _ _

theorem Pools.mem_opened {other : String} :
    other ∈ pools.opened text ↔ other ∈ pools ∨ other = text := by
  rw [opened]
  split
  · rename_i hmem
    exact ⟨.inl, fun h => h.elim id fun heq => heq ▸ hmem⟩
  · rw [List.mem_append, List.mem_singleton]

/-- Opening a pool for a usable address keeps the pools sound. -/
theorem Pools.Sound.opened (h : pools.Sound) (usable : usableAddress text = .ok a) :
    (pools.opened text).Sound := by
  constructor
  · rw [Pools.opened]
    split
    · exact h.nodup
    · rename_i hmem
      exact h.nodup.append (List.nodup_singleton text) (List.disjoint_singleton.mpr hmem)
  · intro other hother
    rcases Pools.mem_opened.mp hother with hmem | rfl
    · exact h.usable other hmem
    · exact ⟨a, usable⟩

/-- The number of a pool says which text it is for. -/
theorem Pools.Sound.idxOf_eq_iff (h : pools.Sound) (hmem : text ∈ pools) :
    pools.idxOf text = pool ↔ pools[pool]? = some text := by
  have hlt := List.idxOf_lt_length_of_mem hmem
  rw [← List.getElem?_inj hlt h.nodup, List.getElem?_idxOf hmem, eq_comm]

/-- The address of an open pool is usable, so it could as well be checked again. -/
theorem openPool_eq (h : pools.Sound) (text : String) :
    openPool pools text = (usableAddress text).map fun a => (a, pools.opened text) := by
  by_cases hmem : text ∈ pools
  · -- The pool is there, and a check of its address would not fail.
    obtain ⟨a, ha⟩ := h.usable text hmem
    obtain ⟨hread, -⟩ := usableAddress_eq_ok.mp ha
    rw [openPool, hread, ha, Pools.opened, if_pos hmem]
    simp [bind, Except.bind, hmem, Except.map, pure, Except.pure]
  · rw [openPool, usableAddress, Pools.opened, if_neg hmem]
    rcases Address.read text with flaw | a
    · rfl
    · rcases hcheck : a.check with flaw | _ <;>
        simp [bind, Except.bind, hmem, Except.map, hcheck, pure, Except.pure]

/-! ### What comes of a setup -/

/-- Settings that are switched on have an address, which is used in this spelling. -/
structure Addressed (s : Settings) (text : String) : Prop where
  enabled : s.postgresEnabled = true
  dsn : ∃ dsn, s.postgresDsn = some dsn ∧ dsn ≠ "" ∧ Respelled dsn text

/-- The directory with the names in the settings. -/
abbrev directoryNamed (s : Settings) : Except BadName Directory :=
  ofNames s.postgresTable s.postgresEmailColumn s.postgresPasswordColumn

/-- Settings make a directory, at an address in this spelling. -/
structure Serves (s : Settings) (text : String) (a : Address) (d : Directory) : Prop
    extends Addressed s text where
  usable : usableAddress text = .ok a
  names : directoryNamed s = .ok d

/-- What a setup ends in, and the pools that are open afterwards. -/
inductive Answered (pools : Pools) (s : Settings) : Except SetupError Setup × Pools → Prop
  | off (disabled : s.postgresEnabled = false) : Answered pools s (.ok .off, pools)
  | noAddress (enabled : s.postgresEnabled = true)
      (missing : ∀ dsn, s.postgresDsn = some dsn → dsn = "") :
      Answered pools s (.ok .noAddress, pools)
  | badAddress {text : String} {flaw : Address.Flaw} (addressed : Addressed s text)
      (bad : usableAddress text = .error flaw) :
      Answered pools s (.error (.address flaw), pools)
  /-- The pool is open nevertheless. -/
  | badName {text : String} {a : Address} {name : BadName} (addressed : Addressed s text)
      (usable : usableAddress text = .ok a) (bad : directoryNamed s = .error name) :
      Answered pools s (.error (.name name), pools.opened text)
  | on {text : String} {a : Address} {d : Directory} (serves : Serves s text a d) :
      Answered pools s (.ok (.on ((pools.opened text).idxOf text) a d), pools.opened text)

/-- With an address, a setup goes on to read it, to open its pool and to check the names. -/
theorem ofSettings_of_addressed (h : pools.Sound) (addressed : Addressed s text) :
    ofSettings pools s = match usableAddress text with
      | .error flaw => (.error (.address flaw), pools)
      | .ok a => match directoryNamed s with
        | .error bad => (.error (.name bad), pools.opened text)
        | .ok d => (.ok (.on ((pools.opened text).idxOf text) a d), pools.opened text) := by
  obtain ⟨henabled, dsn, hdsn, hnonempty, hrespelled⟩ := addressed
  have hfilter : s.postgresDsn.filter (!·.isEmpty) = some dsn := by
    simp [hdsn, Option.filter_some, hnonempty]
  rw [ofSettings, if_pos henabled, hfilter]
  simp only [hrespelled.addressText_eq, openPool_eq h]
  rcases usableAddress text with flaw | a
  · rfl
  · rcases hnamed : directoryNamed s with bad | d <;> simp only [Except.map, hnamed]

/-- What `Answered` describes is what the setup returns. -/
theorem Answered.ofSettings_eq (h : pools.Sound) {r : Except SetupError Setup × Pools}
    (hr : Answered pools s r) : ofSettings pools s = r := by
  cases hr with
  | off disabled => rw [ofSettings, disabled, if_neg Bool.false_ne_true]
  | noAddress enabled missing =>
    have hfilter : s.postgresDsn.filter (!·.isEmpty) = none :=
      Option.filter_eq_none_iff.mpr fun dsn hdsn => by simp [missing dsn hdsn]
    rw [ofSettings, if_pos enabled, hfilter]
  | badAddress addressed bad => rw [ofSettings_of_addressed h addressed, bad]
  | badName addressed usable bad =>
    rw [ofSettings_of_addressed h addressed, usable]
    simp only [bad]
  | on serves =>
    rw [ofSettings_of_addressed h serves.toAddressed, serves.usable]
    simp only [serves.names]

/-- The cases of `Answered` leave no settings out. -/
theorem exists_answered (pools : Pools) (s : Settings) : ∃ r, Answered pools s r := by
  cases henabled : s.postgresEnabled with
  | false => exact ⟨_, .off henabled⟩
  | true =>
    by_cases hmissing : ∀ dsn, s.postgresDsn = some dsn → dsn = ""
    · exact ⟨_, .noAddress henabled hmissing⟩
    obtain ⟨dsn, hdsn⟩ := not_forall.mp hmissing
    obtain ⟨hdsn, hnonempty⟩ := Classical.not_imp.mp hdsn
    have haddressed : Addressed s (addressText dsn) :=
      ⟨henabled, dsn, hdsn, hnonempty, respelled_addressText dsn⟩
    rcases husable : usableAddress (addressText dsn) with flaw | a
    · exact ⟨_, .badAddress haddressed husable⟩
    rcases hnamed : directoryNamed s with bad | d
    · exact ⟨_, .badName haddressed husable hnamed⟩
    · exact ⟨_, .on ⟨haddressed, husable, hnamed⟩⟩

/-- Over sound pools, what a setup ends in is what the settings say. -/
theorem answered_ofSettings (h : pools.Sound) (s : Settings) :
    Answered pools s (ofSettings pools s) := by
  obtain ⟨r, hr⟩ := exists_answered pools s
  rwa [hr.ofSettings_eq h]

/-! ### What a setup opens -/

/-- Settings for which a pool of connections has to be open. -/
structure Opens (s : Settings) (text : String) : Prop extends Addressed s text where
  usable : ∃ a, usableAddress text = .ok a

theorem Serves.opens (h : Serves s text a d) : Opens s text := ⟨h.toAddressed, a, h.usable⟩

/-- Settings give at most one address. -/
theorem Addressed.unique {other : String} (h : Addressed s text) (h' : Addressed s other) :
    text = other := by
  obtain ⟨-, dsn, hdsn, -, htext⟩ := h
  obtain ⟨-, dsn', hdsn', -, hother⟩ := h'
  obtain rfl := Option.some.inj (hdsn.symm.trans hdsn')
  exact htext.addressText_eq.symm.trans hother.addressText_eq

/-- A setup opens the pool that the settings need, if they need one, and closes none. -/
theorem Answered.after {r : Except SetupError Setup × Pools} (h : Answered pools s r) :
    (r.2 = pools ∧ ∀ text, ¬Opens s text) ∨
      ∃ text, Opens s text ∧ r.2 = pools.opened text := by
  cases h with
  | off disabled =>
    exact .inl ⟨rfl, fun _ hopens => absurd hopens.enabled (Bool.eq_false_iff.mp disabled)⟩
  | noAddress enabled missing =>
    refine .inl ⟨rfl, fun _ hopens => ?_⟩
    obtain ⟨dsn, hdsn, hnonempty, -⟩ := hopens.dsn
    exact hnonempty (missing dsn hdsn)
  | badAddress addressed bad =>
    refine .inl ⟨rfl, fun _ hopens => ?_⟩
    obtain ⟨a, ha⟩ := hopens.usable
    rw [← addressed.unique hopens.toAddressed, bad] at ha
    cases ha
  | badName addressed usable bad => exact .inr ⟨_, ⟨addressed, _, usable⟩, rfl⟩
  | on serves => exact .inr ⟨_, ⟨serves.toAddressed, _, serves.usable⟩, rfl⟩

/-- A setup keeps the pools sound. -/
theorem sound_ofSettings (h : pools.Sound) (s : Settings) : (ofSettings pools s).2.Sound := by
  rcases (answered_ofSettings h s).after with ⟨hsame, -⟩ | ⟨text, hopens, hopened⟩
  · rwa [hsame]
  · obtain ⟨a, ha⟩ := hopens.usable
    rw [hopened]
    exact h.opened ha

/-- A setup closes no pool and renumbers none. -/
theorem grows_ofSettings (h : pools.Sound) (s : Settings) : pools <+: (ofSettings pools s).2 := by
  rcases (answered_ofSettings h s).after with ⟨hsame, -⟩ | ⟨text, -, hopened⟩
  · simp only [hsame, List.prefix_rfl]
  · rw [hopened]
    exact pools.prefix_opened text

/-- A setup opens a pool only for the address of its own settings. -/
theorem mem_ofSettings (h : pools.Sound) :
    text ∈ (ofSettings pools s).2 ↔ text ∈ pools ∨ Opens s text := by
  rcases (answered_ofSettings h s).after with ⟨hsame, hnone⟩ | ⟨text', hopens, hopened⟩
  · rw [hsame, or_iff_left (hnone text)]
  · rw [hopened, Pools.mem_opened]
    refine or_congr_right ⟨?_, fun h => h.unique hopens.toAddressed⟩
    rintro rfl
    exact hopens

/-- A setup ends in a directory with the pool that is open for its address. -/
theorem ofSettings_eq_on (h : pools.Sound) :
    (ofSettings pools s).1 = .ok (.on pool a d) ↔
      ∃ text, Serves s text a d ∧ (ofSettings pools s).2.idxOf text = pool := by
  constructor
  · intro hon
    have hanswered := answered_ofSettings h s
    generalize ofSettings pools s = r at hon hanswered ⊢
    cases hanswered with
    | on serves =>
      cases hon
      exact ⟨_, serves, rfl⟩
    | _ => cases hon
  · rintro ⟨text, hserves, rfl⟩
    rw [(Answered.on hserves).ofSettings_eq h]

/-! ### Runs of setups -/

/-- The pools that are open after a run of setups. -/
def poolsAfter (pools : Pools) (run : List Settings) : Pools :=
  run.foldl (fun pools s => (ofSettings pools s).2) pools

/-- A run of setups: each of the settings with what the setup ends in. -/
def setups (pools : Pools) : List Settings → List (Settings × Except SetupError Setup)
  | [] => []
  | s :: rest => (s, (ofSettings pools s).1) :: setups (ofSettings pools s).2 rest

theorem poolsAfter_cons (pools : Pools) (s : Settings) (rest : List Settings) :
    poolsAfter pools (s :: rest) = poolsAfter (ofSettings pools s).2 rest := rfl

theorem poolsAfter_append (pools : Pools) (before later : List Settings) :
    poolsAfter pools (before ++ later) = poolsAfter (poolsAfter pools before) later :=
  List.foldl_append

/-- The pools are sound after any number of setups. -/
theorem sound_poolsAfter (h : pools.Sound) (run : List Settings) :
    (poolsAfter pools run).Sound := by
  induction run generalizing pools with
  | nil => exact h
  | cons s rest ih => exact ih (sound_ofSettings h s)

/-- No number of setups closes or renumbers a pool. -/
theorem grows_poolsAfter (h : pools.Sound) (run : List Settings) :
    pools <+: poolsAfter pools run := by
  induction run generalizing pools with
  | nil => exact List.prefix_rfl
  | cons s rest ih => exact (grows_ofSettings h s).trans (ih (sound_ofSettings h s))

/-- After a run the open pools are those of before and those that its settings need. -/
theorem mem_poolsAfter (h : pools.Sound) :
    text ∈ poolsAfter pools run ↔ text ∈ pools ∨ ∃ s ∈ run, Opens s text := by
  induction run generalizing pools with
  | nil => simp [poolsAfter]
  | cons s rest ih =>
    rw [poolsAfter_cons, ih (sound_ofSettings h s), mem_ofSettings h, List.exists_mem_cons_iff,
      or_assoc]

/-- A setup of a run finds the pools that those before it have left open. -/
theorem mem_setups_iff : (s, result) ∈ setups pools run ↔
    ∃ before later, run = before ++ s :: later ∧
      (ofSettings (poolsAfter pools before) s).1 = result := by
  induction run generalizing pools with
  | nil => simp [setups]
  | cons s' rest ih =>
    rw [setups, List.mem_cons, ih]
    constructor
    · rintro (heq | ⟨before, later, rfl, hresult⟩)
      · obtain ⟨rfl, rfl⟩ := Prod.mk.inj heq
        exact ⟨[], rest, rfl, rfl⟩
      · exact ⟨s' :: before, later, rfl, hresult⟩
    · rintro ⟨_ | ⟨s'', before⟩, later, hrun, hresult⟩
      · obtain ⟨rfl, rfl⟩ := List.cons.inj hrun
        exact .inl (Prod.ext rfl hresult.symm)
      · obtain ⟨rfl, rfl⟩ := List.cons.inj hrun
        exact .inr ⟨before, later, rfl, hresult⟩

/-- From the setup that needs it to the end of a run, a pool keeps its number. -/
theorem idxOf_poolsAfter (h : pools.Sound) (opens : Opens s text) (before later : List Settings) :
    (poolsAfter pools (before ++ s :: later)).idxOf text =
      (ofSettings (poolsAfter pools before) s).2.idxOf text := by
  have hsound := sound_poolsAfter h before
  have hmem := (mem_ofSettings hsound).mpr (.inr opens)
  have hgrows := grows_poolsAfter (sound_ofSettings hsound s) later
  rw [poolsAfter_append, poolsAfter_cons]
  exact (hgrows.idxOf_eq_of_mem hmem).symm

/-- A setup of a run ends in a directory exactly if its settings make one, and its pool is the one
that is open for its address at the end of the run. -/
theorem mem_setups_on_iff (h : pools.Sound) : (s, .ok (.on pool a d)) ∈ setups pools run ↔
    s ∈ run ∧ ∃ text, Serves s text a d ∧ (poolsAfter pools run).idxOf text = pool := by
  rw [mem_setups_iff]
  constructor
  · -- The setup is made with the pools that are open then, and its pool keeps that number.
    rintro ⟨before, later, rfl, hon⟩
    obtain ⟨text, hserves, hnumber⟩ := (ofSettings_eq_on (sound_poolsAfter h before)).mp hon
    refine ⟨List.mem_append_cons_self, text, hserves, ?_⟩
    rw [idxOf_poolsAfter h hserves.opens, hnumber]
  · rintro ⟨hs, text, hserves, hnumber⟩
    obtain ⟨before, later, rfl⟩ := List.append_of_mem hs
    rw [idxOf_poolsAfter h hserves.opens] at hnumber
    exact ⟨before, later, rfl,
      (ofSettings_eq_on (sound_poolsAfter h before)).mpr ⟨text, hserves, hnumber⟩⟩

/-- Directories share their pool exactly if their addresses are respelled alike, whatever setups
come before, between and after theirs and whatever these end in. No address has two pools, and an
address has one as soon as there were settings for it, even if their names are bad. -/
theorem setups_outcome (run : List Settings) :
    (∀ s s' pool pool' a a' d d', (s, .ok (.on pool a d)) ∈ setups [] run →
        (s', .ok (.on pool' a' d')) ∈ setups [] run →
          ∃ dsn dsn', s.postgresDsn = some dsn ∧ s'.postgresDsn = some dsn' ∧
            (pool = pool' ↔ addressText dsn = addressText dsn')) ∧
      (∀ s pool a d, (s, .ok (.on pool a d)) ∈ setups [] run ↔
        s ∈ run ∧ ∃ text, Serves s text a d ∧ (poolsAfter [] run)[pool]? = some text) ∧
      (poolsAfter [] run).Nodup ∧
      (∀ text, text ∈ poolsAfter [] run ↔ ∃ s ∈ run, Opens s text) ∧
      (∀ dsn text, addressText dsn = text ↔ Respelled dsn text) ∧
      ∀ dsn, addressText (addressText dsn) = addressText dsn := by
  have hsound := sound_poolsAfter sound_nil run
  have hmem (text : String) : text ∈ poolsAfter [] run ↔ ∃ s ∈ run, Opens s text := by
    rw [mem_poolsAfter sound_nil, or_iff_right List.not_mem_nil]
  refine ⟨?_, ?_, hsound.nodup, hmem, fun _ _ => addressText_eq_iff, addressText_addressText⟩
  · intro s s' pool pool' a a' d d' hs hs'
    obtain ⟨hmade, text, hserves, rfl⟩ := (mem_setups_on_iff sound_nil).mp hs
    obtain ⟨-, text', hserves', rfl⟩ := (mem_setups_on_iff sound_nil).mp hs'
    obtain ⟨dsn, hdsn, -, hrespelled⟩ := hserves.dsn
    obtain ⟨dsn', hdsn', -, hrespelled'⟩ := hserves'.dsn
    refine ⟨dsn, dsn', hdsn, hdsn', ?_⟩
    rw [hrespelled.addressText_eq, hrespelled'.addressText_eq]
    exact List.idxOf_inj ((hmem text).mpr ⟨s, hmade, hserves.opens⟩)
  · intro s pool a d
    rw [mem_setups_on_iff sound_nil]
    refine and_congr_right fun hs => exists_congr fun text => and_congr_right fun hserves => ?_
    exact hsound.idxOf_eq_iff ((hmem text).mpr ⟨s, hs, hserves.opens⟩)

/-- Settings for a directory. -/
def directorySettings (dsn table : String) : Settings :=
  { postgresEnabled := true, postgresDsn := some dsn, postgresTable := table }

/-- A run of setups with three spellings of an address, the first of them with a bad name for its
table, and with another address. -/
def mixedRun : List Settings :=
  [{}, directorySettings "postgres://h/d" "my users", directorySettings "postgresql://h/d" "users",
    directorySettings "not an address" "users",
    directorySettings "sqlite+aiosqlite:///dir.db" "users",
    directorySettings "postgresql+asyncpg://h/d" "staff"]

/-- The address that has three spellings. -/
def hostAddress : Address := ⟨"postgresql+asyncpg", none, none, some "h", none, some "d", []⟩

/-- The other address. -/
def fileAddress : Address := ⟨"sqlite+aiosqlite", none, none, none, none, some "dir.db", []⟩

/-- The directory of a table. -/
def directoryOn (table : String) : Directory := ⟨none, table, "email", "password_hash"⟩

/-- The pool that is opened before the names are found to be bad serves both other spellings. -/
theorem setups_outcome_mixed :
    (directorySettings "postgresql://h/d" "users",
        .ok (.on 0 hostAddress (directoryOn "users"))) ∈ setups [] mixedRun ∧
      (directorySettings "postgresql+asyncpg://h/d" "staff",
        .ok (.on 0 hostAddress (directoryOn "staff"))) ∈ setups [] mixedRun ∧
      (directorySettings "sqlite+aiosqlite:///dir.db" "users",
        .ok (.on 1 fileAddress (directoryOn "users"))) ∈ setups [] mixedRun ∧
      addressText "postgresql://h/d" = addressText "postgresql+asyncpg://h/d" ∧
      addressText "postgresql://h/d" ≠ addressText "sqlite+aiosqlite:///dir.db" := by
  have hlong : (directorySettings "postgresql://h/d" "users",
      .ok (.on 0 hostAddress (directoryOn "users"))) ∈ setups [] mixedRun :=
    mem_setups_iff.mpr ⟨mixedRun.take 2, mixedRun.drop 3, rfl, by decide +kernel⟩
  have hdriver : (directorySettings "postgresql+asyncpg://h/d" "staff",
      .ok (.on 0 hostAddress (directoryOn "staff"))) ∈ setups [] mixedRun :=
    mem_setups_iff.mpr ⟨mixedRun.take 5, [], rfl, by decide +kernel⟩
  have hfile : (directorySettings "sqlite+aiosqlite:///dir.db" "users",
      .ok (.on 1 fileAddress (directoryOn "users"))) ∈ setups [] mixedRun :=
    mem_setups_iff.mpr ⟨mixedRun.take 4, mixedRun.drop 5, rfl, by decide +kernel⟩
  have hshared := (setups_outcome mixedRun).1
  obtain ⟨_, _, ⟨⟩, ⟨⟩, hsame⟩ := hshared _ _ _ _ _ _ _ _ hlong hdriver
  obtain ⟨_, _, ⟨⟩, ⟨⟩, hother⟩ := hshared _ _ _ _ _ _ _ _ hlong hfile
  exact ⟨hlong, hdriver, hfile, hsame.mp rfl, mt hother.mpr (by decide)⟩

end FederatedLogin.Directory
