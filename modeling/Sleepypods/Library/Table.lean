import Mathlib

/-! Keyed tables: finite maps stored as rows, with a primary key that no two rows share.
Every operation is described by what a lookup returns afterwards. -/

set_option autoImplicit false

namespace Library

/-- Rows under pairwise distinct primary keys. -/
structure Table (κ ρ : Type) where
  entries : List (κ × ρ)
  keysNodup : (entries.map Prod.fst).Nodup

namespace Table

variable {κ ρ : Type} [DecidableEq κ]

def empty : Table κ ρ := ⟨[], List.nodup_nil⟩

def find? (table : Table κ ρ) (key : κ) : Option ρ :=
  (table.entries.find? fun entry => decide (entry.1 = key)).map Prod.snd

def mapRows (table : Table κ ρ) (rewrite : κ → ρ → ρ) : Table κ ρ where
  entries := table.entries.map fun entry => (entry.1, rewrite entry.1 entry.2)
  keysNodup := by simpa [List.map_map, Function.comp_def] using table.keysNodup

def filterRows (table : Table κ ρ) (keeps : κ → ρ → Bool) : Table κ ρ where
  entries := table.entries.filter fun entry => keeps entry.1 entry.2
  keysNodup := table.keysNodup.sublist (List.filter_sublist.map _)

def insert (table : Table κ ρ) (key : κ) (row : ρ) : Table κ ρ :=
  if present : (table.find? key).isSome then
    table.mapRows fun other existing => if other = key then row else existing
  else
    { entries := table.entries ++ [(key, row)]
      keysNodup := by
        rw [List.map_append, List.map_singleton, List.nodup_append_comm, List.singleton_append,
          List.nodup_cons]
        refine ⟨?_, table.keysNodup⟩
        intro used
        obtain ⟨entry, member, same⟩ := List.mem_map.mp used
        refine present ?_
        rw [find?, Option.isSome_map, List.find?_isSome]
        exact ⟨entry, member, by simpa using same⟩ }

def erase (table : Table κ ρ) (key : κ) : Table κ ρ :=
  table.filterRows fun other _ => decide (other ≠ key)

def any (table : Table κ ρ) (condition : κ → ρ → Bool) : Bool :=
  table.entries.any fun entry => condition entry.1 entry.2

def select? (table : Table κ ρ) (condition : κ → ρ → Bool) : Option (κ × ρ) :=
  table.entries.find? fun entry => condition entry.1 entry.2

def first? (table : Table κ ρ) (less : κ → κ → Bool) : Option (κ × ρ) :=
  table.entries.foldl (fun best entry =>
    match best with
    | none => some entry
    | some least => if less entry.1 least.1 then some entry else some least) none

def size (table : Table κ ρ) : Nat := table.entries.length

variable {table : Table κ ρ} {key : κ}

theorem find?_eq_some {row : ρ} : table.find? key = some row ↔ (key, row) ∈ table.entries := by
  obtain ⟨entries, keysNodup⟩ := table
  simp only [find?]
  induction entries with
  | nil => simp
  | cons entry rest ih =>
    obtain ⟨entryKey, entryRow⟩ := entry
    simp only [List.map_cons, List.nodup_cons] at keysNodup
    by_cases same : entryKey = key
    · subst same
      have fresh : (entryKey, row) ∉ rest := fun member =>
        keysNodup.1 (List.mem_map.mpr ⟨_, member, rfl⟩)
      simp [fresh, eq_comm]
    · have different : ¬key = entryKey := fun equal => same equal.symm
      simpa [List.find?_cons, same, different] using ih keysNodup.2

theorem find?_eq_none : table.find? key = none ↔ ∀ row, (key, row) ∉ table.entries := by
  rw [Option.eq_none_iff_forall_ne_some]
  exact forall_congr' fun row => not_congr find?_eq_some

variable {condition : κ → ρ → Bool}

theorem any_eq_true :
    table.any condition = true ↔
      ∃ key row, table.find? key = some row ∧ condition key row = true := by
  simp only [any, List.any_eq_true, Prod.exists, find?_eq_some]

theorem any_eq_false :
    table.any condition = false ↔
      ∀ key row, table.find? key = some row → condition key row = false := by
  simp only [← Bool.not_eq_true, any_eq_true, not_exists, not_and]

theorem select?_eq_some {row : ρ} (found : table.select? condition = some (key, row)) :
    table.find? key = some row ∧ condition key row = true :=
  ⟨find?_eq_some.mpr (List.mem_of_find?_eq_some found), (List.find?_eq_some_iff_append.mp found).1⟩

theorem select?_eq_none :
    table.select? condition = none ↔
      ∀ key row, table.find? key = some row → condition key row = false := by
  simp only [select?, List.find?_eq_none, Prod.forall, find?_eq_some, Bool.not_eq_true]

theorem exists_select? (satisfied : table.any condition = true) :
    ∃ key row, table.select? condition = some (key, row) ∧ table.find? key = some row ∧
      condition key row = true := by
  obtain ⟨⟨key, row⟩, selected⟩ := Option.isSome_iff_exists.mp (List.find?_isSome.mpr
    (List.any_eq_true.mp satisfied))
  exact ⟨key, row, selected, select?_eq_some selected⟩

/-- A condition that only rows under one key satisfy selects the row under that key. -/
theorem select?_of_key
    (pinned : ∀ other row, table.find? other = some row → condition other row = true → other = key) :
    table.select? condition =
      ((table.find? key).filter fun row => condition key row).map fun row => (key, row) := by
  cases selected : table.select? condition with
  | none =>
    have missed := select?_eq_none.mp selected
    cases found : table.find? key with
    | none => rfl
    | some row => simp [Option.filter, missed key row found]
  | some entry =>
    obtain ⟨other, row⟩ := entry
    obtain ⟨found, satisfies⟩ := select?_eq_some selected
    obtain rfl := pinned other row found satisfies
    simp [found, Option.filter, satisfies]

theorem find?_of_first? {less : κ → κ → Bool} {row : ρ}
    (least : table.first? less = some (key, row)) : table.find? key = some row := by
  rw [find?_eq_some]
  -- What the fold holds is the first row or one it has passed.
  have held : ∀ (rest : List (κ × ρ)) (best : Option (κ × ρ)),
      rest.foldl (fun best entry =>
        match best with
        | none => some entry
        | some least => if less entry.1 least.1 then some entry else some least) best =
          some (key, row) → best = some (key, row) ∨ (key, row) ∈ rest := by
    intro rest
    induction rest with
    | nil => exact fun best folded => .inl folded
    | cons _ _ ih =>
      intro best folded
      rw [List.foldl_cons] at folded
      rcases ih _ folded with now | later
      · split at now
        · exact .inr (List.mem_cons.mpr (.inl (Option.some.inj now).symm))
        · split at now
          · exact .inr (List.mem_cons.mpr (.inl (Option.some.inj now).symm))
          · exact .inl now
      · exact .inr (List.mem_cons_of_mem _ later)
  rcases held table.entries none least with none | member
  · cases none
  · exact member

@[simp]
theorem find?_mapRows (table : Table κ ρ) (rewrite : κ → ρ → ρ) (key : κ) :
    (table.mapRows rewrite).find? key = (table.find? key).map (rewrite key) := by
  cases found : table.find? key with
  | none =>
    rw [find?_eq_none] at found
    rw [Option.map_none, find?_eq_none]
    intro row rewritten
    obtain ⟨entry, member, same⟩ := List.mem_map.mp rewritten
    obtain ⟨rfl, -⟩ := Prod.mk.inj same
    exact found _ member
  | some =>
    rw [find?_eq_some] at found
    rw [Option.map_some, find?_eq_some]
    exact List.mem_map.mpr ⟨_, found, rfl⟩

@[simp]
theorem find?_filterRows (table : Table κ ρ) (keeps : κ → ρ → Bool) (key : κ) :
    (table.filterRows keeps).find? key = (table.find? key).filter (keeps key) := by
  ext row
  simp only [find?_eq_some, filterRows, List.mem_filter, Option.filter_eq_some_iff]

theorem filterRows_eq_self {keeps : κ → ρ → Bool}
    (all : ∀ key row, table.find? key = some row → keeps key row = true) :
    table.filterRows keeps = table := by
  have entries : table.entries.filter (fun entry => keeps entry.1 entry.2) = table.entries :=
    List.filter_eq_self.mpr fun entry member => all entry.1 entry.2 (find?_eq_some.mpr member)
  cases table
  simpa only [filterRows, mk.injEq] using entries

@[simp]
theorem find?_insert (table : Table κ ρ) (key : κ) (row : ρ) :
    (table.insert key row).find? = Function.update table.find? key (some row) := by
  funext other
  unfold insert
  split
  · rename_i present
    obtain ⟨existing, found⟩ := Option.isSome_iff_exists.mp present
    rw [find?_mapRows]
    by_cases same : other = key
    · subst same
      simp [found]
    · simp [same]
  · rename_i absent
    rw [Option.not_isSome_iff_eq_none] at absent
    ext found
    rw [find?_eq_some]
    by_cases same : other = key
    · subst same
      simp [find?_eq_none.mp absent, eq_comm]
    · simp [find?_eq_some, same]

@[simp]
theorem find?_erase (table : Table κ ρ) (key : κ) :
    (table.erase key).find? = Function.update table.find? key none := by
  funext other
  rw [erase, find?_filterRows]
  by_cases same : other = key
  · subst same
    cases table.find? other <;> simp [Option.filter]
  · cases found : table.find? other <;> simp [Option.filter, same, found]

section inserts

variable {α : Type} {key : α → κ} {row : α → ρ}

theorem find?_foldl_insert_of_notMem {items : List α} {other : κ} (absent : other ∉ items.map key)
    (table : Table κ ρ) :
    (items.foldl (fun table item => table.insert (key item) (row item)) table).find? other =
      table.find? other := by
  induction items generalizing table with
  | nil => rfl
  | cons _ _ ih =>
    rw [List.map_cons, List.mem_cons, not_or] at absent
    rw [List.foldl_cons, ih absent.2, find?_insert, Function.update_of_ne absent.1]

theorem find?_foldl_insert {items : List α} (distinct : (items.map key).Nodup)
    (table : Table κ ρ) {item : α} (member : item ∈ items) :
    (items.foldl (fun table item => table.insert (key item) (row item)) table).find? (key item) =
      some (row item) := by
  induction items generalizing table with
  | nil => cases member
  | cons _ _ ih =>
    rw [List.map_cons, List.nodup_cons] at distinct
    rw [List.foldl_cons]
    rcases List.mem_cons.mp member with rfl | later
    · rw [find?_foldl_insert_of_notMem distinct.1, find?_insert, Function.update_self]
    · exact ih distinct.2 _ later

end inserts

end Table

end Library
