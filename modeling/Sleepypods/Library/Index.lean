import Sleepypods.Library.Table

/-! Hand-kept indexes: a second table that lists the rows of a first one under another key of
theirs. One lemma for each way in which the two are changed together. -/

set_option autoImplicit false

namespace Library

namespace Table

variable {κ ρ : Type} [DecidableEq κ]

variable {table : Table κ ρ} {key : κ} {row : ρ}

theorem entries_erase_perm (found : table.find? key = some row) :
    table.entries.Perm ((key, row) :: (table.erase key).entries) := by
  have member := find?_eq_some.mp found
  have distinct := table.keysNodup
  show table.entries.Perm ((key, row) :: table.entries.filter fun entry => decide (entry.1 ≠ key))
  generalize table.entries = entries at member distinct
  induction entries with
  | nil => cases member
  | cons entry rest ih =>
    obtain ⟨other, held⟩ := entry
    rw [List.map_cons, List.nodup_cons] at distinct
    cases List.mem_cons.mp member with
    | inl first =>
      cases first
      have later : rest.filter (fun entry => decide (entry.1 ≠ key)) = rest := by
        apply List.filter_eq_self.mpr
        intro entry inside
        apply decide_eq_true
        intro same
        exact distinct.1 (List.mem_map.mpr ⟨entry, inside, same⟩)
      rw [List.filter_cons_of_neg (by simp), later]
    | inr inside =>
      have different : other ≠ key := by
        rintro rfl
        exact distinct.1 (List.mem_map.mpr ⟨_, inside, rfl⟩)
      rw [List.filter_cons_of_pos (by simpa using different)]
      exact ((ih inside distinct.2).cons _).trans (List.Perm.swap _ _ _)

theorem entries_insert (absent : table.find? key = none) :
    (table.insert key row).entries = table.entries ++ [(key, row)] := by
  unfold insert
  rw [dif_neg (by rw [absent]; exact Bool.false_ne_true)]

omit [DecidableEq κ] in
theorem size_mapRows (table : Table κ ρ) (rewrite : κ → ρ → ρ) :
    (table.mapRows rewrite).size = table.size :=
  List.length_map _

theorem size_insert_of_some {old : ρ} (found : table.find? key = some old) :
    (table.insert key row).size = table.size := by
  unfold insert
  rw [dif_pos (by rw [found]; rfl), size_mapRows]

theorem exists_of_size_pos (nonempty : 0 < table.size) : ∃ key row, table.find? key = some row := by
  obtain ⟨entry, member⟩ := List.exists_mem_of_length_pos nonempty
  exact ⟨entry.1, entry.2, find?_eq_some.mpr member⟩

/-! ### The least key -/

section least

variable {less : κ → κ → Bool} {table : Table κ ρ}

theorem first?_isSome (found : table.find? key = some row) :
    ∃ least, table.first? less = some least := by
  have held : ∀ {step : Option (κ × ρ) → κ × ρ → Option (κ × ρ)},
      (∀ best entry, step (some best) entry =
        if less entry.1 best.1 then some entry else some best) →
      ∀ (rest : List (κ × ρ)) (best : κ × ρ), ∃ least,
        rest.foldl step (some best) = some least := by
    intro step steps rest
    induction rest with
    | nil => exact fun best => ⟨best, rfl⟩
    | cons entry _ ih =>
      intro best
      rw [List.foldl_cons, steps]
      split
      · exact ih entry
      · exact ih best
  have member := find?_eq_some.mp found
  unfold first?
  cases entries : table.entries with
  | nil =>
    rw [entries] at member
    cases member
  | cons entry rest => exact held (fun _ _ => rfl) rest entry

theorem first?_least (irrefl : ∀ key, less key key = false)
    (trans : ∀ first second third, less first second = true → less second third = true →
      less first third = true) (first : table.first? less = some (key, row)) {other : κ} {held : ρ}
    (found : table.find? other = some held) : less other key = false := by
  -- Whatever does not come before the row the fold holds does not come before the final one.
  have passed : ∀ {step : Option (κ × ρ) → κ × ρ → Option (κ × ρ)},
      (∀ best entry, step (some best) entry =
        if less entry.1 best.1 then some entry else some best) →
      ∀ (rest : List (κ × ρ)) (best : κ × ρ), rest.foldl step (some best) = some (key, row) →
      ∀ other, less other best.1 = false ∨ other ∈ rest.map Prod.fst → less other key = false := by
    intro step steps rest
    induction rest with
    | nil =>
      intro best folded other either
      cases folded
      exact either.resolve_right List.not_mem_nil
    | cons entry _ ih =>
      intro best folded other either
      rw [List.foldl_cons, steps] at folded
      rw [List.map_cons, List.mem_cons] at either
      split at folded
      next below =>
        apply ih entry folded other
        obtain notBefore | rfl | later := either
        · apply Or.inl
          apply Bool.eq_false_iff.mpr
          intro before
          exact Bool.eq_false_iff.mp notBefore (trans _ _ _ before below)
        · exact .inl (irrefl _)
        · exact .inr later
      next notBelow =>
        apply ih best folded other
        obtain notBefore | rfl | later := either
        · exact .inl notBefore
        · exact .inl (Bool.eq_false_iff.mpr notBelow)
        · exact .inr later
  have member := List.mem_map_of_mem (f := Prod.fst) (find?_eq_some.mp found)
  unfold first? at first
  cases entries : table.entries with
  | nil =>
    rw [entries] at member
    cases member
  | cons entry rest =>
    rw [entries] at first member
    apply passed (fun _ _ => rfl) rest entry first
    cases List.mem_cons.mp member with
    | inl same => exact .inl (same ▸ irrefl _)
    | inr later => exact .inr later

end least

end Table

/-! ### Indexes -/

def Indexes {ι κ ρ : Type} [DecidableEq ι] [DecidableEq κ] (index : Table ι κ) (table : Table κ ρ)
    (position : ρ → Option ι) : Prop :=
  ∀ place key, index.find? place = some key ↔
    ∃ row, table.find? key = some row ∧ position row = some place

namespace Indexes

variable {ι κ ρ : Type} [DecidableEq ι] [DecidableEq κ] {index : Table ι κ} {table : Table κ ρ}
  {position : ρ → Option ι} {key : κ} {row old : ρ} {place : ι}

theorem empty : Indexes (.empty : Table ι κ) (.empty : Table κ ρ) position := by
  intro place key
  refine iff_of_false nofun ?_
  intro ⟨row, found, _⟩
  cases found

section

variable (indexes : Indexes index table position)

include indexes

theorem key_unique {other : κ} {held : ρ} (found : table.find? key = some row)
    (placed : position row = some place) (otherFound : table.find? other = some held)
    (otherPlaced : position held = some place) : key = other := by
  have here := (indexes place key).mpr ⟨row, found, placed⟩
  have there := (indexes place other).mpr ⟨held, otherFound, otherPlaced⟩
  exact Option.some.inj (here.symm.trans there)

theorem find?_eq_none
    (unplaced : ∀ key row, table.find? key = some row → position row ≠ some place) :
    index.find? place = none := by
  cases held : index.find? place with
  | none => rfl
  | some key =>
    obtain ⟨row, found, placed⟩ := (indexes place key).mp held
    exact absurd placed (unplaced key row found)

theorem erase (found : table.find? key = some row) (placed : position row = some place) :
    Indexes (index.erase place) (table.erase key) position := by
  intro spot other
  simp only [Table.find?_erase, Function.update_apply]
  by_cases same : other = key
  · subst same
    simp only [if_true, reduceCtorEq, false_and, exists_false, iff_false]
    split
    · simp
    next elsewhere =>
      intro listed
      obtain ⟨held, heldFound, heldPlaced⟩ := (indexes spot other).mp listed
      cases found.symm.trans heldFound
      exact elsewhere (Option.some.inj (heldPlaced.symm.trans placed))
  · rw [if_neg same]
    split
    next here =>
      subst here
      refine iff_of_false (by simp) ?_
      rintro ⟨held, heldFound, heldPlaced⟩
      exact same (indexes.key_unique heldFound heldPlaced found placed)
    · exact indexes spot other

theorem erase_unplaced (found : table.find? key = some row) (unplaced : position row = none) :
    Indexes index (table.erase key) position := by
  intro spot other
  rw [indexes spot other]
  simp only [Table.find?_erase, Function.update_apply]
  split
  next same =>
    subst same
    refine iff_of_false ?_ (by simp)
    rintro ⟨held, heldFound, heldPlaced⟩
    cases found.symm.trans heldFound
    cases unplaced.symm.trans heldPlaced
  · rfl

theorem insert (absent : table.find? key = none) (placed : position row = some place)
    (free : index.find? place = none) :
    Indexes (index.insert place key) (table.insert key row) position := by
  intro spot other
  simp only [Table.find?_insert, Function.update_apply]
  by_cases same : other = key
  · subst same
    simp only [if_true, Option.some.injEq, exists_eq_left']
    split
    next here => exact iff_of_true rfl (here ▸ placed)
    next elsewhere =>
      refine iff_of_false ?_ ?_
      · intro listed
        obtain ⟨held, heldFound, _⟩ := (indexes spot other).mp listed
        cases absent.symm.trans heldFound
      · intro heldPlaced
        exact elsewhere (Option.some.inj (heldPlaced.symm.trans placed))
  · rw [if_neg same]
    split
    next here =>
      subst here
      refine iff_of_false ?_ ?_
      · intro this
        exact same (Option.some.inj this).symm
      · intro taken
        cases free.symm.trans ((indexes spot other).mpr taken)
    · exact indexes spot other

theorem insert_unplaced (absent : table.find? key = none) (unplaced : position row = none) :
    Indexes index (table.insert key row) position := by
  intro spot other
  rw [indexes spot other]
  simp only [Table.find?_insert, Function.update_apply]
  split
  next same =>
    subst same
    simp only [absent, reduceCtorEq, false_and, exists_false, Option.some.injEq, exists_eq_left',
      unplaced]
  · rfl

theorem rewrite (found : table.find? key = some old) (unmoved : position row = position old) :
    Indexes index (table.insert key row) position := by
  intro spot other
  rw [indexes spot other]
  simp only [Table.find?_insert, Function.update_apply]
  split
  next same =>
    subst same
    simp only [found, Option.some.injEq, exists_eq_left', unmoved]
  · rfl

theorem move (found : table.find? key = some old) {before : ι}
    (placedBefore : position old = some before) (placed : position row = some place)
    (free : (index.erase before).find? place = none) :
    Indexes ((index.erase before).insert place key) (table.insert key row) position := by
  have inserted : Indexes ((index.erase before).insert place key) ((table.erase key).insert key row)
      position :=
    (indexes.erase found placedBefore).insert (by simp) placed free
  intro spot other
  rw [inserted spot other]
  simp only [Table.find?_insert, Table.find?_erase, Function.update_idem]

theorem mapRows {rewrite : κ → ρ → ρ}
    (unmoved : ∀ key row, position (rewrite key row) = position row) :
    Indexes index (table.mapRows rewrite) position := by
  intro spot other
  rw [indexes spot other]
  simp only [Table.find?_mapRows, Option.map_eq_some_iff]
  constructor
  · rintro ⟨row, found, placed⟩
    exact ⟨_, ⟨row, found, rfl⟩, (unmoved other row).trans placed⟩
  · rintro ⟨_, ⟨row, found, same⟩, placed⟩
    exact ⟨row, found, (unmoved other row).symm.trans (same ▸ placed)⟩

end

theorem forget {rewrite : κ → ρ → ρ} (unplaced : ∀ key row, position (rewrite key row) = none) :
    Indexes (.empty : Table ι κ) (table.mapRows rewrite) position := by
  intro spot other
  refine iff_of_false nofun ?_
  intro ⟨held, found, placed⟩
  rw [Table.find?_mapRows, Option.map_eq_some_iff] at found
  obtain ⟨row, _, rfl⟩ := found
  cases (unplaced other row).symm.trans placed

end Indexes

end Library
