import Sleepypods.Library.Index

/-! Rows that are also listed by insertion number and by expiry, and what is known of a table once
some rows were taken out of it. -/

set_option autoImplicit false

namespace Library

variable {κ ρ : Type}

namespace Table

def Takes (before : Table κ ρ) (taken : List (κ × ρ)) (after : Table κ ρ) : Prop :=
  before.entries.Perm (taken ++ after.entries)

namespace Takes

variable {before after : Table κ ρ} {taken : List (κ × ρ)} {key : κ} {row : ρ}

theorem refl (table : Table κ ρ) : Takes table [] table := List.Perm.refl _

theorem trans {last : Table κ ρ} {more : List (κ × ρ)} (former : Takes before taken after)
    (latter : Takes after more last) : Takes before (taken ++ more) last := by
  unfold Takes at *
  rw [List.append_assoc]
  exact former.trans (latter.append_left taken)

theorem size (takes : Takes before taken after) : before.size = taken.length + after.size :=
  takes.length_eq.trans List.length_append

variable [DecidableEq κ]

theorem erase (found : before.find? key = some row) : Takes before [(key, row)] (before.erase key) :=
  entries_erase_perm found

variable (takes : Takes before taken after)

include takes

theorem found (member : (key, row) ∈ taken) : before.find? key = some row :=
  find?_eq_some.mpr (takes.mem_iff.mpr (List.mem_append_left _ member))

theorem kept (found : after.find? key = some row) : before.find? key = some row :=
  find?_eq_some.mpr (takes.mem_iff.mpr (List.mem_append_right _ (find?_eq_some.mp found)))

theorem lost (found : before.find? key = some row) (absent : after.find? key = none) :
    (key, row) ∈ taken :=
  (List.mem_append.mp (takes.mem_iff.mp (find?_eq_some.mp found))).resolve_right
    (find?_eq_none.mp absent row)

theorem remains (found : before.find? key = some row) (spared : (key, row) ∉ taken) :
    after.find? key = some row :=
  find?_eq_some.mpr ((List.mem_append.mp (takes.mem_iff.mp (find?_eq_some.mp found))).resolve_left
    spared)

theorem gone (member : (key, row) ∈ taken) : after.find? key = none := by
  have distinct : (taken.map Prod.fst ++ after.entries.map Prod.fst).Nodup := by
    rw [← List.map_append]
    exact (takes.map Prod.fst).nodup_iff.mp before.keysNodup
  apply find?_eq_none.mpr
  intro other inside
  exact List.disjoint_of_nodup_append distinct (List.mem_map.mpr ⟨_, member, rfl⟩)
    (List.mem_map.mpr ⟨_, inside, rfl⟩)

omit takes in
theorem spared {other : κ} {held : ρ} (takes : Takes before [(key, row)] after)
    (found : after.find? other = some held) : before.find? other = some held ∧ other ≠ key := by
  refine ⟨takes.kept found, ?_⟩
  rintro rfl
  cases (takes.gone (List.mem_singleton.mpr rfl)).symm.trans found

end Takes

end Table

/-! ### Shelves -/

/-- Both orders list exactly the rows, and no row has a number above the last one given out. -/
structure Shelved [DecidableEq κ] (number expiresAt : ρ → Nat) (order : Table Nat κ) (expiry : Table (Nat × Nat) κ)
    (rows : Table κ ρ) (last : Nat) : Prop where
  order : Indexes order rows fun row => some (number row)
  expiry : Indexes expiry rows fun row => some (expiresAt row, number row)
  numbered : ∀ key row, rows.find? key = some row → number row ≤ last

namespace Shelved

variable [DecidableEq κ] {number expiresAt : ρ → Nat} {order : Table Nat κ} {expiry : Table (Nat × Nat) κ}
  {rows : Table κ ρ} {last : Nat} {key : κ} {row old : ρ}

theorem empty (last : Nat) : Shelved number expiresAt .empty .empty (.empty : Table κ ρ) last where
  order := .empty
  expiry := .empty
  numbered key row found := by cases found

variable (shelved : Shelved number expiresAt order expiry rows last)

include shelved

theorem advance : Shelved number expiresAt order expiry rows (last + 1) :=
  { shelved with
    numbered := fun key row found => Nat.le_succ_of_le (shelved.numbered key row found) }

theorem erase (found : rows.find? key = some row) :
    Shelved number expiresAt (order.erase (number row)) (expiry.erase (expiresAt row, number row))
      (rows.erase key) last where
  order := shelved.order.erase found rfl
  expiry := shelved.expiry.erase found rfl
  numbered := fun _ _ stored => shelved.numbered _ _ ((Table.Takes.erase found).kept stored)

theorem insert (absent : rows.find? key = none) (row : ρ) (next : number row = last + 1) :
    Shelved number expiresAt (order.insert (last + 1) key)
      (expiry.insert (expiresAt row, last + 1) key) (rows.insert key row) (last + 1) := by
  have unused : ∀ other held, rows.find? other = some held → number held ≠ last + 1 :=
    fun other held found => Nat.ne_of_lt (Nat.lt_succ_of_le (shelved.numbered other held found))
  constructor
  case order =>
    apply shelved.order.insert absent (congrArg some next)
    apply shelved.order.find?_eq_none
    exact fun other held found same => unused other held found (Option.some.inj same)
  case expiry =>
    apply shelved.expiry.insert absent (by rw [next])
    apply shelved.expiry.find?_eq_none
    exact fun other held found same =>
      unused other held found (congrArg Prod.snd (Option.some.inj same))
  case numbered =>
    intro other held found
    simp only [Table.find?_insert, Function.update_apply] at found
    split at found
    · cases found
      exact Nat.le_of_eq next
    · exact Nat.le_succ_of_le (shelved.numbered other held found)

theorem mapRows (rewrite : κ → ρ → ρ) (numbers : ∀ key row, number (rewrite key row) = number row)
    (expiries : ∀ key row, expiresAt (rewrite key row) = expiresAt row) :
    Shelved number expiresAt order expiry (rows.mapRows rewrite) last where
  order := shelved.order.mapRows fun key row => congrArg some (numbers key row)
  expiry := shelved.expiry.mapRows fun key row => by rw [numbers, expiries]
  numbered key row found := by
    rw [Table.find?_mapRows, Option.map_eq_some_iff] at found
    obtain ⟨old, stored, rfl⟩ := found
    exact numbers key old ▸ shelved.numbered key old stored

theorem refresh (found : rows.find? key = some old) (row : ρ) (same : number row = number old) :
    Shelved number expiresAt order
      ((expiry.erase (expiresAt old, number old)).insert (expiresAt row, number old) key)
      (rows.insert key row) last where
  order := shelved.order.rewrite found (congrArg some same)
  expiry := by
    apply shelved.expiry.move found rfl (by rw [same])
    simp only [Table.find?_erase, Function.update_apply]
    split
    · rfl
    next moved =>
      -- The only row with this number is the rewritten one.
      apply shelved.expiry.find?_eq_none
      intro other held stored placed
      obtain ⟨expires, numbered⟩ := Prod.mk.inj (Option.some.inj placed)
      have owner := shelved.order.key_unique stored (congrArg some numbered) found rfl
      subst owner
      cases stored.symm.trans found
      exact moved (by rw [← expires])
  numbered other held stored := by
    simp only [Table.find?_insert, Function.update_apply] at stored
    split at stored
    · cases stored
      exact same ▸ shelved.numbered key old found
    · exact shelved.numbered other held stored

end Shelved

end Library
