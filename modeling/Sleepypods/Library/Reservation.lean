import Sleepypods.Library.Table

/-! A table of reservations that is derived from what its owners claim: every claimed key is
reserved for its owner, and nothing else is. -/

set_option autoImplicit false

namespace Library

variable {κ ω : Type} [DecidableEq κ]

def Reserves (table : Table κ ω) (claims : ω → κ → Prop) : Prop :=
  ∀ key owner, table.find? key = some owner ↔ claims owner key

def reserve (owner : ω) (table : Table κ ω) (key : κ) : Option (Table κ ω) :=
  match table.find? key with
  | some _ => none
  | none => some (table.insert key owner)

def reserveAll (owner : ω) (keys : List κ) (table : Table κ ω) : Option (Table κ ω) :=
  keys.foldlM (reserve owner) table

namespace Reserves

variable {table next : Table κ ω} {claims other : ω → κ → Prop}

section

variable (reserves : Reserves table claims)

include reserves

theorem exclusive {left right : ω} {key : κ} (first : claims left key) (second : claims right key) :
    left = right := by
  have stored := (reserves key left).mpr first
  rw [(reserves key right).mpr second] at stored
  exact (Option.some.inj stored).symm

theorem congr (same : ∀ owner key, claims owner key ↔ other owner key) : Reserves table other :=
  fun key owner => (reserves key owner).trans (same owner key)

theorem drop (keeps : ω → Bool) :
    Reserves (table.filterRows fun _ owner => keeps owner)
      (fun owner key => keeps owner = true ∧ claims owner key) := by
  intro key owner
  rw [Table.find?_filterRows, Option.filter_eq_some_iff, reserves key owner, and_comm]

theorem reserve {owner : ω} {key : κ} (reserved : Library.reserve owner table key = some next) :
    Reserves next (fun holder held => (holder = owner ∧ held = key) ∨ claims holder held) := by
  unfold Library.reserve at reserved
  split at reserved
  · cases reserved
  next free =>
    cases reserved
    intro held holder
    rw [Table.find?_insert, Function.update_apply]
    split
    next same =>
      subst same
      have unclaimed : ¬ claims holder held := by
        intro claimed
        rw [(reserves held holder).mpr claimed] at free
        cases free
      constructor
      · intro stored
        exact .inl ⟨(Option.some.inj stored).symm, rfl⟩
      · rintro (⟨rfl, _⟩ | claimed)
        · rfl
        · exact absurd claimed unclaimed
    next different =>
      rw [reserves held holder]
      constructor
      · exact .inr
      · rintro (⟨_, same⟩ | claimed)
        · exact absurd same different
        · exact claimed

end

theorem reserveAll {owner : ω} {keys : List κ} {table : Table κ ω} {claims : ω → κ → Prop}
    (reserves : Reserves table claims)
    (reserved : Library.reserveAll owner keys table = some next) :
    Reserves next (fun holder held => (holder = owner ∧ held ∈ keys) ∨ claims holder held) := by
  induction keys generalizing table claims with
  | nil =>
    cases reserved
    refine reserves.congr fun holder held => ⟨.inr, ?_⟩
    rintro (⟨_, none⟩ | claimed)
    · exact absurd none List.not_mem_nil
    · exact claimed
  | cons _ _ ih =>
    obtain ⟨first, reservedFirst, reservedRest⟩ := Option.bind_eq_some_iff.mp reserved
    refine (ih (reserves.reserve reservedFirst) reservedRest).congr fun holder held => ?_
    rw [List.mem_cons]
    constructor
    · rintro (⟨rfl, later⟩ | ⟨rfl, rfl⟩ | claimed)
      · exact .inl ⟨rfl, .inr later⟩
      · exact .inl ⟨rfl, .inl rfl⟩
      · exact .inr claimed
    · rintro (⟨rfl, rfl | later⟩ | claimed)
      · exact .inr (.inl ⟨rfl, rfl⟩)
      · exact .inl ⟨rfl, later⟩
      · exact .inr (.inr claimed)

end Reserves

end Library
