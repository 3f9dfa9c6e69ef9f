import Mathlib

/-! Finite maps as lists of entries in the order of their keys. The list operations also serve
types that nest such lists; `OrderedMap` carries the order as a field. -/

set_option autoImplicit false

namespace Library

namespace Entries

variable {κ ν : Type} [LinearOrder κ]

def get? (key : κ) : List (κ × ν) → Option ν
  | [] => none
  | (other, held) :: rest => if other = key then some held else get? key rest

def insert (key : κ) (value : ν) : List (κ × ν) → List (κ × ν)
  | [] => [(key, value)]
  | (other, held) :: rest =>
    if key < other then (key, value) :: (other, held) :: rest
    else if key = other then (key, value) :: rest
    else (other, held) :: insert key value rest

def erase (key : κ) (entries : List (κ × ν)) : List (κ × ν) :=
  entries.filter fun entry => decide (entry.1 ≠ key)

def collect (pairs : List (κ × ν)) (entries : List (κ × ν)) : List (κ × ν) :=
  pairs.foldl (fun entries pair => insert pair.1 pair.2 entries) entries

def Sorted (entries : List (κ × ν)) : Prop := (entries.map Prod.fst).Pairwise (· < ·)

instance (entries : List (κ × ν)) : Decidable (Sorted entries) :=
  inferInstanceAs (Decidable (List.Pairwise _ _))

variable {entries pairs : List (κ × ν)} {key other : κ} {value : ν}

theorem Sorted.nodup (sorted : Sorted entries) : (entries.map Prod.fst).Nodup :=
  List.Pairwise.imp ne_of_lt sorted

/-! ### Looking entries up -/

theorem get?_insert : get? other (insert key value entries) =
    if key = other then some value else get? other entries := by
  induction entries with
  | nil => simp only [insert, get?]
  | cons entry _ ih =>
    obtain ⟨present, held⟩ := entry
    unfold insert
    split
    · rfl
    · split
      next same =>
        subst same
        simp only [get?]
        split <;> rfl
      next _ distinct =>
        simp only [get?, ih]
        split
        next first =>
          subst first
          rw [if_neg distinct]
        · rfl

theorem mem_of_get? (found : get? key entries = some value) : (key, value) ∈ entries := by
  induction entries with
  | nil => cases found
  | cons entry _ ih =>
    obtain ⟨present, held⟩ := entry
    simp only [get?] at found
    split at found
    next same =>
      cases found
      rw [same]
      exact List.mem_cons_self
    · exact List.mem_cons_of_mem _ (ih found)

theorem get?_of_mem (distinct : (entries.map Prod.fst).Nodup) (member : (key, value) ∈ entries) :
    get? key entries = some value := by
  induction entries with
  | nil => cases member
  | cons entry _ ih =>
    obtain ⟨present, held⟩ := entry
    rw [List.map_cons, List.nodup_cons] at distinct
    simp only [get?]
    cases List.mem_cons.mp member with
    | inl first =>
      cases first
      rw [if_pos rfl]
    | inr later =>
      rw [if_neg, ih distinct.2 later]
      rintro rfl
      exact distinct.1 (List.mem_map.mpr ⟨_, later, rfl⟩)

theorem get?_erase : get? other (erase key entries) =
    if key = other then none else get? other entries := by
  induction entries with
  | nil =>
    simp only [erase, List.filter_nil, get?, ite_self]
  | cons entry _ ih =>
    obtain ⟨present, held⟩ := entry
    simp only [erase] at ih
    by_cases dropped : present = key
    · subst dropped
      simp only [erase, ne_eq, not_true_eq_false, decide_false, Bool.false_eq_true,
        not_false_eq_true, List.filter_cons_of_neg, get?]
      rw [ih]
      split <;> rfl
    · simp only [erase, ne_eq, dropped, not_false_eq_true, decide_true, List.filter_cons_of_pos,
        get?]
      rw [ih]
      split
      next same =>
        subst same
        rw [if_neg (Ne.symm dropped)]
      · rfl

theorem get?_eq_none : get? key entries = none ↔ key ∉ entries.map Prod.fst := by
  induction entries with
  | nil => simp only [get?, List.map_nil, List.not_mem_nil, not_false_eq_true]
  | cons entry _ ih =>
    obtain ⟨present, held⟩ := entry
    simp only [get?, List.map_cons, List.mem_cons, not_or]
    split
    next same => simp only [same, not_true_eq_false, false_and, reduceCtorEq]
    next distinct => rw [ih, and_iff_right (Ne.symm distinct)]

theorem get?_mapValues {ν' : Type} (change : ν → ν') :
    get? key (entries.map fun entry => (entry.1, change entry.2)) =
      (get? key entries).map change := by
  induction entries with
  | nil => rfl
  | cons entry _ ih =>
    obtain ⟨present, held⟩ := entry
    simp only [List.map_cons, get?, ih]
    split <;> rfl

theorem mem_insert {entry : κ × ν} (member : entry ∈ insert key value entries) :
    entry = (key, value) ∨ entry ∈ entries := by
  induction entries with
  | nil => exact .inl (List.mem_singleton.mp member)
  | cons first _ ih =>
    obtain ⟨present, held⟩ := first
    unfold insert at member
    split at member
    · exact List.mem_cons.mp member
    · split at member
      · exact (List.mem_cons.mp member).imp_right (List.mem_cons_of_mem _)
      · cases List.mem_cons.mp member with
        | inl first => exact .inr (first ▸ List.mem_cons_self)
        | inr later => exact (ih later).imp_right (List.mem_cons_of_mem _)

theorem mem_collect {entry : κ × ν} (member : entry ∈ collect pairs entries) :
    entry ∈ pairs ∨ entry ∈ entries := by
  induction pairs generalizing entries with
  | nil => exact .inr member
  | cons _ _ ih =>
    cases ih member with
    | inl later => exact .inl (List.mem_cons_of_mem _ later)
    | inr inserted =>
      cases mem_insert inserted with
      | inl first => exact .inl (first ▸ List.mem_cons_self)
      | inr present => exact .inr present

theorem mem_keys_insert : other ∈ (insert key value entries).map Prod.fst ↔
    other = key ∨ other ∈ entries.map Prod.fst := by
  induction entries with
  | nil => simp only [insert, List.map_cons, List.map_nil, List.mem_cons, List.not_mem_nil]
  | cons entry _ ih =>
    obtain ⟨present, held⟩ := entry
    unfold insert
    split
    · simp only [List.map_cons, List.mem_cons]
    · split
      next same =>
        simp only [List.map_cons, List.mem_cons, same, or_self_left]
      · simp only [List.map_cons, List.mem_cons, ih]
        exact or_left_comm

theorem Sorted.insert (sorted : Sorted entries) : Sorted (insert key value entries) := by
  induction entries with
  | nil => exact List.pairwise_singleton _ _
  | cons entry _ ih =>
    obtain ⟨present, held⟩ := entry
    obtain ⟨below, tail⟩ := List.pairwise_cons.mp sorted
    unfold Entries.insert
    split
    next first =>
      refine List.pairwise_cons.mpr ⟨?_, sorted⟩
      intro other member
      cases List.mem_cons.mp member with
      | inl same => exact same ▸ first
      | inr later => exact first.trans (below other later)
    next notBelow =>
      split
      next same =>
        subst same
        exact List.pairwise_cons.mpr ⟨below, tail⟩
      next distinct =>
        refine List.pairwise_cons.mpr ⟨?_, ih tail⟩
        intro other member
        cases mem_keys_insert.mp member with
        | inl same => exact same ▸ lt_of_le_of_ne (not_lt.mp notBelow) (Ne.symm distinct)
        | inr later => exact below other later

theorem Sorted.erase (sorted : Sorted entries) : Sorted (erase key entries) :=
  List.Pairwise.sublist (List.filter_sublist.map Prod.fst) sorted

theorem Sorted.collect (sorted : Sorted entries) : Sorted (collect pairs entries) := by
  induction pairs generalizing entries with
  | nil => exact sorted
  | cons _ _ ih => exact ih sorted.insert

/-! ### Collected pairs -/

theorem mem_keys_collect : other ∈ (collect pairs entries).map Prod.fst ↔
    other ∈ pairs.map Prod.fst ∨ other ∈ entries.map Prod.fst := by
  induction pairs generalizing entries with
  | nil => simp only [collect, List.foldl_nil, List.map_nil, List.not_mem_nil, false_or]
  | cons pair rest ih =>
    have step : other ∈ (collect rest (insert pair.1 pair.2 entries)).map Prod.fst ↔ _ := ih
    rw [mem_keys_insert] at step
    rw [List.map_cons, List.mem_cons]
    exact step.trans (or_left_comm.trans or_assoc.symm)

/-- As many entries as pairs are collected exactly when no two pairs share a key. -/
theorem length_collect_eq_iff :
    (collect pairs []).length = pairs.length ↔ (pairs.map Prod.fst).Nodup := by
  have sorted : Sorted (collect pairs []) := Sorted.collect List.Pairwise.nil
  have keys : ((collect pairs []).map Prod.fst).toFinset = (pairs.map Prod.fst).toFinset := by
    ext key
    rw [List.mem_toFinset, List.mem_toFinset, mem_keys_collect]
    exact or_iff_left List.not_mem_nil
  have count : (collect pairs []).length = (pairs.map Prod.fst).toFinset.card := by
    rw [← keys, List.toFinset_card_of_nodup sorted.nodup, List.length_map]
  have length : pairs.length = (pairs.map Prod.fst).length := (List.length_map _).symm
  rw [count, length]
  constructor
  · intro full
    exact Multiset.toFinset_card_eq_card_iff_nodup.mp full
  · intro distinct
    exact List.toFinset_card_of_nodup distinct

theorem get?_collect_of_notMem (absent : key ∉ pairs.map Prod.fst) :
    get? key (collect pairs entries) = get? key entries := by
  induction pairs generalizing entries with
  | nil => rfl
  | cons pair rest ih =>
    rw [List.map_cons, List.mem_cons, not_or] at absent
    have later : get? key (collect rest (insert pair.1 pair.2 entries)) = _ := ih absent.2
    rw [get?_insert, if_neg (Ne.symm absent.1)] at later
    exact later

theorem get?_collect (distinct : (pairs.map Prod.fst).Nodup) (member : (key, value) ∈ pairs) :
    get? key (collect pairs entries) = some value := by
  induction pairs generalizing entries with
  | nil => cases member
  | cons _ rest ih =>
    rw [List.map_cons, List.nodup_cons] at distinct
    cases List.mem_cons.mp member with
    | inl first =>
      subst first
      have kept : get? key (collect rest (insert key value entries)) = _ :=
        get?_collect_of_notMem distinct.1
      rw [get?_insert, if_pos rfl] at kept
      exact kept
    | inr later => exact ih distinct.2 later

end Entries

structure OrderedMap (κ ν : Type) [LinearOrder κ] where
  entries : List (κ × ν)
  sorted : Entries.Sorted entries

namespace OrderedMap

variable {κ ν : Type} [LinearOrder κ]

def get? (map : OrderedMap κ ν) (key : κ) : Option ν := Entries.get? key map.entries

def ofList (pairs : List (κ × ν)) : OrderedMap κ ν where
  entries := Entries.collect pairs []
  sorted := Entries.Sorted.collect List.Pairwise.nil

def insert (map : OrderedMap κ ν) (key : κ) (value : ν) : OrderedMap κ ν where
  entries := Entries.insert key value map.entries
  sorted := map.sorted.insert

def erase (map : OrderedMap κ ν) (key : κ) : OrderedMap κ ν where
  entries := Entries.erase key map.entries
  sorted := map.sorted.erase

variable {map : OrderedMap κ ν} {key other : κ} {value : ν}

theorem get?_ofList {pairs : List (κ × ν)} (distinct : (pairs.map Prod.fst).Nodup)
    (member : (key, value) ∈ pairs) : (ofList pairs).get? key = some value :=
  Entries.get?_collect distinct member

theorem get?_insert :
    (map.insert key value).get? other = if key = other then some value else map.get? other :=
  Entries.get?_insert

theorem get?_erase : (map.erase key).get? other = if key = other then none else map.get? other :=
  Entries.get?_erase

end OrderedMap

end Library
