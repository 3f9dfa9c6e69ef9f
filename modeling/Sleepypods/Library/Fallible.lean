import Mathlib

/-! Fallible computations in `Except`: the guards that sequential code is written with, and the
inversion rules that take a successful computation apart into its successful steps. -/

set_option autoImplicit false

namespace Library.Fallible

variable {ε α β : Type}

def require (condition : Prop) [Decidable condition] (error : ε) : Except ε Unit :=
  if condition then .ok () else .error error

def orError (value : Option α) (error : ε) : Except ε α :=
  match value with
  | some value => .ok value
  | none => .error error

variable {first : Except ε α}

@[simp]
theorem bind_eq_ok {next : α → Except ε β} {result : β} :
    (first >>= next) = .ok result ↔ ∃ value, first = .ok value ∧ next value = .ok result := by
  cases first with
  | error | ok => simp [bind, Except.bind]

theorem ok_bind (value : α) (next : α → Except ε β) :
    ((.ok value : Except ε α) >>= next) = next value := rfl

@[simp]
theorem pure_eq_ok {value result : α} :
    (pure value : Except ε α) = .ok result ↔ value = result := by
  simp [pure, Except.pure]

theorem pure_pair_eq_ok {first second : α} {left right : β} :
    (pure (first, left) : Except ε (α × β)) = .ok (second, right) ↔
      second = first ∧ right = left := by
  rw [pure_eq_ok, Prod.mk.injEq, eq_comm, @eq_comm β left]

theorem bind_eq_error {next : α → Except ε β} {error : ε} :
    (first >>= next) = .error error ↔
      first = .error error ∨ ∃ value, first = .ok value ∧ next value = .error error := by
  cases first with
  | error | ok => simp [bind, Except.bind]

theorem map_eq_ok {change : α → β} {result : β} :
    first.map change = .ok result ↔ ∃ value, first = .ok value ∧ change value = result := by
  cases first with
  | error | ok => simp [Except.map]

theorem toOption_eq_some {value : α} : first.toOption = some value ↔ first = .ok value := by
  cases first with
  | error | ok => simp [Except.toOption]

/-- A computation whose second result is known returned it with some first result. -/
theorem map_snd_eq_ok {run : Except ε (α × β)} {second : β} :
    Prod.snd <$> run = .ok second ↔ ∃ first, run = .ok (first, second) := by
  cases run with
  | error => simp [Functor.map, Except.map]
  | ok => simp [Functor.map, Except.map, Prod.ext_iff]

@[simp]
theorem require_eq_ok {condition : Prop} [Decidable condition] {error : ε} {value : Unit} :
    require condition error = .ok value ↔ condition := by
  unfold require
  split <;> simp_all

theorem require_eq_error {condition : Prop} [Decidable condition] {error result : ε} :
    require condition error = .error result ↔ ¬condition ∧ error = result := by
  unfold require
  split <;> simp_all

@[simp]
theorem orError_eq_ok {value : Option α} {error : ε} {result : α} :
    orError value error = .ok result ↔ value = some result := by
  cases value <;> simp [orError]

theorem foldlM_preserves {invariant : β → Prop} {step : β → α → Except ε β}
    (preserved : ∀ state item next, invariant state → step state item = .ok next →
      invariant next) :
    ∀ (items : List α) (state final : β), invariant state →
      items.foldlM step state = .ok final → invariant final := by
  intro items
  induction items with
  | nil =>
    intro state final holds folded
    simp only [List.foldlM_nil, pure_eq_ok] at folded
    exact folded ▸ holds
  | cons item _ ih =>
    intro state final holds folded
    simp only [List.foldlM_cons, bind_eq_ok] at folded
    obtain ⟨next, stepped, rested⟩ := folded
    exact ih next final (preserved state item next holds stepped) rested

theorem forM_eq_ok {check : α → Except ε Unit} {items : List α} :
    items.forM check = .ok () ↔ ∀ item ∈ items, check item = .ok () := by
  induction items with
  | nil => exact iff_of_true rfl nofun
  | cons _ _ ih =>
    rw [List.forall_mem_cons, ← ih]
    exact bind_eq_ok.trans ⟨fun ⟨⟨⟩, passed⟩ => passed, fun passed => ⟨(), passed⟩⟩

theorem exists_of_mem_mapM {read : α → Except ε β} {items : List α} {values : List β}
    (read_all : items.mapM read = .ok values) {value : β} (member : value ∈ values) :
    ∃ item ∈ items, read item = .ok value := by
  induction items generalizing values with
  | nil =>
    cases pure_eq_ok.mp read_all
    cases member
  | cons item _ ih =>
    simp only [List.mapM_cons, bind_eq_ok, pure_eq_ok] at read_all
    obtain ⟨first, firstRead, later, laterRead, rfl⟩ := read_all
    cases List.mem_cons.mp member with
    | inl same => exact ⟨item, List.mem_cons_self, same ▸ firstRead⟩
    | inr inside =>
      obtain ⟨source, sourceMember, sourceRead⟩ := ih laterRead inside
      exact ⟨source, List.mem_cons_of_mem _ sourceMember, sourceRead⟩

theorem exists_mapM_eq_ok {read : α → Except ε β} {items : List α}
    (reads : ∀ item ∈ items, ∃ value, read item = .ok value) :
    ∃ values, items.mapM read = .ok values := by
  induction items with
  | nil => exact ⟨[], rfl⟩
  | cons item _ ih =>
    obtain ⟨value, first⟩ := reads item List.mem_cons_self
    obtain ⟨values, later⟩ := ih fun item member => reads item (List.mem_cons_of_mem _ member)
    refine ⟨value :: values, ?_⟩
    simp only [List.mapM_cons, first, later, ok_bind]
    rfl

end Library.Fallible
