import Mathlib

/-! A numbered log of which only a recent part is retained. Appending numbers its payloads in
order and drops rows beyond a bounded distance; pruning drops the oldest rows by age. A reader
polls from a cursor, and is told to reset when rows it has not read are gone. -/

set_option autoImplicit false

namespace Library

structure LogRow (α : Type) where
  revision : Nat
  createdAt : Int
  payload : α

/-- The rows still retained, and the revision of the last row ever appended. `history` is
ghost state: every payload ever appended, which no operation reads. -/
structure RetainedLog (α : Type) where
  revision : Nat
  rows : List (LogRow α)
  history : List α

structure LogPoll (α : Type) where
  cursor : Nat
  reset : Bool
  events : List α

namespace RetainedLog

variable {α : Type}

def empty : RetainedLog α := ⟨0, [], []⟩

/-- Rows for consecutive revisions above `revision`. -/
def number (createdAt : Int) : Nat → List α → List (LogRow α)
  | _, [] => []
  | revision, payload :: rest =>
    ⟨revision + 1, createdAt, payload⟩ :: number createdAt (revision + 1) rest

/-- Append payloads under the next revisions, then drop every row at least `retention` behind
the last one. Nothing happens when there is nothing to append. -/
def append (log : RetainedLog α) (createdAt : Int) (retention : Nat) (payloads : List α) :
    RetainedLog α :=
  if payloads.isEmpty then log
  else
    { revision := log.revision + payloads.length
      rows := (log.rows ++ number createdAt log.revision payloads).filter fun row =>
        !decide (row.revision + retention ≤ log.revision + payloads.length)
      history := log.history ++ payloads }

theorem revision_append (log : RetainedLog α) (createdAt : Int) (retention : Nat)
    (payloads : List α) :
    (log.append createdAt retention payloads).revision = log.revision + payloads.length := by
  unfold append
  cases payloads <;> rfl

theorem history_append (log : RetainedLog α) (createdAt : Int) (retention : Nat)
    (payloads : List α) :
    (log.append createdAt retention payloads).history = log.history ++ payloads := by
  unfold append
  cases payloads with
  | nil => exact (List.append_nil _).symm
  | cons => rfl

def byRevision (left right : LogRow α) : Prop := left.revision ≤ right.revision

instance : DecidableRel (byRevision (α := α)) := fun left right =>
  inferInstanceAs (Decidable (left.revision ≤ right.revision))

def oldest (rows : List (LogRow α)) : Option Nat := (rows.map LogRow.revision).min?

/-- The revision below which rows are old enough to prune: the oldest row created since
`cutoff`, or `ceiling` when every row is older. -/
def pruneBound (log : RetainedLog α) (cutoff : Int) (ceiling : Nat) : Nat :=
  (oldest (log.rows.filter fun row => decide (cutoff ≤ row.createdAt))).getD ceiling

def pruned (log : RetainedLog α) (cutoff : Int) (ceiling limit : Nat) : List (LogRow α) :=
  ((log.rows.filter fun row => decide (row.revision < log.pruneBound cutoff ceiling)).insertionSort
    byRevision).take limit

def prune (log : RetainedLog α) (cutoff : Int) (ceiling limit : Nat) : RetainedLog α :=
  { log with
    rows := log.rows.filter fun row =>
      !((log.pruned cutoff ceiling limit).map LogRow.revision).contains row.revision }

def needsReset (log : RetainedLog α) (cursor : Nat) : Bool :=
  decide (log.revision < cursor) ||
    (decide (cursor < log.revision) &&
      match oldest log.rows with
      | none => true
      | some oldest => decide (cursor + 1 < oldest))

/-- The rows after the cursor, in order, at most `limit` of them. -/
def after (log : RetainedLog α) (cursor limit : Nat) : List (LogRow α) :=
  ((log.rows.filter fun row => decide (cursor < row.revision)).insertionSort byRevision).take limit

def poll (log : RetainedLog α) (cursor limit : Nat) : LogPoll α :=
  if log.needsReset cursor then
    { cursor := log.revision, reset := true, events := [] }
  else
    { cursor := ((log.after cursor limit).getLast?.map LogRow.revision).getD log.revision
      reset := false
      events := (log.after cursor limit).map LogRow.payload }

/-! ### Rows numbered without a gap -/

/-- The rows carry exactly these payloads, under the revisions following `floor`. -/
inductive Numbered : Nat → List α → List (LogRow α) → Prop where
  | nil (floor : Nat) : Numbered floor [] []
  | cons {floor : Nat} {payloads : List α} {rows : List (LogRow α)} (createdAt : Int)
      (payload : α) (rest : Numbered (floor + 1) payloads rows) :
      Numbered floor (payload :: payloads) (⟨floor + 1, createdAt, payload⟩ :: rows)

theorem numbered_number (createdAt : Int) (floor : Nat) (payloads : List α) :
    Numbered floor payloads (number createdAt floor payloads) := by
  induction payloads generalizing floor with
  | nil => exact .nil floor
  | cons payload _ ih => exact .cons createdAt payload (ih (floor + 1))

namespace Numbered

variable {floor : Nat} {payloads : List α} {rows : List (LogRow α)}

variable (numbered : Numbered floor payloads rows)

include numbered

theorem map_payload : rows.map LogRow.payload = payloads := by
  induction numbered with
  | nil => rfl
  | cons _ _ _ ih => simp [ih]

theorem map_revision : rows.map LogRow.revision = List.range' (floor + 1) payloads.length := by
  induction numbered with
  | nil => rfl
  | cons _ _ _ ih => simp [ih, List.range'_succ]

theorem mem_revision {row : LogRow α} (member : row ∈ rows) :
    floor < row.revision ∧ row.revision ≤ floor + payloads.length := by
  have listed := List.mem_map_of_mem (f := LogRow.revision) member
  rw [numbered.map_revision, List.mem_range'_1] at listed
  omega

theorem append {more : List α} {moreRows : List (LogRow α)}
    (continued : Numbered (floor + payloads.length) more moreRows) :
    Numbered floor (payloads ++ more) (rows ++ moreRows) := by
  induction numbered with
  | nil => simpa using continued
  | cons createdAt payload _ ih =>
    refine .cons createdAt payload (ih ?_)
    simpa [Nat.add_comm, Nat.add_left_comm, Nat.add_assoc] using continued

theorem take (count : Nat) : Numbered floor (payloads.take count) (rows.take count) := by
  induction numbered generalizing count with
  | nil => simpa using Numbered.nil _
  | cons createdAt payload _ ih =>
    cases count with
    | zero => exact .nil _
    | succ count => exact .cons createdAt payload (ih count)

theorem filter_above (bound : Nat) :
    Numbered (max floor bound) (payloads.drop (bound - floor))
      (rows.filter fun row => decide (bound < row.revision)) := by
  induction numbered with
  | nil => simpa using Numbered.nil _
  | @cons floor payloads rows createdAt payload rest ih =>
    by_cases kept : bound ≤ floor
    · have above : bound < floor + 1 := by omega
      have bounded : max (floor + 1) bound = floor + 1 := by omega
      have untouched : bound - (floor + 1) = 0 := by omega
      rw [bounded, untouched, List.drop_zero] at ih
      rw [Nat.max_eq_left kept, Nat.sub_eq_zero_of_le kept, List.drop_zero,
        List.filter_cons_of_pos (by simpa using above)]
      exact .cons createdAt payload ih
    · have below : ¬bound < floor + 1 := by omega
      have bounded : max (floor + 1) bound = max floor bound := by omega
      obtain ⟨gap, gapEq⟩ : ∃ gap, bound - floor = gap + 1 := ⟨bound - floor - 1, by omega⟩
      have gapNext : bound - (floor + 1) = gap := by omega
      rw [bounded, gapNext] at ih
      rw [gapEq, List.drop_succ_cons, List.filter_cons_of_neg (by simpa using below)]
      exact ih

theorem filter_below (bound : Nat) :
    rows.filter (fun row => decide (row.revision < bound)) = rows.take (bound - 1 - floor) := by
  induction numbered with
  | nil => simp
  | @cons floor payloads rows createdAt payload rest ih =>
    by_cases below : floor + 1 < bound
    · obtain ⟨gap, gapEq⟩ : ∃ gap, bound - 1 - floor = gap + 1 :=
        ⟨bound - 1 - floor - 1, by omega⟩
      have gapNext : bound - 1 - (floor + 1) = gap := by omega
      rw [gapEq, List.take_succ_cons, List.filter_cons_of_pos (by simpa using below), ih,
        gapNext]
    · have none : bound - 1 - floor = 0 := by omega
      have noneNext : bound - 1 - (floor + 1) = 0 := by omega
      rw [none, List.take_zero, List.filter_cons_of_neg (by simpa using below), ih, noneNext,
        List.take_zero]

theorem sorted : rows.Pairwise byRevision := by
  have ascending : (rows.map LogRow.revision).Pairwise (· ≤ ·) := by
    rw [numbered.map_revision]
    exact List.pairwise_le_range'
  rw [List.pairwise_map] at ascending
  exact ascending

theorem oldest_eq : oldest rows = if payloads.isEmpty then none else some (floor + 1) := by
  cases numbered with
  | nil => rfl
  | @cons _ payloads rows createdAt payload rest =>
    have whole := Numbered.cons createdAt payload rest
    rw [List.isEmpty_cons, if_neg (by simp), oldest, List.min?_eq_some_iff]
    refine ⟨by simp, ?_⟩
    intro revision member
    rw [whole.map_revision, List.mem_range'_1] at member
    exact member.1

theorem getLast?_revision :
    rows.getLast?.map LogRow.revision =
      if payloads.isEmpty then none else some (floor + payloads.length) := by
  rw [← List.getLast?_map, numbered.map_revision]
  cases payloads with
  | nil => rfl
  | cons payload rest =>
    simp [List.getLast?_range']
    omega

end Numbered

/-! ### Everything above a floor is retained -/

/-- The log retains exactly the history above `floor`, each payload under its own revision. -/
structure RetainsAbove (log : RetainedLog α) (floor : Nat) : Prop where
  floor_le : floor ≤ log.revision
  length_history : log.history.length = log.revision
  numbered : Numbered floor (log.history.drop floor) log.rows

theorem empty_retainsAbove : (empty : RetainedLog α).RetainsAbove 0 :=
  ⟨Nat.le_refl 0, rfl, .nil 0⟩

namespace RetainsAbove

variable {log : RetainedLog α} {floor : Nat}

variable (retains : log.RetainsAbove floor)

include retains

theorem raise (bound : Nat) (bounded : bound ≤ log.revision) (keeps : LogRow α → Bool)
    (cut : ∀ row ∈ log.rows, keeps row = decide (bound < row.revision)) :
    RetainsAbove { log with rows := log.rows.filter keeps } (max floor bound) where
  floor_le := Nat.max_le.mpr ⟨retains.floor_le, bounded⟩
  length_history := retains.length_history
  numbered := by
    have kept := retains.numbered.filter_above bound
    have joined : floor + (bound - floor) = max floor bound := by omega
    rw [List.drop_drop, joined] at kept
    rw [List.filter_congr cut]
    exact kept

theorem append (createdAt : Int) (retention : Nat) (payloads : List α) :
    ∃ raised, floor ≤ raised ∧ (log.append createdAt retention payloads).RetainsAbove raised := by
  unfold RetainedLog.append
  split
  · exact ⟨floor, Nat.le_refl floor, retains⟩
  · have continued : Numbered (floor + (log.history.drop floor).length) payloads
        (number createdAt log.revision payloads) := by
      rw [List.length_drop, retains.length_history, Nat.add_sub_cancel' retains.floor_le]
      exact numbered_number createdAt log.revision payloads
    have bounded : floor ≤ log.history.length := by
      rw [retains.length_history]
      exact retains.floor_le
    have numbered := retains.numbered.append continued
    rw [← List.drop_append_of_le_length bounded] at numbered
    have appended : RetainsAbove
        { revision := log.revision + payloads.length
          rows := log.rows ++ number createdAt log.revision payloads
          history := log.history ++ payloads } floor :=
      ⟨Nat.le_add_right_of_le retains.floor_le, by simp [retains.length_history], numbered⟩
    -- A row that is too far behind is one at or below `next - retention`.
    refine ⟨_, Nat.le_max_left _ (log.revision + payloads.length - retention),
      appended.raise _ (Nat.sub_le _ _) _ ?_⟩
    intro row member
    have positive := (numbered.mem_revision member).1
    rw [← decide_not, decide_eq_decide]
    dsimp only
    omega

theorem prune (cutoff : Int) (ceiling limit : Nat) :
    ∃ raised, floor ≤ raised ∧ (log.prune cutoff ceiling limit).RetainsAbove raised := by
  -- The rows below the bound come first, so the deleted rows are the first rows of the log.
  obtain ⟨count, deletedRows⟩ : ∃ count, log.pruned cutoff ceiling limit = log.rows.take count := by
    refine ⟨min limit (log.pruneBound cutoff ceiling - 1 - floor), ?_⟩
    have first := retains.numbered.take (log.pruneBound cutoff ceiling - 1 - floor)
    rw [pruned, retains.numbered.filter_below, first.sorted.insertionSort_eq, List.take_take]
  have deleted := retains.numbered.take count
  have counted : ((log.history.drop floor).take count).length ≤ log.revision - floor := by
    rw [List.length_take, List.length_drop, retains.length_history]
    exact Nat.min_le_right _ _
  refine ⟨_, Nat.le_max_left _ (floor + ((log.history.drop floor).take count).length),
    retains.raise _ ?_ _ ?_⟩
  · have bounded := retains.floor_le
    omega
  · intro row member
    have position := retains.numbered.mem_revision member
    rw [deletedRows, deleted.map_revision, ← List.elem_eq_contains, List.elem_eq_mem, ← decide_not,
      decide_eq_decide, List.mem_range'_1]
    omega

/-- A poll at or below the current revision asks for a reset exactly when the next row it has
not read is gone. -/
theorem needsReset_eq {cursor : Nat} (read : cursor ≤ log.revision) :
    log.needsReset cursor = decide (cursor < floor) := by
  have bounded := retains.floor_le
  have length := retains.length_history
  rw [needsReset, retains.numbered.oldest_eq]
  by_cases drained : (log.history.drop floor).isEmpty
  · rw [if_pos drained]
    rw [List.isEmpty_iff, List.drop_eq_nil_iff] at drained
    simp only [Bool.and_true, ← Bool.decide_or, decide_eq_decide]
    omega
  · rw [if_neg drained]
    rw [List.isEmpty_iff, List.drop_eq_nil_iff] at drained
    simp only [← Bool.decide_or, ← Bool.decide_and, decide_eq_decide]
    omega

/-- Above the floor, the rows after the cursor are the history after the cursor. -/
theorem after_numbered {cursor : Nat} (unread : floor ≤ cursor) (limit : Nat) :
    Numbered cursor ((log.history.drop cursor).take limit) (log.after cursor limit) := by
  have above := retains.numbered.filter_above cursor
  have joined : floor + (cursor - floor) = cursor := by omega
  rw [Nat.max_eq_right unread, List.drop_drop, joined] at above
  rw [after, above.sorted.insertionSort_eq]
  exact above.take limit

theorem poll_reset {cursor : Nat} (read : cursor ≤ log.revision) (limit : Nat)
    (lost : cursor < floor) :
    log.poll cursor limit = { cursor := log.revision, reset := true, events := [] } := by
  have resets : log.needsReset cursor = true := by
    rw [retains.needsReset_eq read]
    exact decide_eq_true lost
  rw [poll, if_pos resets]

/-- A poll that does not reset returns the next payloads after the cursor and moves the cursor
past exactly those. -/
theorem poll_events {cursor : Nat} (read : cursor ≤ log.revision) {limit : Nat}
    (positive : 0 < limit) (unread : floor ≤ cursor) :
    log.poll cursor limit =
      { cursor := cursor + ((log.history.drop cursor).take limit).length
        reset := false
        events := (log.history.drop cursor).take limit } := by
  have continues : ¬log.needsReset cursor = true := by
    rw [retains.needsReset_eq read, decide_eq_true_eq]
    omega
  have next := retains.after_numbered unread limit
  rw [poll, if_neg continues, next.map_payload, next.getLast?_revision]
  by_cases caughtUp : ((log.history.drop cursor).take limit).isEmpty
  · rw [if_pos caughtUp]
    rw [List.isEmpty_iff, List.take_eq_nil_iff, List.drop_eq_nil_iff] at caughtUp
    have length := retains.length_history
    have atEnd : cursor = log.revision := by omega
    simp [atEnd, ← length]
  · rw [if_neg caughtUp, Option.getD_some]

end RetainsAbove

/-- A reader of the log: where it last started, its cursor, and the payloads received since. -/
structure Reader (α : Type) where
  start : Nat
  cursor : Nat
  received : List α

def Reader.begin (log : RetainedLog α) : Reader α := ⟨log.revision, log.revision, []⟩

/-- What a poll returned; a reset starts over at the returned cursor. -/
def Reader.receive (reader : Reader α) (result : LogPoll α) : Reader α :=
  if result.reset then ⟨result.cursor, result.cursor, []⟩
  else ⟨reader.start, result.cursor, reader.received ++ result.events⟩

def Reader.poll (reader : Reader α) (log : RetainedLog α) (limit : Nat) : Reader α :=
  reader.receive (log.poll reader.cursor limit)

/-- The reader has received the whole history between its start and its cursor. -/
structure Reader.UpToDate (reader : Reader α) (history : List α) : Prop where
  start_le : reader.start ≤ reader.cursor
  cursor_le : reader.cursor ≤ history.length
  received_eq : reader.received = (history.take reader.cursor).drop reader.start

theorem Reader.begin_upToDate {log : RetainedLog α} {floor : Nat}
    (retains : log.RetainsAbove floor) : (Reader.begin log).UpToDate log.history where
  start_le := Nat.le_refl _
  cursor_le := Nat.le_of_eq retains.length_history.symm
  received_eq := by
    rw [begin, eq_comm, List.drop_eq_nil_iff, List.length_take]
    exact Nat.min_le_left _ _

theorem Reader.UpToDate.append {reader : Reader α} {history : List α}
    (upToDate : reader.UpToDate history) (payloads : List α) :
    reader.UpToDate (history ++ payloads) where
  start_le := upToDate.start_le
  cursor_le := by
    rw [List.length_append]
    exact Nat.le_add_right_of_le upToDate.cursor_le
  received_eq := by
    rw [upToDate.received_eq, List.take_append_of_le_length upToDate.cursor_le]

theorem Reader.UpToDate.poll {reader : Reader α} {log : RetainedLog α} {floor : Nat}
    (upToDate : reader.UpToDate log.history) (retains : log.RetainsAbove floor) {limit : Nat}
    (positive : 0 < limit) : (reader.poll log limit).UpToDate log.history := by
  have read : reader.cursor ≤ log.revision := by
    rw [← retains.length_history]
    exact upToDate.cursor_le
  unfold Reader.poll Reader.receive
  by_cases lost : reader.cursor < floor
  · rw [retains.poll_reset read limit lost]
    exact Reader.begin_upToDate retains
  · rw [retains.poll_events read positive (Nat.le_of_not_lt lost)]
    simp only [Bool.false_eq_true, if_false]
    have bounded := upToDate.cursor_le
    refine ⟨Nat.le_add_right_of_le upToDate.start_le, ?_, ?_⟩
    · simp only [List.length_take, List.length_drop]
      omega
    · have started : reader.start ≤ (log.history.take reader.cursor).length := by
        rw [List.length_take]
        exact Nat.le_min.mpr ⟨upToDate.start_le, Nat.le_trans upToDate.start_le bounded⟩
      rw [List.take_add, List.drop_append_of_le_length started, ← upToDate.received_eq]
      simp

end RetainedLog

end Library
