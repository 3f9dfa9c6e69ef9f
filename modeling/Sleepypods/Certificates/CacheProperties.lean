import Sleepypods.Certificates.Cache

/-! Old key material outlives a notification only when the notification allows it: the generation
of an entry fences off the fetches that were queued before. -/

set_option autoImplicit false

namespace Sleepypods.CertificateCache

open Library Library.Fallible Certificates State Entry

variable {env : CacheEnv} {state next : State} {hostname : TlsHostname} {entry : Entry}

/-! ### The moves of the cache -/

def State.fetches (state : State) : List Fetch :=
  state.queued ++ state.running.map Running.fetch

inductive Move (env : CacheEnv) (state : State) : State → Prop where
  | advanced : Move env state { state with serial := state.serial + 1 }
  | touched (hostname : TlsHostname) (serial : Nat) :
      Move env state (state.updateEntry hostname fun entry => { entry with touched := serial })
  | created (hostname : TlsHostname) :
      Move env state { state with
        serial := state.serial + 1
        entries := state.entries.insert hostname (.new (state.serial + 1)) }
  | evicted (hostname : TlsHostname) :
      Move env state { state with entries := state.entries.erase hostname }
  | queued (hostname : TlsHostname) (entry : Entry)
      (found : state.entries.find? hostname = some entry) (idle : entry.pending = false) :
      Move env state { state.updateEntry hostname fun entry =>
        { entry with pending := true, refreshRequested := false, lastError := none } with
        queued := state.queued ++ [entry.fetch hostname] }
  | invalidated (notification : Notification) (applied : applies notification state = true) :
      Move env state (invalidate notification state)
  | started (fetch : Fetch) (rest : List Fetch) (now : Nat) (wall : Int)
      (first : state.queued = fetch :: rest) :
      Move env state
        { state with queued := rest, running := state.running ++ [⟨fetch, now, wall⟩] }
  | finished (index : Nat) (task : Running) (entry : Entry) (report : Report)
      (runs : state.running[index]? = some task)
      (found : state.entries.find? task.fetch.hostname = some entry)
      (current : entry.generation = task.fetch.generation) :
      Move env state ({ state with running := state.running.eraseIdx index }.updateEntry
        task.fetch.hostname fun entry =>
          entry.finished (task.outcome env report state.shutdown) report.failedAt)
  | dropped (queued : List Fetch) (running : List Running)
      (fewerQueued : queued.Sublist state.queued) (fewerRunning : running.Sublist state.running) :
      Move env state { state with queued := queued, running := running }
  | ended (shutdown : Bool) : Move env state { state with shutdown := shutdown }
  | stopped : Move env state { state with stopped := true, entries := .empty }

def Moves (env : CacheEnv) : State → State → Prop := Relation.ReflTransGen (Move env)

theorem Moves.single (move : Move env state next) : Moves env state next :=
  Relation.ReflTransGen.single move

theorem evictOne_moves {exclude : Option TlsHostname}
    (evicted : evictOne state exclude = some next) :
    ∃ victim, some victim ≠ exclude ∧
      next = { state with entries := state.entries.erase victim } := by
  obtain ⟨victim, least, rfl⟩ := Option.map_eq_some_iff.mp evicted
  have candidate := List.argmin_mem least
  rw [List.mem_filter] at candidate
  exact ⟨victim.1, by simpa using candidate.2, rfl⟩

theorem reserveMemory_moves (env : CacheEnv) (denials : Nat) (state : State) :
    Moves env state (reserveMemory hostname denials state).1 ∧
      (reserveMemory hostname denials state).1.entries.find? hostname =
        state.entries.find? hostname := by
  induction denials generalizing state with
  | zero => exact ⟨.refl, rfl⟩
  | succ _ ih =>
    unfold reserveMemory
    split
    next next evicted =>
      obtain ⟨victim, different, rfl⟩ := evictOne_moves evicted
      obtain ⟨moves, kept⟩ := ih { state with entries := state.entries.erase victim }
      refine ⟨.head (.evicted victim) moves, kept.trans ?_⟩
      have other : hostname ≠ victim := fun same => different (same ▸ rfl)
      simp [other]
    next => exact ⟨.refl, rfl⟩

theorem queueLocked_moves (supply : Supply) (hostname : TlsHostname) (state : State) :
    Moves env state (queueLocked supply hostname state).1 := by
  unfold queueLocked
  split
  · exact .refl
  next entry found =>
    split
    · exact .refl
    next pending =>
      split
      · exact .refl
      · obtain ⟨moves, kept⟩ := reserveMemory_moves env supply.denials state
        simp only
        split
        · refine moves.tail (Move.queued hostname entry (kept.trans found) ?_)
          simpa using pending
        · exact moves

theorem awaitFetch_moves (supply : Supply) (hostname : TlsHostname) (state : State) :
    Moves env state (awaitFetch supply hostname state).1 := by
  have moves : Moves env state (queueLocked supply hostname state).1 :=
    queueLocked_moves supply hostname state
  unfold awaitFetch
  split <;> simp_all

theorem resolveCached_moves (now : Nat) (wall : Int) (supply : Supply) :
    Moves env state (resolveCached hostname now wall supply state).1 := by
  have touch : Moves env state (state.updateEntry hostname fun entry =>
      { entry with touched := state.serial }) := .single (.touched hostname state.serial)
  unfold resolveCached
  simp only
  split
  · exact touch
  · exact touch.trans (awaitFetch_moves supply hostname _)

/-- The entry is created with the serial of its lookup, after the eviction that makes room. -/
theorem resolveNew_moves (entryMemory : Bool) (supply : Supply) :
    Moves env state
      (resolveNew hostname entryMemory supply { state with serial := state.serial + 1 }).1 := by
  have room : ∃ entries, Moves env state { state with entries := entries } ∧
      (if state.entries.size = certificateCacheEntries then
        (evictOne { state with serial := state.serial + 1 } none).getD
          { state with serial := state.serial + 1 }
      else { state with serial := state.serial + 1 }) =
        { state with serial := state.serial + 1, entries := entries } := by
    split
    · cases evicted : evictOne { state with serial := state.serial + 1 } none with
      | none => exact ⟨state.entries, .refl, rfl⟩
      | some =>
        obtain ⟨victim, -, rfl⟩ := evictOne_moves evicted
        exact ⟨_, .single (.evicted victim), rfl⟩
    · exact ⟨state.entries, .refl, rfl⟩
  obtain ⟨entries, moves, same⟩ := room
  unfold resolveNew
  simp only
  rw [same]
  split
  · exact (moves.tail (.created hostname)).trans (awaitFetch_moves supply hostname _)
  · exact moves.tail .advanced

theorem resolve_moves (hostname : TlsHostname) (now : Nat) (wall : Int) (entryMemory : Bool)
    (supply : Supply) (state : State) :
    Moves env state (resolve hostname now wall entryMemory supply state).1 := by
  unfold resolve
  split
  · exact .refl
  split
  · exact .refl
  simp only
  split
  · exact (Moves.single .advanced).trans (resolveCached_moves now wall supply)
  · exact resolveNew_moves entryMemory supply

theorem handle_moves (event : Event) : Moves env state (handle env event state) := by
  cases event with
  | resolve => exact resolve_moves _ _ _ _ _ _
  | poll => exact .refl
  | notify notification =>
    simp only [handle, apply]
    split
    next applied =>
      exact (Moves.single (.invalidated notification applied)).trans (queueLocked_moves _ _ _)
    · exact .refl
  | tick now =>
    simp only [handle, tick]
    generalize due state now = hosts
    induction hosts generalizing state with
    | nil => exact .refl
    | cons _ _ ih => exact (queueLocked_moves _ _ _).trans ih
  | start now wall =>
    simp only [handle]
    split
    · exact .refl
    next fetch rest first => exact .single (.started fetch rest now wall first)
  | finish index report =>
    simp only [handle]
    split
    · exact .refl
    next task runs =>
      have dropped : Move env state { state with running := state.running.eraseIdx index } :=
        .dropped _ _ (List.Sublist.refl _) (List.eraseIdx_sublist ..)
      unfold finish
      split
      next entry found =>
        split
        next current => exact .single (.finished index task entry report runs found current)
        · exact .single dropped
      · exact .single dropped
  | discardQueued => exact .single (.dropped _ _ (List.nil_sublist _) (List.Sublist.refl _))
  | discardRunning =>
    exact .single (.dropped _ _ (List.Sublist.refl _) (List.eraseIdx_sublist ..))
  | shutdown => exact .single (.ended true)
  | stop => exact .single .stopped

theorem moves_of_path (path : (cacheSystem env).Path (fun _ => True) state next) :
    Moves env state next := by
  induction path with
  | refl => exact .refl
  | tail _ last ih =>
    obtain ⟨event, -, rfl⟩ := last
    exact ih.trans (handle_moves event)

theorem Moves.preserves {holds : State → Prop}
    (preserved : ∀ state next, holds state → Move env state next → holds next)
    (moves : Moves env state next) (held : holds state) : holds next := by
  induction moves with
  | refl => exact held
  | tail _ last ih => exact preserved _ _ ih last

/-! ### What moves do to one entry -/

variable {change : Entry → Entry}

theorem find_updateEntry_self :
    (state.updateEntry hostname change).entries.find? hostname =
      (state.entries.find? hostname).map change := by
  simp [updateEntry]

theorem find_updateEntry_other {other : TlsHostname} (different : other ≠ hostname) :
    (state.updateEntry hostname change).entries.find? other = state.entries.find? other := by
  simp [updateEntry, different]

inductive EntryStep (env : CacheEnv) (state next : State) (hostname : TlsHostname) :
    Entry → Prop where
  /-- Its floor, generation, incarnation and view are as they were. -/
  | kept (old entry : Entry) (found : state.entries.find? hostname = some old)
      (incarnation : entry.incarnation = old.incarnation)
      (generation : entry.generation = old.generation) (floor : entry.floor = old.floor)
      (value : entry.value = old.value) (pending : old.pending = true → entry.pending = true) :
      EntryStep env state next hostname entry
  | created (serial : next.serial = state.serial + 1) :
      EntryStep env state next hostname (.new (state.serial + 1))
  | invalidated (old : Entry) (notification : Notification)
      (found : state.entries.find? hostname = some old)
      (news : old.floor < notification.revision) (serial : next.serial = state.serial + 1) :
      EntryStep env state next hostname (old.invalidated (state.serial + 1) notification.revision
        notification.certificateId notification.lastInvalidatingRevision)
  | finished (old : Entry) (index : Nat) (task : Running) (report : Report)
      (runs : state.running[index]? = some task) (same : task.fetch.hostname = hostname)
      (found : state.entries.find? hostname = some old)
      (current : old.generation = task.fetch.generation)
      (fetches : next.fetches = state.queued ++ (state.running.eraseIdx index).map Running.fetch) :
      EntryStep env state next hostname
        (old.finished (task.outcome env report state.shutdown) report.failedAt)

theorem EntryStep.same (found : state.entries.find? hostname = some entry) :
    EntryStep env state next hostname entry :=
  .kept entry entry found rfl rfl rfl rfl id

theorem EntryStep.update {changed : TlsHostname} {before : State}
    (entries : before.entries = state.entries)
    (found : (before.updateEntry changed change).entries.find? hostname = some entry)
    (step : ∀ old, hostname = changed → state.entries.find? hostname = some old →
      EntryStep env state next hostname (change old)) :
    EntryStep env state next hostname entry := by
  by_cases same : hostname = changed
  · subst same
    rw [find_updateEntry_self, entries] at found
    obtain ⟨old, stored, rfl⟩ := Option.map_eq_some_iff.mp found
    exact step old rfl stored
  · rw [find_updateEntry_other same, entries] at found
    exact .same found

theorem Move.entryStep (move : Move env state next)
    (found : next.entries.find? hostname = some entry) :
    EntryStep env state next hostname entry := by
  cases move with
  | advanced => exact .same found
  | touched =>
    exact .update rfl found fun old _ stored => .kept old _ stored rfl rfl rfl rfl id
  | created changed =>
    simp only [Table.find?_insert, Function.update_apply] at found
    split at found
    · cases found
      exact .created rfl
    · exact .same found
  | evicted changed =>
    simp only [Table.find?_erase, Function.update_apply] at found
    split at found
    · cases found
    · exact .same found
  | queued =>
    exact .update rfl found fun old _ stored => .kept old _ stored rfl rfl rfl rfl fun _ => rfl
  | invalidated notification applied =>
    refine .update rfl found fun old same stored => ?_
    have checked := applied
    simp only [applies, ← same, stored, Option.any_some, Bool.and_eq_true, decide_eq_true_eq]
      at checked
    exact .invalidated old notification stored checked.1.2 rfl
  | started => exact .same found
  | finished index task _ report runs stored current =>
    refine .update rfl found fun old same here => ?_
    subst same
    rw [stored] at here
    cases here
    exact .finished _ index task report runs rfl stored current rfl
  | dropped | ended => exact .same found
  | stopped => cases found

theorem Move.serial_le (move : Move env state next) : state.serial ≤ next.serial := by
  cases move <;> first | exact Nat.le_refl _ | exact Nat.le_succ _

/-- A fetch after a move was there before, or was just queued from an idle entry. -/
theorem Move.fetch (move : Move env state next) {fetch : Fetch} (held : fetch ∈ next.fetches) :
    fetch ∈ state.fetches ∨
      ∃ idle, state.entries.find? fetch.hostname = some idle ∧ idle.pending = false ∧
        fetch = idle.fetch fetch.hostname ∧
        ∃ busy, next.entries.find? fetch.hostname = some busy ∧ busy.pending = true ∧
          busy.floor = fetch.floor := by
  cases move with
  | queued changed entry found idle =>
    simp only [fetches, updateEntry, List.mem_append, List.mem_singleton] at held
    rcases held with (old | rfl) | running
    · exact .inl (List.mem_append_left _ old)
    · refine .inr ⟨entry, found, idle, rfl, { entry with
        pending := true, refreshRequested := false, lastError := none }, ?_, rfl, rfl⟩
      simp [updateEntry, Entry.fetch, found]
    · exact .inl (List.mem_append_right _ running)
  | started _ _ _ _ queue =>
    left
    simp only [fetches, List.map_append, List.map_cons, List.map_nil, List.mem_append,
      List.mem_singleton] at held ⊢
    rw [queue, List.mem_cons]
    rcases held with old | old | rfl
    · exact .inl (.inr old)
    · exact .inr old
    · exact .inl (.inl rfl)
  | finished index =>
    left
    simp only [fetches, updateEntry, List.mem_append] at held ⊢
    exact held.imp_right fun running =>
      ((List.eraseIdx_sublist state.running index).map _).subset running
  | dropped _ _ fewerQueued fewerRunning =>
    left
    simp only [fetches, List.mem_append] at held ⊢
    exact held.imp (fun old => fewerQueued.subset old)
      fun old => (fewerRunning.map _).subset old
  | advanced | touched | created | evicted | invalidated | ended | stopped => exact .inl held

/-! ### Fetches install at or above the floor they were queued with -/

variable {wall : Int} {view : View}

theorem outcome_floor {task : Running} {report : Report} {shutdown : Bool}
    (installed : task.outcome env report shutdown = .ok view) :
    task.fetch.floor ≤ view.revision := by
  simp only [Running.outcome, Running.result, bind_eq_ok, pure_eq_ok] at installed
  obtain ⟨-, -, validated, ⟨response, -, accepted⟩, -, -, rfl⟩ := installed
  simp only [validateView, bind_eq_ok, pure_eq_ok, require_eq_ok] at accepted
  obtain ⟨-, -, -, -, -, floor, -, -, _, -, -, -, rfl⟩ := accepted
  exact floor

/-- A fetch whose generation is that of its entry is the only one, and was queued at the floor the
entry still has. -/
structure Tracked (state : State) : Prop where
  entry_le : ∀ hostname entry, state.entries.find? hostname = some entry →
    entry.incarnation ≤ state.serial ∧ entry.generation ≤ state.serial
  view_le : ∀ hostname entry view, state.entries.find? hostname = some entry →
    entry.value = some view → view.revision ≤ entry.floor
  fetch_le : ∀ fetch ∈ state.fetches, fetch.generation ≤ state.serial
  current : ∀ fetch ∈ state.fetches, ∀ entry, state.entries.find? fetch.hostname = some entry →
    fetch.generation = entry.generation → entry.pending = true ∧ fetch.floor = entry.floor
  unique : state.fetches.Pairwise fun first second =>
    first.hostname = second.hostname → first.generation ≠ second.generation

theorem Tracked.new : Tracked .new where
  entry_le _ _ found := by cases found
  view_le _ _ _ found := by cases found
  fetch_le _ held := by cases held
  current _ held := by cases held
  unique := List.Pairwise.nil

variable {index : Nat}

theorem fetches_of_running {task : Running} (runs : state.running[index]? = some task) :
    state.fetches.Perm
      (task.fetch :: (state.queued ++ (state.running.eraseIdx index).map Running.fetch)) := by
  obtain ⟨bound, rfl⟩ := List.getElem?_eq_some_iff.mp runs
  have split : state.running.Perm (state.running[index] :: state.running.eraseIdx index) :=
    (List.getElem_cons_eraseIdx_perm bound).symm
  calc state.queued ++ state.running.map Running.fetch
    _ |>.Perm (state.queued ++
        (state.running[index] :: state.running.eraseIdx index).map Running.fetch) :=
      (split.map _).append_left _
    _ |>.Perm _ := List.perm_middle

section

variable (tracked : Tracked state)

include tracked

theorem Tracked.task {task : Running} (runs : state.running[index]? = some task)
    (found : state.entries.find? task.fetch.hostname = some entry)
    (current : entry.generation = task.fetch.generation) : task.fetch.floor = entry.floor := by
  have held : task.fetch ∈ state.fetches :=
    (fetches_of_running runs).mem_iff.mpr List.mem_cons_self
  exact (tracked.current task.fetch held entry found current.symm).2

theorem Tracked.entry_le_move (move : Move env state next)
    (found : next.entries.find? hostname = some entry) :
    entry.incarnation ≤ next.serial ∧ entry.generation ≤ next.serial := by
  cases move.entryStep found with
  | kept old _ stored incarnation generation =>
    have old_le := tracked.entry_le hostname old stored
    have serial_le := move.serial_le
    omega
  | created serial => simp [Entry.new, serial]
  | invalidated old notification stored news serial =>
    have old_le := tracked.entry_le hostname old stored
    simp only [invalidated]
    omega
  | finished old index task report runs same stored current fetches =>
    have old_le := tracked.entry_le hostname old stored
    have serial_le := move.serial_le
    unfold finished
    split <;> simp only <;> omega

theorem Tracked.view_le_move (move : Move env state next)
    (found : next.entries.find? hostname = some entry) (value : entry.value = some view) :
    view.revision ≤ entry.floor := by
  cases move.entryStep found with
  | kept old _ stored _ _ floor same =>
    rw [floor]
    exact tracked.view_le hostname old view stored (same ▸ value)
  | created => cases value
  | invalidated old _ stored news =>
    have kept : old.value = some view := (Option.filter_eq_some_iff.mp value).1
    exact (tracked.view_le hostname old view stored kept).trans news.le
  | finished old _ _ _ _ _ stored =>
    unfold finished at value ⊢
    split at value
    · cases value
      exact Nat.le_max_right _ _
    · obtain ⟨before, stays, rfl⟩ := Option.map_eq_some_iff.mp value
      exact tracked.view_le hostname old before stored stays

theorem Tracked.fetch_le_move (move : Move env state next) {fetch : Fetch}
    (held : fetch ∈ next.fetches) : fetch.generation ≤ state.serial := by
  rcases move.fetch held with old | ⟨idle, found, -, same, -⟩
  · exact tracked.fetch_le fetch old
  · rw [same]
    exact (tracked.entry_le _ idle found).2

theorem Tracked.unique_move (move : Move env state next) :
    next.fetches.Pairwise fun first second =>
      first.hostname = second.hostname → first.generation ≠ second.generation := by
  have symmetric : ∀ {first second : Fetch},
      (first.hostname = second.hostname → first.generation ≠ second.generation) →
      second.hostname = first.hostname → second.generation ≠ first.generation :=
    fun differ same equal => differ same.symm equal.symm
  cases move with
  | queued changed entry found idle =>
    -- The new fetch has the generation of an idle entry, so no other fetch has it.
    have order : fetches { state.updateEntry changed fun entry =>
        { entry with pending := true, refreshRequested := false, lastError := none } with
          queued := state.queued ++ [entry.fetch changed] } |>.Perm
        (entry.fetch changed :: state.fetches) := by
      simp only [fetches, updateEntry, List.append_assoc, List.singleton_append]
      exact List.perm_middle
    refine (order.pairwise_iff symmetric).mpr (List.pairwise_cons.mpr ⟨?_, tracked.unique⟩)
    intro fetch held same equal
    have busy := (tracked.current fetch held entry (same ▸ found) equal.symm).1
    rw [idle] at busy
    cases busy
  | started first rest now wall queue =>
    have order : fetches
        { state with queued := rest, running := state.running ++ [⟨first, now, wall⟩] } |>.Perm
        state.fetches := by
      simp only [fetches, queue, List.map_append, List.map_cons, List.map_nil,
        ← List.append_assoc]
      exact List.perm_append_singleton _ _
    exact (order.pairwise_iff symmetric).mpr tracked.unique
  | finished _ _ _ _ runs =>
    exact (List.pairwise_cons.mp
      (((fetches_of_running runs).pairwise_iff symmetric).mp tracked.unique)).2
  | dropped _ _ fewerQueued fewerRunning =>
    exact tracked.unique.sublist (fewerQueued.append (fewerRunning.map _))
  | advanced | touched | created | evicted | invalidated | ended | stopped => exact tracked.unique

theorem Tracked.current_move (move : Move env state next) {fetch : Fetch}
    (held : fetch ∈ next.fetches) (found : next.entries.find? fetch.hostname = some entry)
    (generation : fetch.generation = entry.generation) :
    entry.pending = true ∧ fetch.floor = entry.floor := by
  have stale := tracked.fetch_le_move move held
  cases move.entryStep found with
  | kept old _ stored _ same floor _ pending =>
    rcases move.fetch held with before | ⟨idle, there, -, -, busy, after, waits, level⟩
    · have kept := tracked.current fetch before old stored (generation.trans same)
      exact ⟨pending kept.1, kept.2.trans floor.symm⟩
    · rw [found] at after
      cases after
      exact ⟨waits, level.symm⟩
  | created serial =>
    simp only [Entry.new] at generation
    omega
  | invalidated old notification stored news serial =>
    simp only [invalidated] at generation
    omega
  | finished _ _ _ _ runs same _ current fetches =>
    -- The finished fetch was the only one of this generation.
    have distinct := (List.pairwise_cons.mp (((fetches_of_running runs).pairwise_iff
      fun differ same equal => differ same.symm equal.symm).mp tracked.unique)).1
    rw [fetches] at held
    refine absurd ?_ (distinct fetch held same)
    rw [← current, generation]
    unfold finished
    split <;> rfl

theorem Tracked.move (move : Move env state next) :
    Tracked next where
  entry_le _ _ found := tracked.entry_le_move move found
  view_le _ _ _ found value := tracked.view_le_move move found value
  fetch_le _ held := (tracked.fetch_le_move move held).trans move.serial_le
  current _ held _ found generation := tracked.current_move move held found generation
  unique := tracked.unique_move move

end

theorem Tracked.of_reachable (reachable : (cacheSystem env).Reachable (fun _ => True) state) :
    Tracked state := by
  obtain ⟨start, rfl, path⟩ := reachable
  exact (moves_of_path path).preserves (fun _ _ held move => Tracked.move held move) .new

/-! ### What an entry keeps for the rest of its life -/

/-- The entry of an incarnation stays above a floor, and below it only shows a view that a
condition allows. -/
structure Guarded (hostname : TlsHostname) (incarnation floor : Nat) (allowed : View → Prop)
    (state : State) : Prop where
  tracked : Tracked state
  issued : incarnation ≤ state.serial
  floor_le : ∀ entry, state.entries.find? hostname = some entry →
    entry.incarnation = incarnation → floor ≤ entry.floor
  view : ∀ entry view, state.entries.find? hostname = some entry →
    entry.incarnation = incarnation → entry.value = some view →
      floor ≤ view.revision ∨ allowed view

variable {incarnation floor : Nat} {allowed : View → Prop}

section

variable (guarded : Guarded hostname incarnation floor allowed state)

include guarded

theorem Guarded.floor_le_move (move : Move env state next)
    (found : next.entries.find? hostname = some entry) (same : entry.incarnation = incarnation) :
    floor ≤ entry.floor := by
  cases move.entryStep found with
  | kept old _ stored incarnation _ level =>
    rw [level]
    exact guarded.floor_le old stored (incarnation.symm.trans same)
  | created serial =>
    have issued := guarded.issued
    simp only [Entry.new] at same
    omega
  | invalidated old _ stored news =>
    exact (guarded.floor_le old stored same).trans news.le
  | finished old _ _ _ _ _ stored =>
    unfold finished at same ⊢
    split at same
    · exact (guarded.floor_le old stored same).trans (Nat.le_max_left _ _)
    · exact guarded.floor_le old stored same

variable (refreshed : ∀ view refresh, allowed view → allowed { view with refresh := refresh })

include refreshed

theorem Guarded.view_move (move : Move env state next)
    (found : next.entries.find? hostname = some entry) (same : entry.incarnation = incarnation)
    {view : View} (value : entry.value = some view) : floor ≤ view.revision ∨ allowed view := by
  cases move.entryStep found with
  | kept old _ stored incarnation _ _ shows =>
    exact guarded.view old view stored (incarnation.symm.trans same) (shows ▸ value)
  | created => cases value
  | invalidated old _ stored =>
    exact guarded.view old view stored same (Option.filter_eq_some_iff.mp value).1
  | finished old index task report runs hosts stored current fetches =>
    unfold finished at same value
    split at value
    next installed outcome =>
      -- An installed view is at the floor its fetch was queued with, which the entry still has.
      cases value
      left
      have queued := guarded.tracked.task runs (hosts ▸ stored) current
      have reached := outcome_floor outcome
      have above := guarded.floor_le old stored (by simpa [outcome] using same)
      omega
    next error outcome =>
      obtain ⟨before, shown, rfl⟩ := Option.map_eq_some_iff.mp value
      have kept := guarded.view old before stored (by simpa [outcome] using same) shown
      exact kept.imp_right (refreshed before _)

theorem Guarded.moves (moves : Moves env state next) :
    Guarded hostname incarnation floor allowed next := by
  refine moves.preserves (fun before after held move => ?_) guarded
  exact {
    tracked := held.tracked.move move
    issued := held.issued.trans move.serial_le
    floor_le := fun _ found same => held.floor_le_move move found same
    view := fun _ _ found same value => held.view_move refreshed move found same value }

end

def Stale (hostname : TlsHostname) (generation : Nat) (state : State) : Prop :=
  generation ≤ state.serial ∧
    ∀ entry, state.entries.find? hostname = some entry → entry.generation ≠ generation

theorem Stale.move {generation : Nat} (stale : Stale hostname generation state)
    (move : Move env state next) : Stale hostname generation next := by
  refine ⟨stale.1.trans move.serial_le, fun entry found same => ?_⟩
  have issued := stale.1
  cases move.entryStep found with
  | kept old _ stored _ unchanged => exact stale.2 old stored (unchanged.symm.trans same)
  | created serial =>
    simp only [Entry.new] at same
    omega
  | invalidated old notification stored news serial =>
    simp only [invalidated] at same
    omega
  | finished old _ _ _ _ _ stored =>
    refine stale.2 old stored ?_
    unfold finished at same
    split at same <;> exact same

theorem Stale.finish {task : Running} {report : Report}
    (stale : Stale task.fetch.hostname task.fetch.generation state)
    (runs : state.running[index]? = some task) :
    (handle env (.finish index report) state).entries = state.entries := by
  simp only [handle, runs, CertificateCache.finish]
  split
  next entry found =>
    rw [if_neg (stale.2 entry found)]
  · rfl

section

variable {config : Option ServerConfig}

theorem awaitFetch_no_config {supply : Supply} :
    (awaitFetch supply hostname state).2 ≠ .answered (.ok config) := by
  unfold awaitFetch
  split <;> simp

theorem cached_view {now : Nat} (served : cached state hostname now wall = some config) :
    ∃ entry view, state.entries.find? hostname = some entry ∧ entry.value = some view ∧
      view.config = config := by
  obtain ⟨view, valued, shown⟩ := Option.bind_eq_some_iff.mp served
  obtain ⟨entry, found, value⟩ := Option.bind_eq_some_iff.mp valued
  obtain ⟨-, same⟩ := Option.ite_none_right_eq_some.mp shown
  exact ⟨entry, view, found, value, Option.some.inj same⟩

theorem resolveCached_view {now : Nat} {supply : Supply}
    (answered : (resolveCached hostname now wall supply state).2 = .answered (.ok config)) :
    ∃ entry view, state.entries.find? hostname = some entry ∧ entry.value = some view ∧
      view.config = config := by
  unfold resolveCached at answered
  simp only at answered
  split at answered
  next served =>
    cases answered
    obtain ⟨entry, view, found, value, same⟩ := cached_view served
    rw [find_updateEntry_self] at found
    obtain ⟨old, stored, rfl⟩ := Option.map_eq_some_iff.mp found
    exact ⟨old, view, stored, value, same⟩
  · exact absurd answered awaitFetch_no_config

/-- A configuration that a handshake gets is that of the view its hostname's entry holds. -/
theorem answer_view {event : Event}
    (answered : answer event state = some (hostname, .answered (.ok config))) :
    ∃ entry view, state.entries.find? hostname = some entry ∧ entry.value = some view ∧
      view.config = config := by
  cases event with
  | resolve =>
    simp only [answer, Option.some.injEq, Prod.mk.injEq] at answered
    obtain ⟨rfl, answered⟩ := answered
    unfold resolve at answered
    split at answered
    · cases answered
    split at answered
    · cases answered
    simp only at answered
    split at answered
    · have shown := resolveCached_view answered
      exact shown
    · unfold resolveNew at answered
      simp only at answered
      split at answered
      · exact absurd answered awaitFetch_no_config
      · cases answered
  | poll =>
    simp only [answer, Option.some.injEq, Prod.mk.injEq] at answered
    obtain ⟨rfl, answered⟩ := answered
    unfold poll at answered
    split at answered
    · cases answered
    split at answered
    next served =>
      cases answered
      exact cached_view served
    · split at answered <;> cases answered
  | notify | tick | start | finish | discardQueued | discardRunning | shutdown | stop =>
    cases answered

end

/-! ### Notifications -/

variable {notification : Notification}

theorem applies_entry (applied : applies notification state = true) :
    ∃ entry, state.entries.find? notification.hostname = some entry ∧
      entry.incarnation = notification.incarnation ∧ entry.floor < notification.revision := by
  cases found : state.entries.find? notification.hostname with
  | none =>
    rw [applies, found] at applied
    cases applied
  | some entry =>
    simp only [applies, found, Option.any_some, Bool.and_eq_true, decide_eq_true_eq] at applied
    exact ⟨entry, rfl, applied.1⟩

theorem find_invalidate
    (found : (invalidate notification state).entries.find? notification.hostname = some entry) :
    ∃ old, state.entries.find? notification.hostname = some old ∧
      entry = old.invalidated (state.serial + 1) notification.revision notification.certificateId
        notification.lastInvalidatingRevision := by
  unfold invalidate at found
  rw [find_updateEntry_self] at found
  obtain ⟨old, stored, rfl⟩ := Option.map_eq_some_iff.mp found
  exact ⟨old, stored, rfl⟩

/-- After a notification its entry shows a view below the new revision only if the notification
retains it. -/
theorem Guarded.of_applied (env : CacheEnv) (tracked : Tracked state)
    (applied : applies notification state = true) :
    Guarded notification.hostname notification.incarnation notification.revision
      (fun view => retained view notification.certificateId
        notification.lastInvalidatingRevision = true) (invalidate notification state) := by
  have move : Move env state (invalidate notification state) := .invalidated notification applied
  obtain ⟨entry, found, same, -⟩ := applies_entry applied
  constructor
  · exact tracked.move move
  · rw [← same]
    exact (tracked.entry_le _ entry found).1.trans move.serial_le
  · intro entry found _
    obtain ⟨old, -, rfl⟩ := find_invalidate found
    exact Nat.le_refl _
  · intro entry view found _ value
    obtain ⟨old, -, rfl⟩ := find_invalidate found
    exact .inr (Option.filter_eq_some_iff.mp value).2

/-- The fetches that were on their way have a generation from before the notification. -/
theorem Stale.of_applied {fetch : Fetch} (tracked : Tracked state) (held : fetch ∈ state.fetches)
    (same : fetch.hostname = notification.hostname) :
    Stale fetch.hostname fetch.generation (invalidate notification state) := by
  have issued := tracked.fetch_le fetch held
  refine ⟨Nat.le_succ_of_le issued, fun entry found => ?_⟩
  rw [same] at found
  obtain ⟨old, -, rfl⟩ := find_invalidate found
  simp only [invalidated]
  omega

/-- In every state that the cache reaches, whatever the worker, the watch and the handshakes do. -/
theorem revoked_certificates_are_not_served
    (reachable : (cacheSystem env).Reachable (fun _ => True) state) :
    -- no view is above the floor of its entry
    (∀ hostname entry view, state.entries.find? hostname = some entry →
      entry.value = some view → view.revision ≤ entry.floor) ∧
    -- for the rest of an entry's life its floor does not fall, and every view that replaces its
    -- present one is at or above the present floor
    (∀ later, (cacheSystem env).Path (fun _ => True) state later →
      ∀ hostname entry after, state.entries.find? hostname = some entry →
        later.entries.find? hostname = some after → after.incarnation = entry.incarnation →
        entry.floor ≤ after.floor ∧
          ∀ view, after.value = some view → entry.floor ≤ view.revision ∨
            ∃ present refresh, entry.value = some present ∧
              view = { present with refresh := refresh }) ∧
    -- what a notification leaves behind
    (∀ notification supply later, applies notification state = true →
      (cacheSystem env).Path (fun _ => True) (apply notification supply state) later →
      (∀ event config, answer event later =
          some (notification.hostname, .answered (.ok (some config))) →
        ∃ entry view, later.entries.find? notification.hostname = some entry ∧
          entry.value = some view ∧ view.config = some config ∧
          (entry.incarnation = notification.incarnation → view.revision < notification.revision →
            notification.lastInvalidatingRevision ≤ view.revision ∧
              ∃ metadata, view.metadata = some metadata ∧
                notification.certificateId = some metadata.certificateId)) ∧
      (∀ fetch ∈ state.fetches, fetch.hostname = notification.hostname →
        ∀ index task report, later.running[index]? = some task → task.fetch = fetch →
          (handle env (.finish index report) later).entries = later.entries)) ∧
    -- a fetch that outlived its entry installs nothing in a later one
    (∀ fetch ∈ state.fetches, state.entries.find? fetch.hostname = none →
      ∀ later, (cacheSystem env).Path (fun _ => True) state later →
        ∀ index task report, later.running[index]? = some task → task.fetch = fetch →
          (handle env (.finish index report) later).entries = later.entries) := by
  have tracked := Tracked.of_reachable reachable
  refine ⟨tracked.view_le, ?_, ?_, ?_⟩
  · intro later path hostname entry after found foundLater same
    have guarded : Guarded hostname entry.incarnation entry.floor
        (fun view => ∃ present refresh, entry.value = some present ∧
          view = { present with refresh := refresh }) state := by
      refine ⟨tracked, (tracked.entry_le hostname entry found).1, ?_, ?_⟩
      · intro other stored _
        rw [found] at stored
        cases stored
        exact Nat.le_refl _
      · intro other view stored _ value
        rw [found] at stored
        cases stored
        exact .inr ⟨view, view.refresh, value, rfl⟩
    have kept := guarded.moves
      (fun view refresh ⟨present, _, held, same⟩ => ⟨present, refresh, held, by rw [same]⟩)
      (moves_of_path path)
    exact ⟨kept.floor_le after foundLater same, fun view value =>
      kept.view after view foundLater same value⟩
  · intro notification supply later applied path
    have moves : Moves env (invalidate notification state) later := by
      have queued : Moves env (invalidate notification state)
          (queueLocked supply notification.hostname (invalidate notification state)).1 :=
        queueLocked_moves supply notification.hostname _
      simp only [apply, applied, if_true] at path
      exact queued.trans (moves_of_path path)
    constructor
    · intro event config answered
      obtain ⟨entry, view, found, value, same⟩ := answer_view answered
      refine ⟨entry, view, found, value, same, fun incarnation below => ?_⟩
      have guarded := (Guarded.of_applied env tracked applied).moves (fun _ _ kept => kept) moves
      rcases guarded.view entry view found incarnation value with reached | kept
      · exact absurd below (Nat.not_lt.mpr reached)
      · -- A view that the notification retained is of its certificate and not invalidated.
        simp only [retained, Bool.and_eq_true, decide_eq_true_eq, Option.any_eq_true] at kept
        obtain ⟨⟨-, valid⟩, metadata, held, same⟩ := kept
        exact ⟨valid, metadata, held, same.symm⟩
    · intro fetch held same index task report runs fetched
      subst fetched
      have stale := Stale.of_applied tracked held same
      exact (moves.preserves (fun _ _ held move => Stale.move held move) stale).finish runs
  · intro fetch held absent later path index task report runs fetched
    subst fetched
    have stale : Stale task.fetch.hostname task.fetch.generation state :=
      ⟨tracked.fetch_le task.fetch held, fun entry found => by rw [absent] at found; cases found⟩
    exact ((moves_of_path path).preserves (fun _ _ held move => Stale.move held move) stale).finish
      runs

theorem reachable_foldl (env : CacheEnv) (events : List Event) :
    (cacheSystem env).Reachable (fun _ => True)
      (events.foldl (fun state event => handle env event state) .new) := by
  induction events using List.reverseRecOn with
  | nil => exact .init rfl
  | append_singleton _ event ih =>
    rw [List.foldl_append]
    exact ih.path (.single ⟨event, trivial, rfl⟩)

namespace Sample

def checked : CacheEnv where
  checks :=
    { validateCertificate := fun _ _ => .ok ⟨0, 1000000, ["app.test"], []⟩
      validateHostname := fun _ _ => .ok () }
  acceptsKey := fun _ => true

def host : TlsHostname := ⟨"app.test", "app.test", by decide⟩

def ample : Supply := ⟨true, 0, true⟩

def found : ResolveResponse :=
  ⟨"app.test", 1, 10, 60000, some (.found
    (some ⟨"app", 1, false, 0, 1000000, ["app.test"], [], none, 1⟩) (some ⟨[[1]], [2]⟩))⟩

def installed : List Event :=
  [.resolve host 0 10 true ample, .start 1 10, .finish 0 ⟨.ok found, 1, 2, 2, 2⟩]

def cache : State := installed.foldl (fun state event => handle checked event state) .new

/-- The certificate was rotated; its old version stays valid until the new one is fetched. -/
def rotation : Notification := ⟨host, 1, 2, some "app", 1⟩

def config : ServerConfig := ⟨⟨[[1]], [2], by decide⟩, ["h2", "http/1.1"]⟩

end Sample

theorem sample_revoked_certificates_are_not_served :
    ∃ entry view, (apply Sample.rotation Sample.ample Sample.cache).entries.find? Sample.host =
        some entry ∧ entry.value = some view ∧ view.config = some Sample.config ∧
      (entry.incarnation = 1 → view.revision < 2 →
        1 ≤ view.revision ∧ ∃ metadata, view.metadata = some metadata ∧
          some "app" = some metadata.certificateId) :=
  ((revoked_certificates_are_not_served (reachable_foldl Sample.checked
    Sample.installed)).2.2.1 Sample.rotation Sample.ample _ (by decide) .refl).1
      (.poll Sample.host 3 12) Sample.config rfl

end Sleepypods.CertificateCache
