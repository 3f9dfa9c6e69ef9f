import Sleepypods.Store.Resolution

/-! Keys of parts joined by colons, which the parts may contain themselves: the unique key of a
route identity, and the id of an instance's work in a target. -/

set_option autoImplicit false

namespace Sleepypods.Store

open Library Library.Fallible

/-- Keys separate two values exactly where they do not overlap, when overlaps are what shares
keys. -/
theorem separates_iff {α κ : Type} {key : α → κ} {overlaps : α → α → Prop}
    (shared : ∀ {left right}, overlaps left right → key left = key right ∧ left ≠ right)
    (covered : ∀ {left right}, key left = key right →
      left = right ∨ overlaps left right ∨ overlaps right left) (left right : α) :
    (key left = key right → left = right) ↔ ¬ overlaps left right ∧ ¬ overlaps right left := by
  constructor
  · intro separates
    constructor
    · intro overlap
      exact (shared overlap).2 (separates (shared overlap).1)
    · intro overlap
      exact (shared overlap).2 (separates (shared overlap).1.symm).symm
  · intro apart same
    rcases covered same with equal | overlap | overlap
    · exact equal
    · exact absurd overlap apart.1
    · exact absurd overlap apart.2

def hostKindText (kind : RouteHostKind) : List Char := (hostKindToDb kind).toList

def pathChars (path : Option PathPrefix) : List Char :=
  ((path.map PathPrefix.value).getD "").toList

theorem routeIdentityKey_http (host : RouteHost) (path : Option PathPrefix) :
    (routeIdentityKey (.http host path)).toList = 'h' :: "ttp:".toList ++
      hostKindText host.kind ++ ':' :: (host.host.toList ++ ':' :: pathChars path) := by
  simp [routeIdentityKey, hostKindText, pathChars]

theorem routeIdentityKey_sni (host : RouteHost) :
    (routeIdentityKey (.sni host)).toList =
      's' :: "ni:".toList ++ hostKindText host.kind ++ ':' :: host.host.toList := by
  simp [routeIdentityKey, hostKindText]

theorem pathChars_injective {left right : Option PathPrefix}
    (same : pathChars left = pathChars right) : left = right := by
  have filled : ∀ path : PathPrefix, pathChars none ≠ pathChars (some path) := by
    intro path empty
    have absolute := path.absolute
    rw [show path.value.toList = pathChars (some path) from rfl, ← empty] at absolute
    cases absolute
  cases left with
  | none =>
    cases right with
    | none => rfl
    | some path => exact absurd same (filled path)
  | some leftPath =>
    cases right with
    | none => exact absurd same.symm (filled leftPath)
    | some rightPath =>
      have value : leftPath.value = rightPath.value := String.toList_inj.mp same
      obtain ⟨leftValue, _⟩ := leftPath
      obtain ⟨rightValue, _⟩ := rightPath
      cases value
      rfl

theorem hostKindText_append_inj {left right : RouteHostKind} {leftRest rightRest : List Char}
    (same : hostKindText left ++ ':' :: leftRest = hostKindText right ++ ':' :: rightRest) :
    left = right ∧ leftRest = rightRest := by
  cases left with
  | exact =>
    cases right with
    | exact => exact ⟨rfl, by simpa using same⟩
    | wildcardSuffix => simp [hostKindText, hostKindToDb] at same
  | wildcardSuffix =>
    cases right with
    | exact => simp [hostKindText, hostKindToDb] at same
    | wildcardSuffix => exact ⟨rfl, by simpa using same⟩

/-- The host of one HTTP identity runs on after a colon, and the path of the other, which has the
host before it, is what runs on, a colon and the first identity's path. -/
inductive Overlaps : RouteIdentity → RouteIdentity → Prop where
  | intro {long short : RouteHost} {path : Option PathPrefix} {shortPath : PathPrefix}
      (rest : List Char) (kind : long.kind = short.kind)
      (host : long.host.toList = short.host.toList ++ ':' :: rest)
      (value : shortPath.value.toList = rest ++ ':' :: pathChars path) :
      Overlaps (.http long path) (.http short (some shortPath))

theorem Overlaps.same_key {long short : RouteIdentity} (overlaps : Overlaps long short) :
    routeIdentityKey long = routeIdentityKey short ∧ long ≠ short := by
  obtain ⟨rest, kind, host, value⟩ := overlaps
  rename_i longHost shortHost path shortPath
  constructor
  · rw [← String.toList_inj, routeIdentityKey_http, routeIdentityKey_http, kind, host,
      show pathChars (some shortPath) = shortPath.value.toList from rfl, value]
    simp
  · intro same
    cases same
    have shorter := congrArg List.length host
    simp at shorter

/-- Texts joined by colons are equal part by part, or one colon is inside another part. -/
theorem append_colon_cases {leftHost rightHost leftPath rightPath : List Char}
    (same : leftHost ++ ':' :: leftPath = rightHost ++ ':' :: rightPath) :
    (leftHost = rightHost ∧ leftPath = rightPath) ∨
      (∃ rest, rightHost = leftHost ++ ':' :: rest ∧ leftPath = rest ++ ':' :: rightPath) ∨
      ∃ rest, leftHost = rightHost ++ ':' :: rest ∧ rightPath = rest ++ ':' :: leftPath := by
  -- Whatever one host has beyond the other starts with the other's colon.
  have beyond : ∀ {more path other : List Char}, ':' :: path = more ++ ':' :: other →
      (more = [] ∧ path = other) ∨ ∃ rest, more = ':' :: rest ∧ path = rest ++ ':' :: other := by
    intro more path other joined
    cases more with
    | nil => exact .inl ⟨rfl, (List.cons.inj joined).2⟩
    | cons c rest =>
      obtain ⟨rfl, tail⟩ := List.cons.inj joined
      exact .inr ⟨rest, rfl, tail⟩
  rcases List.append_eq_append_iff.mp same with ⟨more, longer, joined⟩ | ⟨more, longer, joined⟩
  · rcases beyond joined with ⟨rfl, paths⟩ | ⟨rest, rfl, paths⟩
    · rw [List.append_nil] at longer
      exact .inl ⟨longer.symm, paths⟩
    · exact .inr (.inl ⟨rest, longer, paths⟩)
  · rcases beyond joined with ⟨rfl, paths⟩ | ⟨rest, rfl, paths⟩
    · rw [List.append_nil] at longer
      exact .inl ⟨longer, paths.symm⟩
    · exact .inr (.inr ⟨rest, longer, paths⟩)

theorem exists_of_pathChars {path : Option PathPrefix} {text rest : List Char} {c : Char}
    (chars : pathChars path = text ++ c :: rest) : ∃ value, path = some value := by
  cases path with
  | none =>
    have empty := congrArg List.length chars
    simp [pathChars] at empty
  | some value => exact ⟨value, rfl⟩

theorem eq_or_overlaps_of_same_key {left right : RouteIdentity}
    (same : routeIdentityKey left = routeIdentityKey right) :
    left = right ∨ Overlaps left right ∨ Overlaps right left := by
  rw [← String.toList_inj] at same
  cases left with
  | http =>
    cases right with
    | http =>
      rw [routeIdentityKey_http, routeIdentityKey_http, List.append_assoc, List.append_assoc,
        List.append_cancel_left_eq] at same
      obtain ⟨kind, joined⟩ := hostKindText_append_inj same
      rcases append_colon_cases joined with
        ⟨hosts, paths⟩ | ⟨rest, host, path⟩ | ⟨rest, host, path⟩
      · left
        rw [RouteHost.ext kind (String.toList_inj.mp hosts), pathChars_injective paths]
      · obtain ⟨value, rfl⟩ := exists_of_pathChars path
        exact .inr (.inr (.intro rest kind.symm host path))
      · obtain ⟨value, rfl⟩ := exists_of_pathChars path
        exact .inr (.inl (.intro rest kind host path))
    | sni =>
      rw [routeIdentityKey_http, routeIdentityKey_sni] at same
      cases (List.cons.inj same).1
  | sni =>
    cases right with
    | http =>
      rw [routeIdentityKey_http, routeIdentityKey_sni] at same
      cases (List.cons.inj same).1
    | sni =>
      rw [routeIdentityKey_sni, routeIdentityKey_sni, List.append_assoc, List.append_assoc,
        List.append_cancel_left_eq] at same
      obtain ⟨kind, hosts⟩ := hostKindText_append_inj same
      left
      rw [RouteHost.ext kind (String.toList_inj.mp hosts)]

/-! ### The unique key of the bindings -/

theorem insertRouteBinding_alreadyExists {session : Session} {id : RouteBindingId}
    {row : RouteBindingRow} {db : Database} (fresh : db.routeBindings.find? id = none)
    (refused : insertRouteBinding session id row db = .error (.alreadyExists "route binding")) :
    ∃ other otherRow, db.routeBindings.find? other = some otherRow ∧
      otherRow.identityKey = row.identityKey := by
  simp only [insertRouteBinding, recordRouteChanges, bind_eq_error, require_eq_error,
    require_eq_ok] at refused
  rcases refused with ⟨absent, _⟩ | ⟨_, _, ⟨taken, _⟩ | ⟨_, _, ⟨_, missing⟩ | ⟨_, _, recorded⟩⟩⟩
  · exact absurd fresh absent
  · obtain ⟨other, otherRow, found, same⟩ := Table.any_eq_true.mp (Bool.not_eq_false _ ▸ taken)
    exact ⟨other, otherRow, found, of_decide_eq_true same⟩
  · cases missing
  · rcases recorded with ⟨_, range⟩ | ⟨_, _, done⟩
    · cases range
    · cases done

/-- Keys tell identities apart exactly where no colon moves from a host into a path. Against stored
bindings without such an overlap, a new binding is only refused for its own identity. -/
theorem storage_keys_separate_identities (left right : RouteIdentity) {db : Database}
    (reachable : storeSystem.Reachable (fun _ => True) db) :
    ((routeIdentityKey left = routeIdentityKey right → left = right) ↔
      ¬ Overlaps left right ∧ ¬ Overlaps right left) ∧
    ∀ session id instanceId protocol, db.routeBindings.find? id = none →
      (∀ other row identity, db.routeBindings.find? other = some row → row.Stores identity →
        ¬ Overlaps left identity ∧ ¬ Overlaps identity left) →
      insertRouteBinding session id (routeBindingRow instanceId left protocol) db =
        .error (.alreadyExists "route binding") →
      ∃ other row, db.routeBindings.find? other = some row ∧ row.Stores left := by
  have separates := separates_iff Overlaps.same_key eq_or_overlaps_of_same_key left
  refine ⟨separates right, ?_⟩
  intro session id instanceId protocol fresh apart refused
  obtain ⟨other, row, found, key⟩ := insertRouteBinding_alreadyExists fresh refused
  obtain ⟨identity, stores⟩ := (BindingsStored.of_reachable reachable).stored other row found
  rw [stores] at key
  obtain rfl := (separates identity).mpr (apart other row identity found stores) key.symm
  exact ⟨other, row, found, stores⟩

/-! A host that contains a colon and a slash, and a path that ends in a colon. -/

namespace Sample

def colonHost : RouteIdentity := .http ⟨.exact, "a.b:/x", "a.b:/x", by decide⟩ none

theorem plain_accepted : ∃ value, normalizeHost value false = .ok "a.b" := ⟨"a.b", rfl⟩

def colonPath : RouteIdentity := .http ⟨.exact, "a.b", plain_accepted⟩ (some ⟨"/x:", rfl⟩)

def colonBound : List (Session × Op) :=
  [(session 0, createWeb), (session 1, bind "host" (by decide) colonHost)]

/-- Whether a second identity is refused for a key it shares with the only binding. -/
def refused (db : Database) : Bool :=
  decide (db.routeBindings.entries.map (fun entry => entry.2.pathPrefix) = [none]) &&
    (match commit (session 2) (bind "path" (by decide) colonPath) db with
    | .error error => decide (error = .alreadyExists "route binding")
    | .ok _ => false)

end Sample

theorem colon_identities_share_a_key :
    routeIdentityKey Sample.colonHost = routeIdentityKey Sample.colonPath ∧
      Sample.colonHost ≠ Sample.colonPath ∧
      ∃ db, storeSystem.Reachable (fun _ => True) db ∧ Sample.refused db = true :=
  ⟨by decide, by decide,
    exists_reachable_of_runOps Sample.colonBound Sample.refused (fun _ _ => trivial) (by decide)⟩

theorem sample_keys_separate : ∃ db, storeSystem.Reachable (fun _ => True) db ∧
    db.routeBindings.entries.length = 1 ∧
    ((routeIdentityKey Sample.wildcard = routeIdentityKey Sample.colonHost →
      Sample.wildcard = Sample.colonHost) ↔
        ¬ Overlaps Sample.wildcard Sample.colonHost ∧ ¬ Overlaps Sample.colonHost Sample.wildcard) := by
  have run : ∃ db, storeSystem.Reachable (fun _ => True) db ∧
      decide (db.routeBindings.entries.length = 1) = true :=
    exists_reachable_of_runOps Sample.colonBound _ (fun _ _ => trivial) (by decide)
  obtain ⟨db, reachable, bound⟩ := run
  exact ⟨db, reachable, of_decide_eq_true bound,
    (storage_keys_separate_identities Sample.wildcard Sample.colonHost reachable).1⟩

/-! ### Ids of work -/

def workId (work : InstanceId × MaterializationTarget) : MaterializationId :=
  materializationId work.1 work.2

/-- Of one instance's targets, one cluster id is the other one, a colon and more, with which the
other namespace starts. -/
def Straddles (long short : InstanceId × MaterializationTarget) : Prop :=
  long.1 = short.1 ∧ ∃ rest, long.2.clusterId.toList = short.2.clusterId.toList ++ ':' :: rest ∧
    short.2.namespaceName.toList = rest ++ ':' :: long.2.namespaceName.toList

section

variable {left right : InstanceId × MaterializationTarget}

theorem workId_eq_iff : workId left = workId right ↔
    left.1 = right.1 ∧ left.2.clusterId.toList ++ ':' :: left.2.namespaceName.toList =
      right.2.clusterId.toList ++ ':' :: right.2.namespaceName.toList := by
  obtain ⟨first, target⟩ := left
  obtain ⟨second, other⟩ := right
  constructor
  · intro same
    obtain rfl := materializationId_instance same
    have texts := congrArg (fun id => id.toNonEmptyString.value.toList) same
    simpa [workId, materializationId, materializationIdText] using texts
  · rintro ⟨rfl, joined⟩
    simpa [workId, materializationId, materializationIdText, ← String.toList_inj] using joined

theorem Straddles.same_id (straddles : Straddles left right) :
    workId left = workId right ∧ left ≠ right := by
  obtain ⟨instances, rest, cluster, name⟩ := straddles
  constructor
  · exact workId_eq_iff.mpr ⟨instances, by simp [cluster, name]⟩
  · rintro rfl
    have shorter := congrArg List.length cluster
    simp at shorter

theorem eq_or_straddles_of_same_id (same : workId left = workId right) :
    left = right ∨ Straddles left right ∨ Straddles right left := by
  obtain ⟨instances, joined⟩ := workId_eq_iff.mp same
  rcases append_colon_cases joined with ⟨clusters, names⟩ | straddles | straddles
  · left
    obtain ⟨first, cluster, name, _, _⟩ := left
    cases instances
    cases String.toList_inj.mp clusters
    cases String.toList_inj.mp names
    rfl
  · exact .inr (.inr ⟨instances.symm, straddles⟩)
  · exact .inr (.inl ⟨instances, straddles⟩)

end

/-- Ids tell the work of instances in targets apart exactly where no colon moves from a cluster id
into a namespace. Without such an overlap, the row found under an id is that of its own work. -/
theorem materialization_ids_separate_work (left right : InstanceId × MaterializationTarget)
    {db : Database} (reachable : storeSystem.Reachable (fun _ => True) db) :
    ((workId left = workId right → left = right) ↔ ¬ Straddles left right ∧ ¬ Straddles right left) ∧
    ∀ row, db.materializations.find? (workId left) = some row →
      ¬ Straddles left (row.instanceId, row.target) ∧
        ¬ Straddles (row.instanceId, row.target) left →
      left = (row.instanceId, row.target) := by
  have separates := separates_iff Straddles.same_id eq_or_straddles_of_same_id left
  refine ⟨separates right, ?_⟩
  intro row found apart
  exact (separates _).mpr apart (WorkKeyed.of_reachable reachable _ row found)

namespace Sample

def colonCluster : MaterializationTarget := ⟨"east:eu", "apps", rfl, rfl⟩

def colonNamespace : MaterializationTarget := ⟨"east", "eu:apps", rfl, rfl⟩

def wakeIn (target : MaterializationTarget) : Op :=
  .acceptWake { wakeRequest 0 1 with pending := { (wakeRequest 0 1).pending with target := target } }

/-- Whether the row of one target is found under the id of another target. -/
def misdirects (own other : MaterializationTarget) (db : Database) : Bool :=
  (db.materializations.find? (workId (web, other))).any fun row =>
    decide (row.target = own) && decide (own ≠ other)

end Sample

theorem colon_targets_share_an_id :
    workId (Sample.web, Sample.colonCluster) = workId (Sample.web, Sample.colonNamespace) ∧
      ∃ db, storeSystem.Reachable (fun _ => True) db ∧
        Sample.misdirects Sample.colonCluster Sample.colonNamespace db = true :=
  ⟨by decide, exists_reachable_of_runOps
    [(Sample.session 0, Sample.createWeb), (Sample.session 1, Sample.wakeIn Sample.colonCluster)]
    _ (fun _ _ => trivial) (by decide)⟩

theorem sample_ids_separate_work :
    ¬ Straddles (Sample.web, Sample.target) (Sample.web, Sample.colonCluster) :=
  ((materialization_ids_separate_work (Sample.web, Sample.target) (Sample.web, Sample.colonCluster)
    (.init (by exact rfl))).1.mp fun same => absurd same (by decide)).1

end Sleepypods.Store
