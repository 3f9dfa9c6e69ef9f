import Sleepypods.Library.Text
import Sleepypods.Store.Transactions

/-! The route query against the match scores: the binding it selects is the one of the highest
score, and no two bindings share that score. -/

set_option autoImplicit false

namespace Sleepypods.Store

open Library

theorem mem_hostSuffixes {host suffix : List Char} :
    suffix ∈ hostSuffixes host ↔ ∃ before, host = before ++ '.' :: suffix := by
  induction host with
  | nil =>
    simp only [hostSuffixes, List.not_mem_nil, false_iff, not_exists]
    intro before equal
    exact absurd equal.symm (by simp)
  | cons first _ ih =>
    constructor
    · intro member
      unfold hostSuffixes at member
      split at member
      next dot =>
        rcases List.mem_cons.mp member with rfl | later
        · exact ⟨[], by rw [dot, List.nil_append]⟩
        · obtain ⟨before, rfl⟩ := ih.mp later
          exact ⟨first :: before, rfl⟩
      · obtain ⟨before, rfl⟩ := ih.mp member
        exact ⟨first :: before, rfl⟩
    · rintro ⟨before, equal⟩
      unfold hostSuffixes
      cases before with
      | nil =>
        cases equal
        rw [if_pos rfl]
        exact List.mem_cons_self
      | cons _ before =>
        cases equal
        have later := ih.mpr ⟨before, rfl⟩
        split
        · exact List.mem_cons_of_mem _ later
        · exact later

theorem isSubdomainOf_iff {lookup suffix : List Char} :
    isSubdomainOf lookup suffix = true ↔ ∃ before, lookup = before ++ '.' :: suffix := by
  unfold isSubdomainOf
  rw [Bool.and_eq_true, List.isSuffixOf_iff_suffix, beq_iff_eq]
  constructor
  · rintro ⟨⟨lead, rfl⟩, dotted⟩
    rw [List.length_append, Nat.add_sub_cancel, List.take_left] at dotted
    obtain ⟨before, rfl⟩ := List.getLast?_eq_some_iff.mp dotted
    exact ⟨before, by simp⟩
  · rintro ⟨before, rfl⟩
    refine ⟨⟨before ++ ['.'], by simp⟩, ?_⟩
    have lead : before ++ '.' :: suffix = (before ++ ['.']) ++ suffix := by simp
    rw [lead, List.length_append, Nat.add_sub_cancel, List.take_left, List.getLast?_concat]

def hostMatches (binding lookup : RouteHost) : Bool :=
  match binding.kind with
  | .exact => decide (binding.host = lookup.host)
  | .wildcardSuffix => (hostSuffixes lookup.host.toList).contains binding.host.toList

theorem hostMatches_eq (binding lookup : RouteHost) :
    hostMatches binding lookup = (hostScore binding lookup).isSome := by
  unfold hostMatches hostScore
  cases binding.kind with
  | exact =>
    simp only
    split
    next same => exact decide_eq_true same
    next different => exact decide_eq_false different
  | wildcardSuffix =>
    have same : (hostSuffixes lookup.host.toList).contains binding.host.toList =
        isSubdomainOf lookup.host.toList binding.host.toList := by
      rw [Bool.eq_iff_iff, List.contains_iff_mem, mem_hostSuffixes, isSubdomainOf_iff]
    simp only
    rw [same]
    split
    next under => exact under
    next apart => exact Bool.not_eq_true _ ▸ apart

theorem isPrefix_of_pathPrefixMatches {lookup binding : PathPrefix}
    (found : pathPrefixMatches lookup.value binding.value = true) :
    binding.value.toList <+: lookup.value.toList := by
  unfold pathPrefixMatches at found
  split at found
  next whole =>
    rcases whole with root | same
    · rw [root]
      obtain ⟨rest, absolute⟩ := List.head?_eq_some_iff.mp lookup.absolute
      exact ⟨rest, absolute.symm⟩
    · rw [same]
  · split at found
    · exact List.isPrefixOf_iff_prefix.mp found
    · exact (List.prefix_append _ _).trans (List.isPrefixOf_iff_prefix.mp found)

theorem storedPathMatches_eq (binding lookup : Option PathPrefix) :
    storedPathMatches (lookup.map PathPrefix.value) (binding.map PathPrefix.value) =
      (pathScore binding lookup).isSome := by
  cases binding with
  | none => rfl
  | some binding =>
    cases lookup with
    | none => rfl
    | some lookup =>
      have same : storedPathMatches (some lookup.value) (some binding.value) =
          pathPrefixMatches lookup.value binding.value := by
        unfold storedPathMatches pathPrefixMatches
        simp only
        split
        next whole =>
          rcases whole with root | same
          · simp [root]
          · simp [same]
        next apart =>
          obtain ⟨deeper, other⟩ := not_or.mp apart
          have different : binding.value ≠ lookup.value := fun same => other same.symm
          simp only [deeper, different, decide_false, Bool.false_or]
          split
          next slashed =>
            -- What follows the slash of a stored path may be a second slash.
            simp only [slashed, decide_true, Bool.true_and, Bool.or_eq_left_iff_imp]
            intro longer
            rw [List.isPrefixOf_iff_prefix] at longer ⊢
            exact (List.prefix_append _ _).trans longer
          next open_ => simp only [open_, decide_false, Bool.false_and, Bool.false_or]
      simp only [Option.map_some, same, pathScore]
      split
      next found => exact found
      next missed => exact Bool.not_eq_true _ ▸ missed

/-! ### Scores -/

def RouteBindingRow.Stores (row : RouteBindingRow) (identity : RouteIdentity) : Prop :=
  row = routeBindingRow row.instanceId identity row.protocol

variable {row left right : RouteBindingRow} {identity leftIdentity rightIdentity request : RouteIdentity}
  {leftScore rightScore : RouteMatchScore}

theorem matches_eq (stores : row.Stores identity) (request : RouteIdentity) :
    row.matches request = (routeMatchScore identity request).isSome := by
  rw [stores]
  change (decide (identityKindOf identity = _) && hostMatches identity.host request.host &&
    storedPathMatches _ identity.pathText) = _
  rw [hostMatches_eq]
  cases identity with
  | http bindingHost =>
    cases request with
    | http lookupHost =>
      simp only [identityKindOf, RouteIdentity.pathText, RouteIdentity.host, decide_true,
        Bool.true_and, storedPathMatches_eq, routeMatchScore]
      cases hostScore bindingHost lookupHost with
      | none => rfl
      | some => simp only [Option.isSome_some, Bool.true_and, Option.bind_some,
          Option.isSome_map]
    | sni => rfl
  | sni =>
    cases request with
    | http => rfl
    | sni =>
      simp only [identityKindOf, RouteIdentity.pathText, RouteIdentity.host, decide_true,
        Bool.true_and, storedPathMatches, Bool.and_true, routeMatchScore, Option.isSome_map]

theorem hostScore_eq_some {binding lookup : RouteHost} {score : HostScore}
    (scored : hostScore binding lookup = some score) :
    (binding.kind = .exact ∧ binding.host = lookup.host ∧ score = .exact) ∨
      (binding.kind = .wildcardSuffix ∧ binding.host.toList <:+ lookup.host.toList ∧
        score = .suffix binding.host.utf8ByteSize) := by
  unfold hostScore at scored
  split at scored
  next kind =>
    split at scored
    next same =>
      cases scored
      exact .inl ⟨kind, same, rfl⟩
    · cases scored
  next kind =>
    split at scored
    next under =>
      cases scored
      obtain ⟨before, equal⟩ := isSubdomainOf_iff.mp under
      exact .inr ⟨kind, ⟨before ++ ['.'], by rw [equal]; simp⟩, rfl⟩
    · cases scored

theorem pathScore_eq_some {binding lookup : Option PathPrefix} {score : Nat}
    (scored : pathScore binding lookup = some score) :
    score = ((binding.map PathPrefix.value).map String.utf8ByteSize).getD 0 := by
  cases binding with
  | none =>
    cases scored
    rfl
  | some =>
    cases lookup with
    | none => cases scored
    | some =>
      simp only [pathScore] at scored
      split at scored
      · cases scored
        rfl
      · cases scored

theorem rank_of_score (stores : row.Stores identity) {score : RouteMatchScore}
    (scored : routeMatchScore identity request = some score) :
    hostScore identity.host request.host = some score.host ∧
      score.path = (row.pathPrefix.map String.utf8ByteSize).getD 0 := by
  rw [stores]
  cases identity with
  | http =>
    cases request with
    | http =>
      obtain ⟨host, hosted, scored⟩ := Option.bind_eq_some_iff.mp scored
      obtain ⟨path, routed, rfl⟩ := Option.map_eq_some_iff.mp scored
      exact ⟨hosted, pathScore_eq_some routed⟩
    | sni => cases scored
  | sni =>
    cases request with
    | http => cases scored
    | sni =>
      obtain ⟨host, hosted, rfl⟩ := Option.map_eq_some_iff.mp scored
      exact ⟨hosted, rfl⟩

/-- Among rows that match a request, the order of the query is the order of the scores. -/
theorem outranks_iff (leftStores : left.Stores leftIdentity) (rightStores : right.Stores rightIdentity)
    (leftScored : routeMatchScore leftIdentity request = some leftScore)
    (rightScored : routeMatchScore rightIdentity request = some rightScore) :
    outranks left.rank right.rank ↔ rightScore < leftScore := by
  obtain ⟨leftHost, leftPath⟩ := rank_of_score leftStores leftScored
  obtain ⟨rightHost, rightPath⟩ := rank_of_score rightStores rightScored
  have leftKind : left.hostKind = leftIdentity.host.kind := by rw [leftStores]; rfl
  have rightKind : right.hostKind = rightIdentity.host.kind := by rw [rightStores]; rfl
  have leftText : left.host = leftIdentity.host.host := by rw [leftStores]; rfl
  have rightText : right.host = rightIdentity.host.host := by rw [rightStores]; rfl
  simp only [outranks, RouteBindingRow.rank, leftKind, rightKind, leftText, rightText, ← leftPath,
    ← rightPath]
  show _ ↔ rightScore.host < leftScore.host ∨
    (rightScore.host = leftScore.host ∧ rightScore.path < leftScore.path)
  rcases hostScore_eq_some leftHost with ⟨leftExact, leftSame, leftTop⟩ | ⟨leftWild, -, leftSize⟩
  · rcases hostScore_eq_some rightHost with
      ⟨rightExact, rightSame, rightTop⟩ | ⟨rightWild, -, rightSize⟩
    · rw [leftExact, rightExact, leftSame, rightSame, leftTop, rightTop]
      have irreflexive : ¬ HostScore.exact < HostScore.exact := not_false
      simp only [Nat.lt_irrefl, irreflexive, false_or, true_and]
    · rw [leftExact, rightWild, leftTop, rightSize]
      exact ⟨fun _ => .inl trivial, fun _ => .inl Nat.zero_lt_one⟩
  · rcases hostScore_eq_some rightHost with
      ⟨rightExact, rightSame, rightTop⟩ | ⟨rightWild, -, rightSize⟩
    · rw [leftWild, rightExact, leftSize, rightTop]
      have below : ¬ HostScore.exact < HostScore.suffix leftIdentity.host.host.utf8ByteSize :=
        not_false
      simp [below]
    · rw [leftWild, rightWild, leftSize, rightSize]
      have compares : HostScore.suffix rightIdentity.host.host.utf8ByteSize <
          HostScore.suffix leftIdentity.host.host.utf8ByteSize ↔
          rightIdentity.host.host.utf8ByteSize < leftIdentity.host.host.utf8ByteSize := Iff.rfl
      simp only [Nat.lt_irrefl, false_or, true_and, compares, HostScore.suffix.injEq]

theorem HostScore.eq_of_not_lt {left right : HostScore} (notLess : ¬ left < right)
    (notGreater : ¬ right < left) : left = right := by
  cases left with
  | exact =>
    cases right with
    | exact => rfl
    | suffix => exact absurd trivial notGreater
  | suffix =>
    cases right with
    | exact => exact absurd trivial notLess
    | suffix =>
      exact congrArg _ (Nat.le_antisymm (Nat.not_lt.mp notGreater) (Nat.not_lt.mp notLess))

theorem RouteMatchScore.eq_of_not_lt {left right : RouteMatchScore} (notLess : ¬ left < right)
    (notGreater : ¬ right < left) : left = right := by
  obtain ⟨lessHost, lessPath⟩ := not_or.mp notLess
  obtain ⟨greaterHost, greaterPath⟩ := not_or.mp notGreater
  have host := HostScore.eq_of_not_lt lessHost greaterHost
  have path : left.path = right.path :=
    Nat.le_antisymm (Nat.not_lt.mp fun less => greaterPath ⟨host.symm, less⟩)
      (Nat.not_lt.mp fun less => lessPath ⟨host, less⟩)
  cases left
  cases right
  cases host
  cases path
  rfl

theorem RouteHost.ext {left right : RouteHost} (kind : left.kind = right.kind)
    (host : left.host = right.host) : left = right := by
  cases left
  cases right
  cases kind
  cases host
  rfl

theorem host_eq_of_score_eq {binding other lookup : RouteHost} {score : HostScore}
    (scored : hostScore binding lookup = some score)
    (tied : hostScore other lookup = some score) : binding = other := by
  rcases hostScore_eq_some scored with ⟨exact, same, top⟩ | ⟨wild, ends, size⟩
  · rcases hostScore_eq_some tied with ⟨otherExact, otherSame, _⟩ | ⟨_, _, otherSize⟩
    · exact RouteHost.ext (exact.trans otherExact.symm) (same.trans otherSame.symm)
    · cases top.symm.trans otherSize
  · rcases hostScore_eq_some tied with ⟨_, _, otherTop⟩ | ⟨otherWild, otherEnds, otherSize⟩
    · cases size.symm.trans otherTop
    · refine RouteHost.ext (wild.trans otherWild.symm) (eq_of_isSuffix_of_size_eq ends otherEnds ?_)
      exact HostScore.suffix.inj (size.symm.trans otherSize)

theorem size_ne_zero (path : PathPrefix) : path.value.utf8ByteSize ≠ 0 := by
  intro empty
  rw [String.utf8ByteSize_eq_zero_iff] at empty
  have absolute := path.absolute
  rw [empty] at absolute
  cases absolute

theorem path_eq_of_score_eq {binding other lookup : Option PathPrefix} {score : Nat}
    (scored : pathScore binding lookup = some score) (tied : pathScore other lookup = some score) :
    binding = other := by
  have size := (pathScore_eq_some scored).symm.trans (pathScore_eq_some tied)
  cases binding with
  | none =>
    cases other with
    | none => rfl
    | some other => exact absurd size.symm (size_ne_zero other)
  | some binding =>
    cases other with
    | none => exact absurd size (size_ne_zero binding)
    | some other =>
      cases lookup with
      | none => cases scored
      | some =>
        simp only [pathScore, Option.ite_none_right_eq_some] at scored tied
        have same : binding.value = other.value :=
          eq_of_isPrefix_of_size_eq (isPrefix_of_pathPrefixMatches scored.1)
            (isPrefix_of_pathPrefixMatches tied.1) size
        cases binding
        cases other
        cases same
        rfl

theorem identity_eq_of_score_eq {score : RouteMatchScore}
    (scored : routeMatchScore leftIdentity request = some score)
    (tied : routeMatchScore rightIdentity request = some score) : leftIdentity = rightIdentity := by
  cases request with
  | http =>
    cases leftIdentity with
    | sni => cases scored
    | http =>
      cases rightIdentity with
      | sni => cases tied
      | http =>
        obtain ⟨host, leftHosted, scored⟩ := Option.bind_eq_some_iff.mp scored
        obtain ⟨path, leftRouted, rfl⟩ := Option.map_eq_some_iff.mp scored
        obtain ⟨_, rightHosted, tied⟩ := Option.bind_eq_some_iff.mp tied
        obtain ⟨_, rightRouted, same⟩ := Option.map_eq_some_iff.mp tied
        cases same
        rw [host_eq_of_score_eq leftHosted rightHosted,
          path_eq_of_score_eq leftRouted rightRouted]
  | sni =>
    cases leftIdentity with
    | http => cases scored
    | sni =>
      cases rightIdentity with
      | http => cases tied
      | sni =>
        obtain ⟨host, leftHosted, rfl⟩ := Option.map_eq_some_iff.mp scored
        obtain ⟨_, rightHosted, same⟩ := Option.map_eq_some_iff.mp tied
        cases same
        rw [host_eq_of_score_eq leftHosted rightHosted]

/-! ### Selection -/

section Order

theorem outranks_asymm {left right : Nat × Nat × Nat} (above : outranks left right) :
    ¬ outranks right left := by
  unfold outranks at *
  omega

theorem outranks_trans {first second third : Nat × Nat × Nat} (above : outranks first second)
    (higher : outranks second third) : outranks first third := by
  unfold outranks at *
  omega

theorem outranks_total {left right : Nat × Nat × Nat} (different : left ≠ right) :
    outranks left right ∨ outranks right left := by
  obtain ⟨leftKind, leftHost, leftPath⟩ := left
  obtain ⟨rightKind, rightHost, rightPath⟩ := right
  simp only [ne_eq, Prod.mk.injEq] at different
  simp only [outranks]
  omega

instance : Std.Total selectedBefore where
  total left right := by
    by_cases same : left.2.rank = right.2.rank
    · rcases String.le_total left.1.value right.1.value with before | after
      · exact .inl (.inr ⟨same, before⟩)
      · exact .inr (.inr ⟨same.symm, after⟩)
    · rcases outranks_total same with above | below
      · exact .inl (.inl above)
      · exact .inr (.inl below)

instance : IsTrans (RouteBindingId × RouteBindingRow) selectedBefore where
  trans first second third := by
    rintro (above | ⟨same, before⟩) (higher | ⟨equal, behind⟩)
    · exact .inl (outranks_trans above higher)
    · exact .inl (equal ▸ above)
    · exact .inl (same ▸ higher)
    · exact .inr ⟨same.trans equal, String.le_trans before behind⟩

theorem outranks_irrefl (rank : Nat × Nat × Nat) : ¬ outranks rank rank :=
  fun above => outranks_asymm above above

theorem selectedBefore_refl (entry : RouteBindingId × RouteBindingRow) :
    selectedBefore entry entry :=
  .inr ⟨rfl, String.le_refl _⟩

theorem selectedBefore_antisymm {left right : RouteBindingId × RouteBindingRow}
    (before : selectedBefore left right) (after : selectedBefore right left) : left.1 = right.1 := by
  rcases before with above | ⟨same, before⟩
  · rcases after with below | ⟨same, _⟩
    · exact absurd below (outranks_asymm above)
    · rw [same] at above
      exact absurd above (outranks_irrefl _)
  · rcases after with below | ⟨_, after⟩
    · rw [same] at below
      exact absurd below (outranks_irrefl _)
    · have equal := String.le_antisymm before after
      obtain ⟨⟨⟨leftValue, _⟩⟩, leftRow⟩ := left
      obtain ⟨⟨⟨rightValue, _⟩⟩, rightRow⟩ := right
      cases equal
      rfl

end Order

variable {db : Database} {id other : RouteBindingId}

def candidates (db : Database) (identity : RouteIdentity) :
    List (RouteBindingId × RouteBindingRow) :=
  (db.routeBindings.entries.filter fun entry => entry.2.matches identity).insertionSort selectedBefore

theorem mem_candidates :
    (id, row) ∈ candidates db request ↔
      db.routeBindings.find? id = some row ∧ row.matches request = true := by
  rw [candidates, List.mem_insertionSort, List.mem_filter, Table.find?_eq_some]

theorem selectedBinding_first (selected : selectedBinding db request = some (id, row))
    {otherRow : RouteBindingRow} (candidate : (other, otherRow) ∈ candidates db request) :
    selectedBefore (id, row) (other, otherRow) := by
  obtain ⟨rest, sorted⟩ := List.head?_eq_some_iff.mp selected
  have ordered : (candidates db request).Pairwise selectedBefore := List.pairwise_insertionSort _ _
  rw [candidates, sorted] at ordered candidate
  rcases List.mem_cons.mp candidate with same | later
  · rw [same]
    exact selectedBefore_refl _
  · exact List.rel_of_pairwise_cons ordered later

theorem selectedBinding_eq_some :
    selectedBinding db request = some (id, row) ↔
      (id, row) ∈ candidates db request ∧
        ∀ other otherRow, (other, otherRow) ∈ candidates db request →
          selectedBefore (id, row) (other, otherRow) := by
  constructor
  · intro selected
    exact ⟨List.mem_of_head? selected, fun _ _ => selectedBinding_first selected⟩
  · rintro ⟨candidate, first⟩
    cases selected : selectedBinding db request with
    | none =>
      have empty : candidates db request = [] := List.head?_eq_none_iff.mp selected
      rw [empty] at candidate
      exact absurd candidate List.not_mem_nil
    | some entry =>
      obtain ⟨found, foundRow⟩ := entry
      have member : (found, foundRow) ∈ candidates db request := List.mem_of_head? selected
      have same : id = found :=
        selectedBefore_antisymm (first found foundRow member)
          (selectedBinding_first selected candidate)
      subst same
      have stored := (mem_candidates.mp candidate).1
      rw [(mem_candidates.mp member).1] at stored
      cases stored
      rfl

theorem selectedBinding_eq_none :
    selectedBinding db request = none ↔
      ∀ id row, db.routeBindings.find? id = some row → row.matches request = false := by
  constructor
  · intro missed id row found
    have empty : candidates db request = [] := List.head?_eq_none_iff.mp missed
    by_contra matched
    have candidate := mem_candidates.mpr ⟨found, Bool.not_eq_false _ ▸ matched⟩
    rw [empty] at candidate
    exact absurd candidate List.not_mem_nil
  · intro missed
    cases selected : selectedBinding db request with
    | none => rfl
    | some entry =>
      obtain ⟨stored, matched⟩ := mem_candidates.mp (selectedBinding_eq_some.mp selected).1
      rw [missed entry.1 entry.2 stored] at matched
      cases matched

/-! ### Resolution -/

structure BindingsStored (db : Database) : Prop where
  stored : ∀ id row, db.routeBindings.find? id = some row → ∃ identity, row.Stores identity
  distinct : ∀ left right leftRow rightRow identity, db.routeBindings.find? left = some leftRow →
    db.routeBindings.find? right = some rightRow → leftRow.Stores identity →
    rightRow.Stores identity → left = right
  owned : ∀ id row, db.routeBindings.find? id = some row →
    (db.instances.find? row.instanceId).isSome = true

namespace BindingsStored

theorem empty : BindingsStored .empty where
  stored := fun _ _ found => by cases found
  distinct := fun _ _ _ _ _ found => by cases found
  owned := fun _ _ found => by cases found

variable {after : Database}

theorem shrink (stored : BindingsStored db)
    (fewer : ∀ id row, after.routeBindings.find? id = some row →
      db.routeBindings.find? id = some row ∧ (after.instances.find? row.instanceId).isSome = true) :
    BindingsStored after where
  stored := fun id row found => stored.stored id row (fewer id row found).1
  distinct := fun left right leftRow rightRow identity leftFound rightFound =>
    stored.distinct left right leftRow rightRow identity (fewer left leftRow leftFound).1
      (fewer right rightRow rightFound).1
  owned := fun id row found => (fewer id row found).2

theorem keep (stored : BindingsStored db) (bindings : after.routeBindings = db.routeBindings)
    (instances : ∀ id, (db.instances.find? id).isSome = true →
      (after.instances.find? id).isSome = true) : BindingsStored after := by
  refine stored.shrink fun id row found => ?_
  rw [bindings] at found
  exact ⟨found, instances row.instanceId (stored.owned id row found)⟩

theorem isSome_insert {κ ρ : Type} [DecidableEq κ] {table : Table κ ρ} {key other : κ} {value : ρ}
    (found : (table.find? other).isSome = true) : ((table.insert key value).find? other).isSome = true := by
  rw [Table.find?_insert, Function.update_apply]
  split
  · rfl
  · exact found

theorem insert (stored : BindingsStored db) {instanceId : InstanceId} {spec : RouteBindingSpec}
    (unique : ∀ other otherRow, db.routeBindings.find? other = some otherRow →
      otherRow.identityKey ≠ (routeBindingRow instanceId spec.identity spec.protocol).identityKey)
    (owned : (db.instances.find? instanceId).isSome = true)
    (bindings : after.routeBindings = db.routeBindings.insert id (routeBindingRow instanceId
      spec.identity spec.protocol)) (instances : after.instances = db.instances) :
    BindingsStored after := by
  have cases : ∀ other otherRow, after.routeBindings.find? other = some otherRow →
      (other = id ∧ otherRow = routeBindingRow instanceId spec.identity spec.protocol) ∨
        db.routeBindings.find? other = some otherRow := by
    intro other otherRow found
    rw [bindings, Table.find?_insert, Function.update_apply] at found
    split at found
    next same => exact .inl ⟨same, (Option.some.inj found).symm⟩
    · exact .inr found
  -- A row that stores the identity of the new one has its key.
  have own : ∀ identity, (routeBindingRow instanceId spec.identity spec.protocol).Stores identity →
      ∀ other otherRow, db.routeBindings.find? other = some otherRow → ¬ otherRow.Stores identity := by
    intro identity stores other otherRow found otherStores
    refine unique other otherRow found ?_
    rw [stores, otherStores]
    rfl
  constructor
  · intro other otherRow found
    rcases cases other otherRow found with ⟨_, rfl⟩ | old
    · exact ⟨spec.identity, rfl⟩
    · exact stored.stored other otherRow old
  · intro left right leftRow rightRow identity leftFound rightFound leftStores rightStores
    rcases cases left leftRow leftFound with ⟨rfl, rfl⟩ | leftOld
    · rcases cases right rightRow rightFound with ⟨rfl, _⟩ | rightOld
      · rfl
      · exact absurd rightStores (own identity leftStores right rightRow rightOld)
    · rcases cases right rightRow rightFound with ⟨rfl, rfl⟩ | rightOld
      · exact absurd leftStores (own identity rightStores left leftRow leftOld)
      · exact stored.distinct left right leftRow rightRow identity leftOld rightOld leftStores
          rightStores
  · intro other otherRow found
    rw [instances]
    rcases cases other otherRow found with ⟨_, rfl⟩ | old
    · exact owned
    · exact stored.owned other otherRow old

theorem statement {session : Session} {bindings : List RouteBindingSpec}
    (stored : BindingsStored db) (statement : Statement session bindings db after) :
    BindingsStored after := by
  cases statement with
  | insertInstance _ _ _ insert =>
    obtain ⟨_, _, rfl⟩ := insertInstance_ok insert
    exact stored.keep rfl fun _ found => isSome_insert found
  | updateInstance _ _ _ _ found updated =>
    obtain ⟨_, rfl⟩ := updateInstance_ok updated
    exact stored.keep rfl fun _ found => isSome_insert found
  | insertRouteBinding _ _ _ _ _ inserted =>
    obtain ⟨_, unique, owned, rfl⟩ := insertRouteBinding_ok inserted
    exact stored.insert unique owned rfl rfl
  | deleteRouteBindings _ deleted =>
    obtain ⟨records, rfl⟩ := deleteRouteBindings_ok deleted
    refine stored.shrink fun id row found => ?_
    rw [Table.find?_filterRows] at found
    have old := (Option.filter_eq_some_iff.mp found).1
    exact ⟨old, stored.owned id row old⟩
  | insertMaterialization _ inserted =>
    obtain ⟨_, _, objects, keys, rfl⟩ := insertMaterialization_ok inserted
    exact stored.keep rfl fun _ found => found
  | updateMaterialization _ _ _ found _ _ updated =>
    obtain ⟨objects, keys, rfl⟩ := updateMaterialization_ok updated
    exact stored.keep rfl fun _ found => found
  | updateMaterializations _ _ _ _ updated =>
    obtain ⟨objects, keys, rfl⟩ := updateMaterializations_ok updated
    exact stored.keep rfl fun _ found => found
  | deleteInstanceRow _ deleted =>
    obtain ⟨_, records, objects, keys, more, rfl⟩ := deleteInstanceRow_ok deleted
    refine stored.shrink fun other row found => ?_
    rw [Table.find?_filterRows] at found
    obtain ⟨old, kept⟩ := Option.filter_eq_some_iff.mp found
    refine ⟨old, ?_⟩
    rw [Bool.not_eq_true', decide_eq_false_iff_not] at kept
    rw [Table.find?_erase, Function.update_of_ne kept]
    exact stored.owned other row old
  | recordRouteChanges _ recorded =>
    rw [recordRouteChanges_ok recorded]
    exact stored.keep rfl fun _ found => found
  | pruneOutbox _ pruned =>
    rw [pruned]
    exact stored.keep rfl fun _ found => found
  | keep _ _ _ kept =>
    rw [kept]
    exact stored.keep rfl fun _ found => found

theorem of_reachable {allowed : Session × Op → Prop}
    (reachable : storeSystem.Reachable allowed db) : BindingsStored db :=
  reachable_of_statements empty (fun _ _ _ _ stored => stored.statement) reachable

end BindingsStored

theorem resolveRoute_miss_iff (stored : BindingsStored db) {target : MaterializationTarget} :
    resolveRoute db ⟨request, target⟩ = .ok (.miss defaultNegativeCacheTtl) ↔
      selectedBinding db request = none := by
  unfold resolveRoute
  cases selected : selectedBinding db request with
  | none => simp only [Option.bind_none]
  | some entry =>
    obtain ⟨id, row⟩ := entry
    have found := (mem_candidates.mp (selectedBinding_eq_some.mp selected).1).1
    obtain ⟨owner, owned⟩ := Option.isSome_iff_exists.mp (stored.owned id row found)
    simp only [Option.bind_some, owned, Option.map_some, reduceCtorEq, iff_false]
    intro missed
    obtain ⟨record, _, answered⟩ := Fallible.bind_eq_ok.mp missed
    cases answered

/-- The query selects the binding whose score is above every other score, and misses when no
binding has a score. -/
theorem resolution_selects_the_highest_score (stored : BindingsStored db)
    (request : RouteIdentity) (target : MaterializationTarget) :
    (∀ id row identity, db.routeBindings.find? id = some row → row.Stores identity →
      (selectedBinding db request = some (id, row) ↔
        ∃ score, routeMatchScore identity request = some score ∧
          ∀ other otherRow otherIdentity otherScore, other ≠ id →
            db.routeBindings.find? other = some otherRow → otherRow.Stores otherIdentity →
            routeMatchScore otherIdentity request = some otherScore → otherScore < score)) ∧
      (resolveRoute db ⟨request, target⟩ = .ok (.miss defaultNegativeCacheTtl) ↔
        ∀ id row identity, db.routeBindings.find? id = some row → row.Stores identity →
          routeMatchScore identity request = none) := by
  constructor
  · intro id row identity found stores
    constructor
    · intro selected
      obtain ⟨candidate, first⟩ := selectedBinding_eq_some.mp selected
      have matched := (mem_candidates.mp candidate).2
      rw [matches_eq stores] at matched
      obtain ⟨score, scored⟩ := Option.isSome_iff_exists.mp matched
      refine ⟨score, scored, fun other otherRow otherIdentity otherScore different there
        otherStores otherScored => ?_⟩
      have rival : (other, otherRow) ∈ candidates db request := by
        refine mem_candidates.mpr ⟨there, ?_⟩
        rw [matches_eq otherStores, otherScored]
        rfl
      rcases first other otherRow rival with above | ⟨same, _⟩
      · exact (outranks_iff stores otherStores scored otherScored).mp above
      · -- Rows of one rank have one score, and so one identity.
        have tie : otherScore = score := by
          refine RouteMatchScore.eq_of_not_lt (fun less => ?_) fun greater => ?_
          · have above := (outranks_iff stores otherStores scored otherScored).mpr less
            rw [same] at above
            exact outranks_irrefl _ above
          · have below := (outranks_iff otherStores stores otherScored scored).mpr greater
            rw [same] at below
            exact outranks_irrefl _ below
        rw [tie] at otherScored
        have equal := identity_eq_of_score_eq otherScored scored
        exact absurd (stored.distinct other id otherRow row identity there found
          (equal ▸ otherStores) stores) different
    · rintro ⟨score, scored, best⟩
      have candidate : (id, row) ∈ candidates db request := by
        refine mem_candidates.mpr ⟨found, ?_⟩
        rw [matches_eq stores, scored]
        rfl
      refine selectedBinding_eq_some.mpr ⟨candidate, fun other otherRow rival => ?_⟩
      by_cases same : other = id
      · subst same
        have there := (mem_candidates.mp rival).1
        rw [found] at there
        cases there
        exact selectedBefore_refl _
      · obtain ⟨there, matched⟩ := mem_candidates.mp rival
        obtain ⟨otherIdentity, otherStores⟩ := stored.stored other otherRow there
        rw [matches_eq otherStores] at matched
        obtain ⟨otherScore, otherScored⟩ := Option.isSome_iff_exists.mp matched
        exact .inl ((outranks_iff stores otherStores scored otherScored).mpr
          (best other otherRow otherIdentity otherScore same there otherStores otherScored))
  · rw [resolveRoute_miss_iff stored, selectedBinding_eq_none]
    constructor
    · intro missed id row identity found stores
      have unmatched := missed id row found
      rw [matches_eq stores] at unmatched
      exact Option.not_isSome_iff_eq_none.mp (Bool.not_eq_true _ ▸ unmatched)
    · intro unscored id row found
      obtain ⟨identity, stores⟩ := stored.stored id row found
      rw [matches_eq stores, unscored id row identity found stores]
      rfl

/-! A wildcard binding beside an exact one. -/

namespace Sample

def bind (id : String) (nonblank : isBlank id = false) (identity : RouteIdentity) : Op :=
  .createRouteBinding
    { idempotencyKey := ⟨⟨id, nonblank⟩⟩
      routeBindingId := ⟨⟨id, nonblank⟩⟩
      instanceId := web
      identity := identity
      protocol := .http }

def wildcard : RouteIdentity := .http ⟨.wildcardSuffix, "shop.test", "*.shop.test", by decide⟩ none

def eastShop (path : Option PathPrefix) : RouteIdentity :=
  .http ⟨.exact, "east.shop.test", "east.shop.test", by decide⟩ path

def bound : List (Session × Op) :=
  [ (session 0, createWeb),
    (session 1, bind "wildcard" (by decide) wildcard),
    (session 2, bind "exact" (by decide) (eastShop none)) ]

end Sample

theorem sample_resolution_selects_the_highest_score :
    ∃ db id row identity, selectedBinding db (Sample.eastShop none) = some (id, row) ∧
      id.value = "exact" ∧
      ∃ score, routeMatchScore identity (Sample.eastShop none) = some score ∧
        ∀ other otherRow otherIdentity otherScore, other ≠ id →
          db.routeBindings.find? other = some otherRow → otherRow.Stores otherIdentity →
          routeMatchScore otherIdentity (Sample.eastShop none) = some otherScore →
          otherScore < score := by
  obtain ⟨db, reachable, selects⟩ := exists_reachable_of_runOps Sample.bound
    (fun db => (selectedBinding db (Sample.eastShop none)).any fun entry =>
      decide (entry.1.value = "exact")) (fun _ _ => trivial) (by decide)
  have stored : BindingsStored db := .of_reachable reachable
  cases selected : selectedBinding db (Sample.eastShop none) with
  | none =>
    rw [selected] at selects
    cases selects
  | some entry =>
    obtain ⟨id, row⟩ := entry
    rw [selected] at selects
    have found := (mem_candidates.mp (selectedBinding_eq_some.mp selected).1).1
    obtain ⟨identity, stores⟩ := stored.stored id row found
    exact ⟨db, id, row, identity, selected, of_decide_eq_true selects,
      ((resolution_selects_the_highest_score stored (Sample.eastShop none) Sample.target).1 id row
        identity found stores).mp selected⟩

end Sleepypods.Store
