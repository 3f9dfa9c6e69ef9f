import Sleepypods.Certificates.CacheProperties

/-! Views as leases: how long a view that `validate_view` accepts may be used, and which answers
may follow a cached one. -/

set_option autoImplicit false

namespace Sleepypods.CertificateCache

open Library.Fallible

/-- Both describe one version of a certificate; only how its key is sealed may differ. -/
def SameMaterial (old new : WireMetadata) : Prop :=
  new = { old with
    deleted := false, sealingKeyId := new.sealingKeyId, sealingRevision := new.sealingRevision }

theorem sameMaterial_of_matches {old new : WireMetadata}
    (matching : materialMetadataMatches old new = true) : SameMaterial old new := by
  cases old
  cases new
  simp_all [materialMetadataMatches, SameMaterial]

theorem left_of_remaining {metadata : WireMetadata} {authority : Int} {left : Nat}
    (remains : remaining metadata authority = .ok left) :
    (left : Int) = metadata.notAfterUnixMillis - authority := by
  simp only [remaining, bind_eq_ok, require_eq_ok, pure_eq_ok, exists_const] at remains
  obtain ⟨⟨_, before⟩, rfl⟩ := remains
  omega

variable {env : CacheEnv} {fetch : Fetch} {response : ResolveResponse} {wall : Int}
  {started elapsed : Nat} {view : View}

structure Leased (fetch : Fetch) (response : ResolveResponse) (started : Nat) (wall : Int)
    (view : View) : Prop where
  authorized : view.expires ≤ started + min response.authorizationTtlMillis 300000
  certified : view.config ≠ none → view.metadata ≠ none
  /-- The validity that is left is measured from the later of the two wall clocks. -/
  valid : ∀ metadata, view.metadata = some metadata → (view.expires : Int) ≤
    started + (metadata.notAfterUnixMillis - max wall response.observedAtUnixMillis)
  unchanged : ∀ metadata, response.value = some (.unchanged metadata) → ∃ prior old,
    fetch.prior = some prior ∧ prior.revision = view.revision ∧ prior.config = view.config ∧
      view.config ≠ none ∧ prior.metadata = some old ∧ SameMaterial old metadata
  found : ∀ metadata bundle, response.value = some (.found metadata bundle) → ∀ prior,
    fetch.prior = some prior → prior.revision ≠ view.revision

theorem leased_of_acceptValue {config : Option ServerConfig} {metadata : Option WireMetadata}
    {granted refresh : Nat}
    (accepted : acceptValue env fetch response (max wall response.observedAtUnixMillis) elapsed
      (min response.authorizationTtlMillis 300000) = .ok (config, metadata, granted)) :
    Leased fetch response started wall
      ⟨response.viewRevision, config, metadata, started + granted, refresh⟩ := by
  unfold acceptValue at accepted
  split at accepted
  · cases accepted
  next value =>
    simp only [bind_eq_ok, require_eq_ok, pure_eq_ok, exists_const, Prod.mk.injEq] at accepted
    obtain ⟨_, rfl, rfl, rfl⟩ := accepted
    refine ⟨?_, by simp, by simp, by simp [value], by simp [value]⟩
    simp only
    omega
  next returned value =>
    simp only [bind_eq_ok, require_eq_ok, orError_eq_ok, pure_eq_ok, exists_const,
      Prod.mk.injEq] at accepted
    obtain ⟨prior, there, ⟨same, configured, matching⟩, left, remains, rfl, rfl, rfl⟩ := accepted
    have bound := left_of_remaining remains
    obtain ⟨old, held, matching⟩ := (Option.any_eq_true _ _).mp matching
    refine ⟨?_, by simp, ?_, ?_, by simp [value]⟩
    · simp only
      omega
    · rintro _ ⟨⟩
      simp only
      omega
    · intro metadata sent
      cases value.symm.trans sent
      exact ⟨prior, old, there, same, rfl, Option.isSome_iff_ne_none.mp configured, held,
        sameMaterial_of_matches matching⟩
  next returned bundle value =>
    simp only [bind_eq_ok, require_eq_ok, orError_eq_ok, pure_eq_ok, exists_const,
      Prod.mk.injEq] at accepted
    obtain ⟨news, metadata, -, _, -, config, -, left, remains, rfl, rfl, rfl⟩ := accepted
    have bound := left_of_remaining remains
    refine ⟨?_, by simp, ?_, by simp [value], ?_⟩
    · simp only
      omega
    · rintro _ ⟨⟩
      simp only
      omega
    · rintro _ _ _ prior there same
      simp [there, same] at news

theorem accepted_views_are_leases
    (accepted : validateView env fetch response started wall elapsed = .ok view) :
    fetch.floor ≤ view.revision ∧
      (∀ prior, fetch.prior = some prior → prior.revision ≤ view.revision) ∧
      Leased fetch response started wall view := by
  simp only [validateView, bind_eq_ok, pure_eq_ok, require_eq_ok, exists_const] at accepted
  obtain ⟨-, -, floor, above, ⟨config, metadata, granted⟩, value, -, rfl⟩ := accepted
  refine ⟨floor, fun prior there => ?_, leased_of_acceptValue value⟩
  simpa [there] using above

namespace Sample

/-- The cached certificate with its key sealed again. -/
def resealed : ResolveResponse :=
  ⟨"app.test", 1, 20, 60000,
    some (.unchanged ⟨"app", 1, false, 0, 1000000, ["app.test"], [], none, 2⟩)⟩

def cachedView : View :=
  ⟨1, some config, some ⟨"app", 1, false, 0, 1000000, ["app.test"], [], none, 1⟩, 60001, 30001⟩

def refreshed : View :=
  ⟨1, some config, some ⟨"app", 1, false, 0, 1000000, ["app.test"], [], none, 2⟩, 60040, 30040⟩

end Sample

theorem resealed_view_is_accepted :
    validateView Sample.checked ⟨Sample.host, 1, some Sample.cachedView, 1⟩ Sample.resealed 40 20 0 =
        .ok Sample.refreshed ∧
      Sample.cachedView.metadata ≠ Sample.refreshed.metadata :=
  ⟨rfl, by decide⟩

theorem resealed_view_is_leased :
    Leased ⟨Sample.host, 1, some Sample.cachedView, 1⟩ Sample.resealed 40 20 Sample.refreshed := by
  have accepted : validateView Sample.checked ⟨Sample.host, 1, some Sample.cachedView, 1⟩
    Sample.resealed 40 20 0 = .ok Sample.refreshed := rfl
  exact (accepted_views_are_leases accepted).2.2

end Sleepypods.CertificateCache
