import BoringRegistry.Guarantees.Listings

/-!
# Which errors a caller can recognise

A caller tells an expected condition (an absent entity, an existing one) from a backend failure
with `errors.Is` against the package's sentinels, that is with `Error.is`. This module says, for
each operation, which sentinels its errors can be recognised as and what that tells about the
bucket.

The specification asks that an absent entity be reported with its `NotFound` sentinel, by type.
`GetModule` does so, but `ListProviderVersions` reports an empty listing with a fresh
`fmt.Errorf` message, and `SigningKeys` an absent key with the SDK's 404 wrapped twice:
`errors.Is` recognises neither as `ErrProviderNotFound`, or as any sentinel, although the same
`ListProviderVersions` reports a failed page with the typed `ErrProviderListFailed`.

The sentinels that are returned are sound: when no failure is an HTTP 404, a `NotFound` or
`AlreadyExists` sentinel is only ever returned when the bucket says so, never in place of a
backend failure. The one `NotFound` that `UploadModule` can return after a successful upload comes
from its archive-format mismatch (see `RoundTrip`), and it too is true of the key it names.
`GetProvider`'s one sentinel is the stored manifest's verdict on the archive's file name.

## Main results

* `absence_reported_untyped` — on the empty bucket an absent module is `ErrModuleNotFound`, an
  absent provider or absent signing keys no sentinel at all
* `error_kinds` — what each operation's errors are recognised as, and what that means
-/

namespace BoringRegistry

/-- On the empty bucket `GetModule` reports the absent module with `ErrModuleNotFound`, while
`ListProviderVersions` reports the absent provider with a fresh message and `SigningKeys` the
absent signing keys with the SDK's 404 wrapped twice, whatever the decoder: `errors.Is`
recognises neither as `ErrProviderNotFound`, or as any sentinel. -/
theorem absence_reported_untyped (unmarshalSigningKeys : Blob → Except String Core.SigningKeys) :
    Go.value? ((newS3Storage "registry" []).getModule "acme" "tls" "aws" "1.0.0") World.empty =
      some (.error (.sentinel .moduleNotFound)) ∧
    Go.value? ((newS3Storage "registry" []).listProviderVersions "acme" "tls" fun _ => [.ok []])
      World.empty = some (.error (.new "no provider versions found for acme/tls")) ∧
    Go.value? ((newS3Storage "registry" []).signingKeys unmarshalSigningKeys "acme") World.empty =
      some (.error (.wrap "failed to download signing_keys.json for namespace acme"
        (.wrap "failed to download: providers/acme/signing_keys.json" (.sdk SdkError.notFound)))) ∧
    ∀ t : Sentinel, (Error.new "no provider versions found for acme/tls").is t = false ∧
      (Error.wrap "failed to download signing_keys.json for namespace acme"
        (.wrap "failed to download: providers/acme/signing_keys.json"
          (.sdk SdkError.notFound))).is t = false :=
  ⟨by decide, by simp [Go.value?, S3Storage.listProviderVersions_apply, providerStoragePrefix,
    newCollection, Collection.list], rfl, fun _ => ⟨rfl, rfl⟩⟩

namespace S3Storage

variable (s : S3Storage) {w : World}

/-! ### What each operation's errors are -/

theorem getModule_error_is (hw : w.No404Faults) {ns name provider version : String} {err : Error}
    {w' : World} (h : s.getModule ns name provider version w = .ok (.error err) w') {t : Sentinel}
    (ht : err.is t) :
    t = .moduleNotFound ∧ w.bucket (s.moduleKey ns name provider version) = none := by
  rcases s.getModule_error_cases hw h with ⟨rfl, ha⟩ | ⟨e, rfl⟩
  · simp at ht
    exact ⟨ht.symm, ha⟩
  · simp at ht

theorem uploadModule_error_is (hw : w.No404Faults) {ns name provider version : String}
    {body : Blob} {err : Error} {w' : World}
    (h : s.uploadModule ns name provider version body w = .ok (.error err) w') {t : Sentinel}
    (ht : err.is t) :
    t = .moduleUploadFailed ∨
      (t = .moduleAlreadyExists ∧ w.bucket (s.moduleKey ns name provider version) ≠ none) ∨
      (t = .moduleNotFound ∧ w'.bucket (s.moduleKey ns name provider version) = none) := by
  cases hfe : firstEmpty [(ns, "namespace not defined"), (name, "name not defined"),
      (provider, "provider not defined"), (version, "version not defined")] with
  | some msg =>
    rw [s.uploadModule_of_firstEmpty hfe] at h
    cases h
    simp at ht
  | none =>
    obtain ⟨hns, hname, hprov, hver⟩ :
        ns ≠ "" ∧ name ≠ "" ∧ provider ≠ "" ∧ version ≠ "" := by
      simpa using firstEmpty_eq_none.mp hfe
    have hkeeps := s.getModule_keeps ns name provider version w
    rw [s.uploadModule_apply hns hname hprov hver] at h
    rcases hg : s.getModule ns name provider version w with ⟨_ | _, w₁⟩ | ⟨_, w₁⟩ <;>
      rw [hg] at h
    · -- the lookup failed: upload, then look up again
      simp only [Go.after, hg] at hkeeps
      simp only at h
      cases hu : w₁.faultOf (.upload s.bucket (s.uploadKey ns name provider version) body) <;>
        simp only [hu] at h
      · set w₂ := (w₁.record (.upload s.bucket (s.uploadKey ns name provider version)
          body)).put (s.uploadKey ns name provider version) body
        have hw₂ : w₂.No404Faults := by simpa [w₂, World.No404Faults, hkeeps.2] using hw
        have hkeeps₂ := s.getModule_keeps ns name provider version w₂
        rw [Go.after, h] at hkeeps₂
        obtain ⟨rfl, ha⟩ := s.getModule_error_is hw₂ h ht
        exact .inr (.inr ⟨rfl, by rw [hkeeps₂.1]; exact ha⟩)
      · cases h
        simp at ht
        exact .inl ht.symm
    · -- the lookup succeeded: the module is there
      cases h
      simp at ht
      exact .inr (.inl ⟨ht.symm, s.getModule_ok_present hg⟩)
    · cases h

theorem uploadProviderReleaseFiles_error_is (hw : w.No404Faults) {ns name filename : String}
    {file : Blob} {err : Error} {w' : World}
    (h : s.uploadProviderReleaseFiles ns name filename file w = .ok (.error err) w')
    {t : Sentinel} (ht : err.is t) :
    t = .providerAlreadyExists ∧ ∃ D,
      providerStoragePrefix s.bucketPrefix internalProviderType "" ns name = .ok D ∧
        w.bucket (Filepath.join [D, filename]) ≠ none := by
  by_cases hok : firstEmpty [(ns, "namespace argument is empty"), (name, "name argument is empty"),
      (filename, "name argument is empty")] = none ∧
      ∃ D, providerStoragePrefix s.bucketPrefix internalProviderType "" ns name = .ok D
  · obtain ⟨hfe, D, hD⟩ := hok
    obtain ⟨hns, hname, hfile⟩ : ns ≠ "" ∧ name ≠ "" ∧ filename ≠ "" := by
      simpa using firstEmpty_eq_none.mp hfe
    rw [s.uploadProviderReleaseFiles_apply hns hname hfile hD, objectExists_apply] at h
    rcases hf : w.faultOf (.headObject s.bucket (Filepath.join [D, filename])) with _ | e
    · rcases hb : w.bucket (Filepath.join [D, filename]) with _ | v <;> simp [hf, hb] at h
      · split at h <;> simp at h
        rw [← h.1] at ht
        simp at ht
      · rw [← h.1] at ht
        simp at ht
        exact ⟨ht.symm, D, hD, by simp [hb]⟩
    · simp [hf, hw _ _ e hf] at h
      rw [← h.1] at ht
      simp at ht
  · obtain ⟨err', h', hfresh⟩ := s.uploadProviderReleaseFiles_of_not_ok file hok w
    rw [h'] at h
    cases h
    simp [hfresh] at ht

theorem listProviderVersions_error_is {ns name : String} {paginate : Paginator} {err : Error}
    {w' : World} (h : s.listProviderVersions ns name paginate w = .ok (.error err) w')
    {t : Sentinel} (ht : err.is t) : t = .providerListFailed := by
  rw [listProviderVersions_apply] at h
  cases hp : providerStoragePrefix s.bucketPrefix internalProviderType "" ns name with
  | error e =>
    simp only [hp, EStateM.Result.ok.injEq, Except.error.injEq] at h
    rw [← h.1, providerStoragePrefix_error_is hp] at ht
    cases ht
  | ok pfx =>
    simp only [hp] at h
    split at h
    · simp only [EStateM.Result.ok.injEq, Except.error.injEq] at h
      rw [← h.1] at ht
      simp at ht
      exact ht.symm
    · split at h <;> simp only [EStateM.Result.ok.injEq] at h
      · rw [← Except.error.inj h.1] at ht
        cases ht
      · cases h.1

theorem signingKeys_error_is (unmarshalSigningKeys : Blob → Except String Core.SigningKeys)
    {ns : String} {err : Error} {w' : World}
    (h : s.signingKeys unmarshalSigningKeys ns w = .ok (.error err) w') (t : Sentinel) :
    err.is t = false := by
  by_cases hns : ns = ""
  · simp [signingKeys, firstEmpty, hns] at h
    rw [← h.1]
    rfl
  · simp only [signingKeys, firstEmpty, hns, if_false, Go.bind_apply] at h
    rcases hd : s.download (signingKeysPath s.bucketPrefix ns) w with
      ⟨_ | raw, w₁⟩ | ⟨_, w₁⟩ <;> rw [hd] at h
    · cases h
      simpa using s.download_error_is hd t
    · dsimp only at h
      cases hu : unmarshalSigningKeys raw <;> simp [hu] at h
      rw [← h.1]
      rfl
    · cases h

theorem listModuleVersions_error_is {ns name provider : String} {paginate : Paginator}
    {err : Error} {w' : World}
    (h : s.listModuleVersions ns name provider paginate w = .ok (.error err) w') {t : Sentinel}
    (ht : err.is t) : t = .moduleListFailed := by
  rw [listModuleVersions, forEachPage_eq] at h
  rcases s.forEachKey_listModuleVersionsStep
      (Pages.split (paginate (modulePathPrefix s.bucketPrefix ns name provider))).1 [] w with
    ⟨p, w₁, h₁, -⟩ | ⟨w₁, h₁⟩ <;> rw [Go.bind_apply, h₁] at h
  · cases h
  · cases hs : (Pages.split (paginate (modulePathPrefix s.bucketPrefix ns name provider))).2 <;>
      simp only [hs] at h <;> cases h
    simp only [Error.is_wrap, Error.is_sentinel, beq_iff_eq] at ht
    exact ht.symm

/-- Whatever requests fail, `GetProvider`'s one sentinel is `ErrProviderNotFound`, and only as
the stored manifest's verdict on the archive's file name. -/
theorem getProvider_error_is (unmarshalSigningKeys : Blob → Except String Core.SigningKeys)
    {ns name version os arch : String} {err : Error} {w' : World}
    (h : s.getProvider unmarshalSigningKeys ns name version os arch w = .ok (.error err) w')
    {t : Sentinel} (ht : err.is t) :
    t = .providerNotFound ∧ ∃ archive shasums sig bytes,
      internalProviderPath s.bucketPrefix ns name version os arch = .ok (archive, shasums, sig) ∧
        w.bucket shasums = some bytes ∧ readSHASums bytes (GoPath.base archive) = .error err := by
  unfold getProvider at h
  rcases hpath : internalProviderPath s.bucketPrefix ns name version os arch with
    e | ⟨archive, shasums, sig⟩ <;> simp only [hpath] at h
  · cases h
    simp [internalProviderPath_error_is hpath t] at ht
  -- The three presigns return, so none of them failed and the bucket is untouched.
  obtain ⟨r, w₁, h₁, h⟩ := Go.bind_eq_ok h
  obtain ⟨rfl, rfl⟩ := s.presignedURL_eq_ok h₁
  obtain ⟨r, w₂, h₂, h⟩ := Go.bind_eq_ok h
  obtain ⟨rfl, rfl⟩ := s.presignedURL_eq_ok h₂
  obtain ⟨r, w₃, h₃, h⟩ := Go.bind_eq_ok h
  obtain ⟨rfl, rfl⟩ := s.presignedURL_eq_ok h₃
  -- The manifest's download, its verdict, and the signing keys.
  obtain ⟨r, w₄, h₄, h⟩ := Go.bind_eq_ok h
  rcases r with e | bytes
  · cases h
    simp [s.download_error_is h₄ t] at ht
  obtain ⟨hbytes, rfl⟩ := s.download_eq_ok h₄
  rcases hdigest : readSHASums bytes (GoPath.base archive) with e | digest <;>
    simp only [hdigest] at h
  · cases h
    exact ⟨readSHASums_error_is hdigest ht, archive, shasums, sig, bytes, rfl,
      by simpa using hbytes, hdigest⟩
  obtain ⟨r, w₅, h₅, h⟩ := Go.bind_eq_ok h
  rcases r with e | keys <;> cases h
  simp [s.signingKeys_error_is _ h₅ t] at ht

/-! ### Absent and existing entities -/

theorem listProviderVersions_of_none_accepted {ns name pfx : String} {paginate : Paginator}
    (hp : providerStoragePrefix s.bucketPrefix internalProviderType "" ns name = .ok pfx)
    (hpages : (Pages.split (paginate (pfx ++ "/"))).2 = none)
    (hnone : ∀ k ∈ (Pages.split (paginate (pfx ++ "/"))).1, ∀ p,
      Core.newProviderFromArchive k ≠ .ok p) (w : World) :
    s.listProviderVersions ns name paginate w =
      .ok (.error (.new ("no provider versions found for " ++ ns ++ "/" ++ name))) w := by
  have hempty := (foldl_addArchive_versions_eq_nil _ newCollection).mpr ⟨rfl, hnone⟩
  rw [listProviderVersions_apply]
  simp [hp, hpages, (Collection.list_eq_nil_iff _).mpr hempty]

/-! ### The classification -/

/-- What `errors.Is` can tell about each operation's errors.

(a) `GetModule` reports an absent module with `ErrModuleNotFound`; `ListProviderVersions` reports
a listing with no provider archive, and `SigningKeys` an absent signing-keys key, with errors that
no sentinel recognises.
(b) `UploadModule` rejects a module that `GetModule` finds with `ErrModuleAlreadyExists`, and
`UploadProviderReleaseFiles` an existing key with `ErrProviderAlreadyExists`.
(c) When no failure is a 404, the `NotFound` and `AlreadyExists` sentinels are only returned when
the bucket says so: `GetProvider`'s `ErrProviderNotFound` is the verdict of the stored manifest.
The other operations' errors are recognised as no such sentinel, and the listings' as their
`ListFailed` sentinel alone. -/
theorem error_kinds (unmarshalSigningKeys : Blob → Except String Core.SigningKeys) :
    -- (a)
    (∀ (w : World) (ns name provider version : String),
      w.faultOf (.headObject s.bucket (s.moduleKey ns name provider version)) = none →
      w.bucket (s.moduleKey ns name provider version) = none →
      ∃ err w', s.getModule ns name provider version w = .ok (.error err) w' ∧
        err.is .moduleNotFound) ∧
    (∀ (w : World) (ns name pfx : String) (paginate : Paginator),
      providerStoragePrefix s.bucketPrefix internalProviderType "" ns name = .ok pfx →
      (Pages.split (paginate (pfx ++ "/"))).2 = none →
      (∀ k ∈ (Pages.split (paginate (pfx ++ "/"))).1, ∀ p, Core.newProviderFromArchive k ≠ .ok p) →
      ∃ err, s.listProviderVersions ns name paginate w = .ok (.error err) w ∧
        ∀ t, err.is t = false) ∧
    (∀ (w : World) (ns : String), ns ≠ "" →
      w.faultOf (.download s.bucket (signingKeysPath s.bucketPrefix ns)) = none →
      w.bucket (signingKeysPath s.bucketPrefix ns) = none →
      ∃ err w', s.signingKeys unmarshalSigningKeys ns w = .ok (.error err) w' ∧
        ∀ t, err.is t = false) ∧
    -- (b)
    (∀ (w : World) (ns name provider version : String) (body : Blob), w.Reliable →
      ns ≠ "" → name ≠ "" → provider ≠ "" → version ≠ "" →
      w.bucket (s.moduleKey ns name provider version) ≠ none →
      ∃ err w', s.uploadModule ns name provider version body w = .ok (.error err) w' ∧
        err.is .moduleAlreadyExists) ∧
    (∀ (w : World) (ns name filename D : String) (file : Blob),
      ns ≠ "" → name ≠ "" → filename ≠ "" →
      providerStoragePrefix s.bucketPrefix internalProviderType "" ns name = .ok D →
      w.faultOf (.headObject s.bucket (Filepath.join [D, filename])) = none →
      w.bucket (Filepath.join [D, filename]) ≠ none →
      ∃ err w', s.uploadProviderReleaseFiles ns name filename file w = .ok (.error err) w' ∧
        err.is .providerAlreadyExists) ∧
    -- (c)
    (∀ w : World, w.No404Faults → ∀ (err : Error) (w' : World) (t : Sentinel), err.is t →
      (∀ ns name provider version, s.getModule ns name provider version w = .ok (.error err) w' →
        t = .moduleNotFound ∧ w.bucket (s.moduleKey ns name provider version) = none) ∧
      (∀ ns name provider version body,
        s.uploadModule ns name provider version body w = .ok (.error err) w' →
        t = .moduleUploadFailed ∨
          (t = .moduleAlreadyExists ∧ w.bucket (s.moduleKey ns name provider version) ≠ none) ∨
          (t = .moduleNotFound ∧ w'.bucket (s.moduleKey ns name provider version) = none)) ∧
      (∀ ns name filename file,
        s.uploadProviderReleaseFiles ns name filename file w = .ok (.error err) w' →
        t = .providerAlreadyExists ∧ ∃ D,
          providerStoragePrefix s.bucketPrefix internalProviderType "" ns name = .ok D ∧
            w.bucket (Filepath.join [D, filename]) ≠ none) ∧
      (∀ ns name paginate, s.listProviderVersions ns name paginate w = .ok (.error err) w' →
        t = .providerListFailed) ∧
      (∀ ns, s.signingKeys unmarshalSigningKeys ns w = .ok (.error err) w' → False) ∧
      (∀ ns name version os arch,
        s.getProvider unmarshalSigningKeys ns name version os arch w = .ok (.error err) w' →
        t = .providerNotFound ∧ ∃ archive shasums sig bytes,
          internalProviderPath s.bucketPrefix ns name version os arch =
            .ok (archive, shasums, sig) ∧
          w.bucket shasums = some bytes ∧ readSHASums bytes (GoPath.base archive) = .error err) ∧
      (∀ ns name provider paginate,
        s.listModuleVersions ns name provider paginate w = .ok (.error err) w' →
        t = .moduleListFailed)) := by
  refine ⟨fun w _ _ _ _ hf ha => ⟨_, _, s.getModule_of_absent hf ha, rfl⟩,
    fun w _ _ _ _ hp hpages hnone =>
      ⟨_, s.listProviderVersions_of_none_accepted hp hpages hnone w, fun _ => rfl⟩,
    fun w _ hns hf ha => by
      rw [s.signingKeys_apply _ hns hf, ha]
      exact ⟨_, _, rfl, fun _ => rfl⟩,
    fun w _ _ _ _ body hw hns hname hprov hver hp => ?_,
    fun w _ _ _ _ file hns hname hfile hD hf hp =>
      ⟨_, _, s.uploadProviderReleaseFiles_of_present hns hname hfile hD hf hp file, rfl⟩,
    fun w hw err w' t ht => ⟨fun _ _ _ _ h => s.getModule_error_is hw h ht,
      fun _ _ _ _ _ h => s.uploadModule_error_is hw h ht,
      fun _ _ _ _ h => s.uploadProviderReleaseFiles_error_is hw h ht,
      fun _ _ _ h => s.listProviderVersions_error_is h ht,
      fun _ h => by simp [s.signingKeys_error_is _ h t] at ht,
      fun _ _ _ _ _ h => s.getProvider_error_is _ h ht,
      fun _ _ _ _ h => s.listModuleVersions_error_is h ht⟩⟩
  obtain ⟨w', h⟩ := s.uploadModule_of_present hw hns hname hprov hver hp body
  exact ⟨_, w', h, rfl⟩

/-- The classification at one input: a lookup in the empty bucket is `ErrModuleNotFound`. -/
theorem error_kinds_empty_lookup :
    ∃ err w', (newS3Storage "registry" []).getModule "acme" "tls" "aws" "1.0.0" World.empty =
      .ok (.error err) w' ∧ err.is .moduleNotFound :=
  ((newS3Storage "registry" []).error_kinds fun _ => .error "unused").1 World.empty "acme" "tls"
    "aws" "1.0.0" rfl rfl

end S3Storage

end BoringRegistry
