import BoringRegistry.Storage.Specs

/-!
# The upload round trips

`UploadModule` builds its key with `DefaultModuleArchiveFormat`, uploads there, and answers with
`GetModule`, which builds the key with the configured `moduleArchiveFormat`. The round trip
therefore holds exactly when the two formats agree. `NewS3Storage` sets no format of its own, so
a storage built without `WithS3ArchiveFormat` has the empty format: its uploads land under
`<name>.tar.gz` and are then looked up under `<name>.`, which holds nothing.

`UploadProviderReleaseFiles` answers with no lookup. It probes the file's key and uploads only
when the probe finds nothing there, so a file is stored once and a second upload is rejected.

## Main results

* `uploadModule_without_archive_format` — with the format left unset, an upload stores the
  archive and still reports `ErrModuleNotFound`
* `uploadModule_roundTrip` — with the default format, upload then lookup returns the uploaded
  coordinates, and a second upload is rejected and changes nothing
* `uploadProviderReleaseFiles_rejects_reupload` — a provider file is stored once, and uploading
  the same namespace, name and file name again is rejected and changes nothing
-/

namespace BoringRegistry

/-- A storage made by `NewS3Storage` with no options uploads a module and then fails to find it. -/
theorem uploadModule_without_archive_format :
    Go.value? ((newS3Storage "registry" []).uploadModule "acme" "tls" "aws" "1.0.0" "archive")
        World.empty = some (.error (.sentinel .moduleNotFound)) ∧
      (Go.after ((newS3Storage "registry" []).uploadModule "acme" "tls" "aws" "1.0.0" "archive")
        World.empty).bucket "modules/acme/tls/aws/1.0.0/tls.tar.gz" = some "archive" := by
  decide

namespace S3Storage

variable (s : S3Storage) {w : World} {ns name provider version : String}

/-- In a world where nothing fails, `GetModule` reports `ErrModuleNotFound` only for a key that
holds nothing. -/
theorem absent_of_getModule_notFound (hw : w.Reliable)
    (h : Go.value? (s.getModule ns name provider version) w =
      some (.error (.sentinel .moduleNotFound))) :
    w.bucket (s.moduleKey ns name provider version) = none := by
  by_contra hp
  rw [Go.value?, s.getModule_of_present (hw.faultOf _) hp
    ((World.reliable_record.mpr hw).faultOf _)] at h
  cases h

/-- With the default archive format and nothing failing, an upload of an absent module version
stores it and returns its coordinates; looking it up returns the same; and a second upload of the
same coordinates fails with `ErrModuleAlreadyExists` and leaves the bucket as it was. -/
theorem uploadModule_roundTrip (hfmt : s.moduleArchiveFormat = defaultModuleArchiveFormat)
    (hw : w.Reliable) (hns : ns ≠ "") (hname : name ≠ "") (hprov : provider ≠ "")
    (hver : version ≠ "") (body body₂ : Blob)
    (hnf : Go.value? (s.getModule ns name provider version) w =
      some (.error (.sentinel .moduleNotFound))) :
    let m : Core.Module := ⟨ns, name, provider, version,
      presignedGetURL s.bucket (s.moduleKey ns name provider version)⟩
    let w₁ := Go.after (s.uploadModule ns name provider version body) w
    Go.value? (s.uploadModule ns name provider version body) w = some (.ok m) ∧
      Go.value? (s.getModule ns name provider version) w₁ = some (.ok m) ∧
      (∃ err, Go.value? (s.uploadModule ns name provider version body₂) w₁ = some (.error err) ∧
        err.is .moduleAlreadyExists) ∧
      (Go.after (s.uploadModule ns name provider version body₂) w₁).bucket = w₁.bucket := by
  -- The upload stores the module, and the world it leaves still holds it with nothing failing.
  obtain ⟨w₁, hupload, hw₁, hstored⟩ : ∃ w₁, s.uploadModule ns name provider version body w =
      .ok (.ok ⟨ns, name, provider, version,
        presignedGetURL s.bucket (s.moduleKey ns name provider version)⟩) w₁ ∧
      w₁.Reliable ∧ w₁.bucket (s.moduleKey ns name provider version) ≠ none :=
    ⟨_, s.uploadModule_of_absent hfmt hw hns hname hprov hver
      (s.absent_of_getModule_notFound hw hnf) body, by simpa using hw, by simp⟩
  have hlookup := s.getModule_of_present (hw₁.faultOf _) hstored
    ((World.reliable_record.mpr hw₁).faultOf _)
  simp [Go.after, Go.value?, hupload, hlookup, s.uploadModule_apply hns hname hprov hver]

/-- Upload into an empty bucket, then look up: the lookup finds the uploaded module. -/
theorem uploadModule_roundTrip_empty :
    let s := newS3Storage "registry" [withS3ArchiveFormat "tar.gz"]
    Go.value? (s.getModule "acme" "tls" "aws" "1.0.0")
        (Go.after (s.uploadModule "acme" "tls" "aws" "1.0.0" "archive") World.empty) =
      some (.ok ⟨"acme", "tls", "aws", "1.0.0",
        presignedGetURL s.bucket (s.moduleKey "acme" "tls" "aws" "1.0.0")⟩) :=
  ((newS3Storage "registry" [withS3ArchiveFormat "tar.gz"]).uploadModule_roundTrip rfl
    (show World.empty.Reliable from fun _ _ => rfl) (by decide) (by decide) (by decide)
    (by decide) "archive" "again" (by decide)).2.1

/-- In a world where nothing fails, uploading a provider file whose key holds nothing stores the
file there and nowhere else; uploading the same namespace, name and file name again fails with
`ErrProviderAlreadyExists` and leaves the bucket as it was. -/
theorem uploadProviderReleaseFiles_rejects_reupload (hw : w.Reliable)
    {ns name filename D : String} (hns : ns ≠ "") (hname : name ≠ "") (hfile : filename ≠ "")
    (hD : providerStoragePrefix s.bucketPrefix internalProviderType "" ns name = .ok D)
    (habsent : w.bucket (Filepath.join [D, filename]) = none) (file file₂ : Blob) :
    let w₁ := Go.after (s.uploadProviderReleaseFiles ns name filename file) w
    Go.value? (s.uploadProviderReleaseFiles ns name filename file) w = some (.ok ()) ∧
      w₁.bucket = Function.update w.bucket (Filepath.join [D, filename]) (some file) ∧
      Go.value? (s.uploadProviderReleaseFiles ns name filename file₂) w₁ =
        some (.error (.sentinel .providerAlreadyExists)) ∧
      (Go.after (s.uploadProviderReleaseFiles ns name filename file₂) w₁).bucket =
        w₁.bucket := by
  set key := Filepath.join [D, filename]
  have hup : s.uploadProviderReleaseFiles ns name filename file w = .ok (.ok ())
      (((w.record (.headObject s.bucket key)).record (.upload s.bucket key file)).put key
        file) := by
    rw [s.uploadProviderReleaseFiles_apply hns hname hfile hD, objectExists_apply]
    simp [World.faultOf, hw _ _, habsent]
  have hw₁ : (((w.record (.headObject s.bucket key)).record (.upload s.bucket key file)).put key
      file).Reliable := by simpa using hw
  have hagain := s.uploadProviderReleaseFiles_of_present hns hname hfile hD (hw₁.faultOf _)
    (by simp) file₂
  simp [Go.after, Go.value?, hup, hagain]

/-- The `tls` release's archive, uploaded twice into an empty bucket: the second upload is
rejected. -/
theorem uploadProviderReleaseFiles_rejects_reupload_tls :
    Go.value? ((newS3Storage "registry" []).uploadProviderReleaseFiles "acme" "tls"
        "terraform-provider-tls_1.0.0_linux_amd64.zip" "again")
      (Go.after ((newS3Storage "registry" []).uploadProviderReleaseFiles "acme" "tls"
        "terraform-provider-tls_1.0.0_linux_amd64.zip" "zip") World.empty) =
      some (.error (.sentinel .providerAlreadyExists)) :=
  ((newS3Storage "registry" []).uploadProviderReleaseFiles_rejects_reupload
    (show World.empty.Reliable from fun _ _ => rfl) (by decide) (by decide) (by decide)
    (show providerStoragePrefix "" internalProviderType "" "acme" "tls" =
      .ok "providers/acme/tls" from rfl)
    (show World.empty.bucket (Filepath.join ["providers/acme/tls",
      "terraform-provider-tls_1.0.0_linux_amd64.zip"]) = none from rfl) "zip" "again").2.2.1

end S3Storage

end BoringRegistry
