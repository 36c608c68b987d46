import BoringRegistry.Storage.Specs

/-!
# Stored objects over whole runs

The registry's entities are created by uploads and never changed afterwards: a re-upload of an
existing coordinate is meant to be rejected. Two serving operations write to the bucket,
`UploadModule` and `UploadProviderReleaseFiles`, and both probe their key before they write. They
differ in what a failed probe means.

`UploadProviderReleaseFiles` returns the probe's error. `UploadModule` probes through `GetModule`
and takes *any* error for "not there" (`if _, err := s.GetModule(...); err == nil`), so a HEAD
that fails with a server error sends it on to upload over the module it failed to see. It also
probes the key built with the configured archive format but writes the key built with
`DefaultModuleArchiveFormat`: under any other format the probe looks at a different object from
the one the upload replaces.

Without those two situations the guarantee holds: every operation leaves the bucket as it was or
adds one object under a key that held nothing, and so no run ever replaces an object.

## Main definitions

* `ServingOp`, `ServingOp.step`, `runOps` — runs of the serving operations
* `World.AddsAtMostOne` — what one operation may do to the bucket

## Main results

* `uploadModule_replaces_after_head_failure` — a failing HEAD lets `UploadModule` replace a
  stored module
* `ServingOp.addsAtMostOne_step` — when no HEAD fails and the archive format is the default,
  each operation adds at most one object, under a key that held nothing
* `runOps_addsAtMostOne` — the same for every step of every run
-/

namespace BoringRegistry

/-! ### A module replaced -/

/-- A bucket holding one module version, whose first HEAD fails with a server error. -/
def flakyHeadWorld : World where
  bucket k := if k = "modules/acme/tls/aws/1.0.0/tls.tar.gz" then some "v1" else none
  sent := []
  fault r n := if r = .headObject "registry" "modules/acme/tls/aws/1.0.0/tls.tar.gz" ∧ n = 0 then
    some ⟨some 500, "InternalError"⟩ else none

/-- With the default archive format, a HEAD that fails with a 500 makes `UploadModule` upload over
the stored module and report success. -/
theorem uploadModule_replaces_after_head_failure :
    flakyHeadWorld.bucket "modules/acme/tls/aws/1.0.0/tls.tar.gz" = some "v1" ∧
      Go.value? ((newS3Storage "registry" [withS3ArchiveFormat "tar.gz"]).uploadModule "acme" "tls"
        "aws" "1.0.0" "v2") flakyHeadWorld =
        some (.ok ⟨"acme", "tls", "aws", "1.0.0",
          presignedGetURL "registry" "modules/acme/tls/aws/1.0.0/tls.tar.gz"⟩) ∧
      (Go.after ((newS3Storage "registry" [withS3ArchiveFormat "tar.gz"]).uploadModule "acme" "tls"
        "aws" "1.0.0" "v2") flakyHeadWorld).bucket "modules/acme/tls/aws/1.0.0/tls.tar.gz" =
        some "v2" := by
  decide

/-! ### One operation -/

namespace World

/-- No `HeadObject` of the run fails. -/
def HeadsSucceed (w : World) : Prop := ∀ bucket key n, w.fault (.headObject bucket key) n = none

theorem HeadsSucceed.faultOf {w : World} (hw : w.HeadsSucceed) (bucket key : String) :
    w.faultOf (.headObject bucket key) = none := hw _ _ _

/-- `w'` holds the objects of `w` and at most one more, under a key that held nothing in `w`. -/
def AddsAtMostOne (w w' : World) : Prop :=
  w'.fault = w.fault ∧ (w'.bucket = w.bucket ∨
    ∃ k v, w.bucket k = none ∧ w'.bucket = Function.update w.bucket k (some v))

theorem SameBucket.addsAtMostOne {w w' : World} (h : w.SameBucket w') : w.AddsAtMostOne w' :=
  ⟨h.2, .inl h.1⟩

theorem AddsAtMostOne.retains {w w' : World} (h : w.AddsAtMostOne w') : w.Retains w' := by
  refine ⟨fun k v hk => ?_, h.1⟩
  rcases h.2 with h' | ⟨k', v', hk', h'⟩
  · rw [h']; exact hk
  · have hne : k ≠ k' := by rintro rfl; simp [hk'] at hk
    rw [h', Function.update_noteq hne, hk]

/-- Storing under a key that held nothing, after steps that keep the bucket. -/
theorem addsAtMostOne_put {w w₁ : World} {key : String} (h₁ : w.SameBucket w₁)
    (hkey : w.bucket key = none) (body : Blob) : w.AddsAtMostOne (w₁.put key body) :=
  ⟨h₁.2, .inr ⟨key, body, hkey, by rw [put_bucket, h₁.1]⟩⟩

theorem AddsAtMostOne.trans_sameBucket {w w₁ w₂ : World} (h : w.AddsAtMostOne w₁)
    (h' : w₁.SameBucket w₂) : w.AddsAtMostOne w₂ :=
  ⟨h'.2.trans h.1, by rw [h'.1]; exact h.2⟩

end World

namespace S3Storage

variable (s : S3Storage) {w : World}

theorem uploadModule_addsAtMostOne (hfmt : s.moduleArchiveFormat = defaultModuleArchiveFormat)
    (hw : w.HeadsSucceed) (ns name provider version : String) (body : Blob) :
    w.AddsAtMostOne (Go.after (s.uploadModule ns name provider version body) w) := by
  cases hfe : firstEmpty [(ns, "namespace not defined"), (name, "name not defined"),
      (provider, "provider not defined"), (version, "version not defined")] with
  | some msg => simp [s.uploadModule_of_firstEmpty hfe, Go.after, World.AddsAtMostOne]
  | none =>
    obtain ⟨hns, hname, hprov, hver⟩ :
        ns ≠ "" ∧ name ≠ "" ∧ provider ≠ "" ∧ version ≠ "" := by
      simpa using firstEmpty_eq_none.mp hfe
    have hkey : s.uploadKey ns name provider version = s.moduleKey ns name provider version := by
      rw [uploadKey, moduleKey, hfmt]
    have hkeeps := s.getModule_keeps ns name provider version w
    rw [Go.after, s.uploadModule_apply hns hname hprov hver]
    rw [Go.after] at hkeeps
    rcases hg : s.getModule ns name provider version w with ⟨_ | _, w₁⟩ | ⟨_, w₁⟩ <;>
      rw [hg] at hkeeps
    · have habsent := s.getModule_error_absent (hw.faultOf _ _) hg
      dsimp only
      cases w₁.faultOf (.upload s.bucket (s.uploadKey ns name provider version) body)
      · have hrec : w.SameBucket
            (w₁.record (.upload s.bucket (s.uploadKey ns name provider version) body)) := hkeeps
        exact (World.addsAtMostOne_put hrec (hkey ▸ habsent) body).trans_sameBucket
          (s.getModule_keeps ns name provider version _)
      · exact ⟨hkeeps.2, .inl hkeeps.1⟩
    · exact hkeeps.addsAtMostOne
    · exact hkeeps.addsAtMostOne

theorem uploadProviderReleaseFiles_addsAtMostOne (hw : w.HeadsSucceed)
    (ns name filename : String) (file : Blob) :
    w.AddsAtMostOne (Go.after (s.uploadProviderReleaseFiles ns name filename file) w) := by
  by_cases hok : firstEmpty [(ns, "namespace argument is empty"), (name, "name argument is empty"),
      (filename, "name argument is empty")] = none ∧
      ∃ D, providerStoragePrefix s.bucketPrefix internalProviderType "" ns name = .ok D
  · obtain ⟨hfe, D, hD⟩ := hok
    obtain ⟨hns, hname, hfile⟩ : ns ≠ "" ∧ name ≠ "" ∧ filename ≠ "" := by
      simpa using firstEmpty_eq_none.mp hfe
    rw [Go.after, s.uploadProviderReleaseFiles_apply hns hname hfile hD, objectExists_apply,
      hw.faultOf]
    cases hpresent : w.bucket (Filepath.join [D, filename]) <;>
      simp only [Option.isSome_none, Option.isSome_some]
    · cases (w.record _).faultOf (.upload s.bucket (Filepath.join [D, filename]) file)
      · exact World.addsAtMostOne_put ⟨rfl, rfl⟩ hpresent file
      · exact ⟨rfl, .inl rfl⟩
    · exact ⟨rfl, .inl rfl⟩
  · obtain ⟨err, h, -⟩ := s.uploadProviderReleaseFiles_of_not_ok file hok w
    simp [Go.after, h, World.AddsAtMostOne]

end S3Storage

/-! ### Runs -/

/-- A serving operation with its arguments. A listing carries what its paginator yields. -/
inductive ServingOp
  | getModule (ns name provider version : String)
  | listModuleVersions (ns name provider : String) (paginate : Paginator)
  | uploadModule (ns name provider version : String) (body : Blob)
  | getProvider (ns name version os arch : String)
  | listProviderVersions (ns name : String) (paginate : Paginator)
  | uploadProviderReleaseFiles (ns name filename : String) (file : Blob)
  | signingKeys (ns : String)

section Runs

variable (s : S3Storage) (unmarshalSigningKeys : Blob → Except String Core.SigningKeys)

/-- The world after one serving operation, whether it returned or panicked: a panic ends the
request, and the next one starts from the world it left. -/
def ServingOp.step : ServingOp → World → World
  | .getModule ns name provider version => Go.after (s.getModule ns name provider version)
  | .listModuleVersions ns name provider paginate =>
    Go.after (s.listModuleVersions ns name provider paginate)
  | .uploadModule ns name provider version body =>
    Go.after (s.uploadModule ns name provider version body)
  | .getProvider ns name version os arch =>
    Go.after (s.getProvider unmarshalSigningKeys ns name version os arch)
  | .listProviderVersions ns name paginate => Go.after (s.listProviderVersions ns name paginate)
  | .uploadProviderReleaseFiles ns name filename file =>
    Go.after (s.uploadProviderReleaseFiles ns name filename file)
  | .signingKeys ns => Go.after (s.signingKeys unmarshalSigningKeys ns)

/-- The serving operations one after another. -/
def runOps (ops : List ServingOp) (w : World) : World :=
  ops.foldl (fun w op => op.step s unmarshalSigningKeys w) w

variable {s}

theorem ServingOp.addsAtMostOne_step (hfmt : s.moduleArchiveFormat = defaultModuleArchiveFormat)
    {w : World} (hw : w.HeadsSucceed) (op : ServingOp) :
    w.AddsAtMostOne (op.step s unmarshalSigningKeys w) := by
  cases op with
  | getModule => exact (s.getModule_keeps _ _ _ _ w).addsAtMostOne
  | listModuleVersions => exact (s.listModuleVersions_keeps _ _ _ _ w).addsAtMostOne
  | uploadModule => exact s.uploadModule_addsAtMostOne hfmt hw _ _ _ _ _
  | getProvider => exact (s.getProvider_keeps _ _ _ _ _ _ w).addsAtMostOne
  | listProviderVersions => exact (s.listProviderVersions_keeps _ _ _ w).addsAtMostOne
  | uploadProviderReleaseFiles => exact s.uploadProviderReleaseFiles_addsAtMostOne hw _ _ _ _
  | signingKeys => exact (s.signingKeys_keeps _ _ w).addsAtMostOne

/-- When no HEAD fails and the archive format is `DefaultModuleArchiveFormat`, every step of
every run of the serving operations leaves the bucket as it was or adds one object under a key
that held nothing; no object is ever replaced. -/
theorem runOps_addsAtMostOne (hfmt : s.moduleArchiveFormat = defaultModuleArchiveFormat)
    (ops : List ServingOp) {w : World} (hw : w.HeadsSucceed) (i : Nat) (hi : i < ops.length) :
    (runOps s unmarshalSigningKeys (ops.take i) w).AddsAtMostOne
      (runOps s unmarshalSigningKeys (ops.take (i + 1)) w) := by
  induction ops generalizing w i with
  | nil => simp at hi
  | cons op ops ih =>
    have hstep := ServingOp.addsAtMostOne_step unmarshalSigningKeys hfmt hw op
    cases i with
    | zero => simpa [runOps] using hstep
    | succ i =>
      have hw' : (op.step s unmarshalSigningKeys w).HeadsSucceed := by
        simpa [World.HeadsSucceed, hstep.1] using hw
      simpa [runOps] using ih hw' i (by simpa using hi)

/-- An upload into an empty bucket, then a lookup: the upload adds at most one object. -/
theorem runOps_addsAtMostOne_upload_then_get :
    let s := newS3Storage "registry" [withS3ArchiveFormat "tar.gz"]
    let ops := [ServingOp.uploadModule "acme" "tls" "aws" "1.0.0" "archive",
      .getModule "acme" "tls" "aws" "1.0.0"]
    (runOps s (fun _ => .error "unused") (ops.take 0) World.empty).AddsAtMostOne
      (runOps s (fun _ => .error "unused") (ops.take 1) World.empty) :=
  runOps_addsAtMostOne (fun _ => .error "unused")
    (show (newS3Storage "registry" [withS3ArchiveFormat "tar.gz"]).moduleArchiveFormat =
      defaultModuleArchiveFormat from rfl) _ (fun _ _ _ => rfl) 0 (by decide)

end Runs

end BoringRegistry
