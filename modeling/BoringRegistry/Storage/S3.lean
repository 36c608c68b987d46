import BoringRegistry.S3.Client
import BoringRegistry.Storage.Keys
import BoringRegistry.Storage.Providers

/-!
# `S3Storage`

The operations of `pkg/storage/s3.go`, one definition each, in the order of the source. Each is a
`Go` computation returning `Except Error α` for Go's `(α, error)`: a branch
`if err != nil { return …, err }` is a `match` returning `.error`, and Go's zero value that comes
with an error is not kept.

Two things the source does that a reader might not expect are kept as they are:

* `presignedURL` returns `presignResult.URL, err`, reading the URL before the error is looked at;
  the SDK returns a nil request with its error, so a failed presign panics;
* `UploadModule` checks for an existing module with `GetModule`, which builds the key with
  `s.moduleArchiveFormat`, but uploads to the key built with `DefaultModuleArchiveFormat`.

`unmarshalSigningKeys` decodes the signing-keys JSON document with `encoding/json`; it is not in
the available source, and the operations that use it take it as a parameter, so that every
result about them holds for any decoder. Its errors are those of `encoding/json`, which wrap none
of the storage's errors: the parameter returns an error message.

## Main definitions

* `S3Storage`, `newS3Storage` and the options that set the modelled fields
* `S3Storage.getModule`, `listModuleVersions`, `uploadModule`, `migrateModules`,
  `migrateProviders`, `getProvider`, `listProviderVersions`, `uploadProviderReleaseFiles`,
  `signingKeys`
-/

namespace BoringRegistry

/-- `S3Storage`, with the fields its operations read. The region, endpoint and path-style fields
only configure the SDK client and are not modelled. -/
structure S3Storage where
  bucket : String
  bucketPrefix : String
  moduleArchiveFormat : String
  /-- A `time.Duration`, in nanoseconds. -/
  signedURLExpiry : Nat
  deriving DecidableEq, Repr

/-- `S3StorageOption`. -/
abbrev S3StorageOption := S3Storage → S3Storage

/-- `WithS3StorageBucketPrefix`. -/
def withS3StorageBucketPrefix (pfx : String) : S3StorageOption :=
  fun s => { s with bucketPrefix := pfx }

/-- `WithS3ArchiveFormat`. -/
def withS3ArchiveFormat (archiveFormat : String) : S3StorageOption :=
  fun s => { s with moduleArchiveFormat := archiveFormat }

/-- `WithS3StorageSignedUrlExpiry`. -/
def withS3StorageSignedUrlExpiry (t : Nat) : S3StorageOption :=
  fun s => { s with signedURLExpiry := t }

/-- `NewS3Storage` for the modelled fields: Go's zero values, then the options in order. No
option sets a default archive format. Loading the AWS configuration and looking up the bucket's
region are not modelled. -/
def newS3Storage (bucket : String) (options : List S3StorageOption) : S3Storage :=
  options.foldl (fun s option => option s)
    { bucket, bucketPrefix := "", moduleArchiveFormat := "", signedURLExpiry := 0 }

/-- The field checks `if value == "" { return …, errors.New(msg) }` at the top of an operation, in
order: the message of the first empty field. -/
def firstEmpty : List (String × String) → Option String
  | [] => none
  | (value, msg) :: rest => if value = "" then some msg else firstEmpty rest

theorem firstEmpty_eq_none {fields : List (String × String)} :
    firstEmpty fields = none ↔ ∀ f ∈ fields, f.1 ≠ "" := by
  induction fields with
  | nil => simp [firstEmpty]
  | cons f rest ih =>
    obtain ⟨value, msg⟩ := f
    by_cases h : value = "" <;> simp [firstEmpty, h, ih]

namespace S3Storage

variable (s : S3Storage)

/-- `presignedURL`. -/
def presignedURL (key : String) : Go (Except Error String) := do
  match ← Sdk.presignGetObject s.bucket key s.signedURLExpiry with
  | .ok presignResult => return .ok presignResult.URL
  | .error _ => throw ⟨"runtime error: invalid memory address or nil pointer dereference"⟩

/-- `objectExists`: a response error with status 404 means the key holds nothing; any other error
is returned. -/
def objectExists (key : String) : Go (Except Error Bool) := do
  match ← Sdk.headObject s.bucket key with
  | .ok () => return .ok true
  | .error err => if err.status = some 404 then return .ok false else return .error (.sdk err)

/-- `download`. -/
def download (path : String) : Go (Except Error Blob) := do
  match ← Sdk.download s.bucket path with
  | .error err => return .error (.wrap ("failed to download: " ++ path) (.sdk err))
  | .ok buf => return .ok buf

/-- `GetModule`. -/
def getModule (ns name provider version : String) : Go (Except Error Core.Module) := do
  let key := modulePath s.bucketPrefix ns name provider version s.moduleArchiveFormat
  match ← s.objectExists key with
  | .error err => return .error err
  | .ok false => return .error (.sentinel .moduleNotFound)
  | .ok true =>
  match ← s.presignedURL key with
  | .error err => return .error err
  | .ok presigned =>
  return .ok { Namespace := ns, Name := name, Provider := provider, Version := version,
               DownloadURL := presigned }

/-- The body of `ListModuleVersions`'s loop over one object. -/
def listModuleVersionsStep (modules : List Core.Module) (key : String) :
    Go (Except Error (List Core.Module)) :=
  match moduleFromObject key s.moduleArchiveFormat with
  | .error _ => return .ok modules
  | .ok m => do
  match ← s.presignedURL
      (modulePath s.bucketPrefix m.Namespace m.Name m.Provider m.Version s.moduleArchiveFormat) with
  | .error err => return .error err
  | .ok url => return .ok (modules ++ [{ m with DownloadURL := url }])

/-- `ListModuleVersions`. The listing prefix is `modulePathPrefix` as it is, with no trailing
`/`. -/
def listModuleVersions (ns name provider : String) (paginate : Paginator) :
    Go (Except Error (List Core.Module)) :=
  forEachPage (fun err => .wrap err.message (.sentinel .moduleListFailed))
    s.listModuleVersionsStep (paginate (modulePathPrefix s.bucketPrefix ns name provider)) []

/-- `UploadModule`. -/
def uploadModule (ns name provider version : String) (body : Blob) :
    Go (Except Error Core.Module) := do
  match firstEmpty [(ns, "namespace not defined"), (name, "name not defined"),
      (provider, "provider not defined"), (version, "version not defined")] with
  | some msg => return .error (.new msg)
  | none =>
  let key := modulePath s.bucketPrefix ns name provider version defaultModuleArchiveFormat
  match ← s.getModule ns name provider version with
  | .ok _ => return .error (.wrap key (.sentinel .moduleAlreadyExists))
  | .error _ =>
  match ← Sdk.upload s.bucket key body with
  | .error err => return .error (.wrap err.message (.sentinel .moduleUploadFailed))
  | .ok () => s.getModule ns name provider version

/-- The body of `MigrateModules`'s loop over one object. -/
def migrateModulesStep (dryRun : Bool) (_ : Unit) (key : String) : Go (Except Error Unit) :=
  if !isUnmigratedModule s.bucketPrefix key then return .ok ()
  else
  let targetKey := migrationTargetPath s.bucketPrefix s.moduleArchiveFormat key
  if dryRun then return .ok ()
  else do
  match ← Sdk.copyObject s.bucket (GoPath.join [s.bucket, key]) targetKey with
  | .error err => return .error (.sdk err)
  | .ok () => return .ok ()

/-- `MigrateModules`. Logging is not modelled. -/
def migrateModules (dryRun : Bool) (paginate : Paginator) : Go (Except Error Unit) :=
  forEachPage (fun err => .wrap "failed to page" (.sdk err)) (s.migrateModulesStep dryRun)
    (paginate (GoPath.join [s.bucketPrefix, internalModuleType])) ()

/-- The body of `MigrateProviders`'s loop over one object: unlike `MigrateModules`, no key is
skipped. -/
def migrateProvidersStep (dryRun : Bool) (_ : Unit) (key : String) : Go (Except Error Unit) :=
  match providerMigrationTargetPath s.bucketPrefix key with
  | .error err => return .error err
  | .ok directory =>
  let targetKey := GoPath.join [directory, GoPath.base key]
  if dryRun then return .ok ()
  else do
  match ← Sdk.copyObject s.bucket (GoPath.join [s.bucket, key]) targetKey with
  | .error err => return .error (.sdk err)
  | .ok () => return .ok ()

/-- `MigrateProviders`. Logging is not modelled. -/
def migrateProviders (dryRun : Bool) (paginate : Paginator) : Go (Except Error Unit) :=
  forEachPage (fun err => .wrap "failed to page" (.sdk err)) (s.migrateProvidersStep dryRun)
    (paginate (GoPath.join [s.bucketPrefix, internalProviderType])) ()

section SigningKeys

variable (unmarshalSigningKeys : Blob → Except String Core.SigningKeys)

/-- `SigningKeys`. -/
def signingKeys (ns : String) : Go (Except Error Core.SigningKeys) := do
  match firstEmpty [(ns, "namespace argument is empty")] with
  | some msg => return .error (.new msg)
  | none =>
  match ← s.download (signingKeysPath s.bucketPrefix ns) with
  | .error err =>
    return .error (.wrap ("failed to download signing_keys.json for namespace " ++ ns) err)
  | .ok signingKeysRaw =>
  match unmarshalSigningKeys signingKeysRaw with
  | .error msg => return .error (.new msg)
  | .ok signingKeys => return .ok signingKeys

/-- `GetProvider`. -/
def getProvider (ns name version os arch : String) : Go (Except Error Core.Provider) := do
  match internalProviderPath s.bucketPrefix ns name version os arch with
  | .error err => return .error err
  | .ok (archivePath, shasumPath, shasumSigPath) =>
  match ← s.presignedURL archivePath with
  | .error err => return .error err
  | .ok zipURL =>
  match ← s.presignedURL shasumPath with
  | .error err => return .error (.wrap shasumPath err)
  | .ok shasumsURL =>
  match ← s.presignedURL shasumSigPath with
  | .error err => return .error err
  | .ok signatureURL =>
  match ← s.download shasumPath with
  | .error err => return .error err
  | .ok shasumBytes =>
  match readSHASums shasumBytes (GoPath.base archivePath) with
  | .error err => return .error err
  | .ok shasum =>
  match ← s.signingKeys unmarshalSigningKeys ns with
  | .error err => return .error err
  | .ok signingKeys =>
  return .ok { Namespace := ns, Name := name, Version := version, OS := os, Arch := arch,
               Shasum := shasum, Filename := GoPath.base archivePath, DownloadURL := zipURL,
               SHASumsURL := shasumsURL, SHASumsSignatureURL := signatureURL,
               SigningKeys := signingKeys }

end SigningKeys

/-- The body of `ListProviderVersions`'s loop over one object. -/
def listProviderVersionsStep (collection : Collection) (key : String) :
    Go (Except Error Collection) :=
  match Core.newProviderFromArchive key with
  | .error _ => return .ok collection
  | .ok provider => return .ok (collection.add provider)

/-- `ListProviderVersions`. The listing prefix is the provider's directory followed by `/`. -/
def listProviderVersions (ns name : String) (paginate : Paginator) :
    Go (Except Error (List Core.ProviderVersion)) := do
  match providerStoragePrefix s.bucketPrefix internalProviderType "" ns name with
  | .error err => return .error err
  | .ok pfx =>
  match ← forEachPage (fun err => .wrap err.message (.sentinel .providerListFailed))
      listProviderVersionsStep (paginate (pfx ++ "/")) newCollection with
  | .error err => return .error err
  | .ok collection =>
  let result := collection.list
  if result.length = 0 then return .error (.new ("no provider versions found for " ++ ns ++ "/" ++ name))
  else return .ok result

/-- `UploadProviderReleaseFiles`. The third check reports an empty `filename` with the message of
the second. -/
def uploadProviderReleaseFiles (ns name filename : String) (file : Blob) :
    Go (Except Error Unit) := do
  match firstEmpty [(ns, "namespace argument is empty"), (name, "name argument is empty"),
      (filename, "name argument is empty")] with
  | some msg => return .error (.new msg)
  | none =>
  match providerStoragePrefix s.bucketPrefix internalProviderType "" ns name with
  | .error err => return .error err
  | .ok pfx =>
  let key := Filepath.join [pfx, filename]
  match ← s.objectExists key with
  | .error err => return .error err
  | .ok true => return .error (.sentinel .providerAlreadyExists)
  | .ok false =>
  match ← Sdk.upload s.bucket key file with
  | .error err => return .error (.wrap "failed to upload provider" (.sdk err))
  | .ok () => return .ok ()

end S3Storage

end BoringRegistry
