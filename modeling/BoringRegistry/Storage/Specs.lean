import BoringRegistry.Storage.S3
import BoringRegistry.S3.Runs

/-!
# What each operation does

One lemma for each operation of `S3Storage` and each outcome the later results need: what it
returns and how it moves the world. Later proofs cite these and never unfold an operation.

## Main results

* `presignedURL_of_faultOf_eq_some` — a failed presign panics
* `objectExists_apply`, `download_apply` — the two probes, for every failure pattern
* `getModule_of_absent`, `getModule_of_present` — the module lookup
* `getProvider_of_reliable` — the provider lookup, when nothing fails
* `getProvider_eq_ok` — in every world, a returned provider carries the requested coordinates, the
  manifest's digest for its file name and the decoded signing keys
* `getModule_keeps`, `getProvider_keeps`, ... — the read-only operations never change the bucket
-/

namespace BoringRegistry

namespace S3Storage

variable (s : S3Storage) {w : World}

/-! ### The probes -/

theorem presignedURL_of_faultOf_eq_none (key : String)
    (h : w.faultOf (.presignGetObject s.bucket key s.signedURLExpiry) = none) :
    s.presignedURL key w = .ok (.ok (presignedGetURL s.bucket key))
      (w.record (.presignGetObject s.bucket key s.signedURLExpiry)) := by
  simp [presignedURL, Sdk.presignGetObject, h]

/-- A failed presign panics: the SDK's nil result is dereferenced before the error is looked
at. -/
theorem presignedURL_of_faultOf_eq_some (key : String) {e : SdkError}
    (h : w.faultOf (.presignGetObject s.bucket key s.signedURLExpiry) = some e) :
    s.presignedURL key w =
      .error ⟨"runtime error: invalid memory address or nil pointer dereference"⟩
        (w.record (.presignGetObject s.bucket key s.signedURLExpiry)) := by
  simp [presignedURL, Sdk.presignGetObject, h]

theorem objectExists_apply (key : String) (w : World) :
    s.objectExists key w = .ok (match w.faultOf (.headObject s.bucket key) with
      | some e => if e.status = some 404 then .ok false else .error (.sdk e)
      | none => .ok (w.bucket key).isSome) (w.record (.headObject s.bucket key)) := by
  simp only [objectExists, Sdk.headObject, Go.bind_apply]
  rcases w.faultOf (.headObject s.bucket key) with _ | e
  · cases w.bucket key <;> rfl
  · by_cases h : e.status = some 404 <;> simp [h]

theorem download_apply (path : String) (w : World) :
    s.download path w = .ok (match w.faultOf (.download s.bucket path) with
      | some e => .error (.wrap ("failed to download: " ++ path) (.sdk e))
      | none => match w.bucket path with
        | some body => .ok body
        | none => .error (.wrap ("failed to download: " ++ path) (.sdk SdkError.notFound)))
      (w.record (.download s.bucket path)) := by
  simp only [download, Sdk.download, Go.bind_apply]
  rcases w.faultOf (.download s.bucket path) with _ | e
  · cases w.bucket path <;> rfl
  · rfl

/-- The errors of `download` wrap the SDK's error and nothing else. -/
theorem download_error_is {path : String} {err : Error} {w' : World}
    (h : s.download path w = .ok (.error err) w') (t : Sentinel) : err.is t = false := by
  rw [download_apply] at h
  rcases hf : w.faultOf (.download s.bucket path) with _ | e <;>
    rcases hb : w.bucket path with _ | body <;> simp [hf, hb] at h <;> simp [← h.1]

/-- A presign that returns has signed the key: a failed presign panics. -/
theorem presignedURL_eq_ok {key : String} {r : Except Error String} {w' : World}
    (h : s.presignedURL key w = .ok r w') :
    r = .ok (presignedGetURL s.bucket key) ∧
      w' = w.record (.presignGetObject s.bucket key s.signedURLExpiry) := by
  rcases hf : w.faultOf (.presignGetObject s.bucket key s.signedURLExpiry) with _ | e
  · rw [s.presignedURL_of_faultOf_eq_none key hf] at h
    cases h
    exact ⟨rfl, rfl⟩
  · rw [s.presignedURL_of_faultOf_eq_some key hf] at h
    cases h

/-- A download that succeeds read the object stored at its key. -/
theorem download_eq_ok {path : String} {body : Blob} {w' : World}
    (h : s.download path w = .ok (.ok body) w') :
    w.bucket path = some body ∧ w' = w.record (.download s.bucket path) := by
  rw [download_apply] at h
  rcases hf : w.faultOf (.download s.bucket path) with _ | e <;>
    rcases hb : w.bucket path with _ | b <;> simp [hf, hb] at h
  exact ⟨congrArg some h.1, h.2.symm⟩

/-! ### Modules -/

/-- The key `GetModule` reads for a module version: `modulePath` with the configured archive
format. -/
def moduleKey (ns name provider version : String) : String :=
  modulePath s.bucketPrefix ns name provider version s.moduleArchiveFormat

/-- The key `UploadModule` writes for a module version: `modulePath` with
`DefaultModuleArchiveFormat`, whatever the configured format. -/
def uploadKey (ns name provider version : String) : String :=
  modulePath s.bucketPrefix ns name provider version defaultModuleArchiveFormat

section Modules

variable {ns name provider version : String}

/-- `GetModule` when the HEAD of the module key does not fail and the key holds nothing. -/
theorem getModule_of_absent
    (hf : w.faultOf (.headObject s.bucket (s.moduleKey ns name provider version)) = none)
    (ha : w.bucket (s.moduleKey ns name provider version) = none) :
    s.getModule ns name provider version w = .ok (.error (.sentinel .moduleNotFound))
      (w.record (.headObject s.bucket (s.moduleKey ns name provider version))) := by
  unfold moduleKey at *
  simp [getModule, objectExists_apply, hf, ha]

/-- `GetModule` when the HEAD of the module key fails with anything but a 404. -/
theorem getModule_of_fault {e : SdkError}
    (hf : w.faultOf (.headObject s.bucket (s.moduleKey ns name provider version)) = some e)
    (h404 : e.status ≠ some 404) :
    s.getModule ns name provider version w = .ok (.error (.sdk e))
      (w.record (.headObject s.bucket (s.moduleKey ns name provider version))) := by
  unfold moduleKey at *
  simp [getModule, objectExists_apply, hf, h404]

/-- `GetModule` when the module key holds an object and neither the HEAD nor the presign fails. -/
theorem getModule_of_present
    (hf : w.faultOf (.headObject s.bucket (s.moduleKey ns name provider version)) = none)
    (hp : w.bucket (s.moduleKey ns name provider version) ≠ none)
    (hpre : (w.record (.headObject s.bucket (s.moduleKey ns name provider version))).faultOf
      (.presignGetObject s.bucket (s.moduleKey ns name provider version) s.signedURLExpiry) =
        none) :
    s.getModule ns name provider version w =
      .ok (.ok { Namespace := ns, Name := name, Provider := provider, Version := version,
                 DownloadURL := presignedGetURL s.bucket (s.moduleKey ns name provider version) })
        ((w.record (.headObject s.bucket (s.moduleKey ns name provider version))).record
          (.presignGetObject s.bucket (s.moduleKey ns name provider version)
            s.signedURLExpiry)) := by
  unfold moduleKey at *
  simp [getModule, objectExists_apply, hf, Option.isSome_iff_ne_none.mpr hp,
    s.presignedURL_of_faultOf_eq_none _ hpre]

/-- Once the HEAD of the module key succeeds, `GetModule` returns an error only for an absent
key: a present one gives the module, or a panic when the presign fails. -/
theorem getModule_error_absent {err : Error} {w' : World}
    (hf : w.faultOf (.headObject s.bucket (s.moduleKey ns name provider version)) = none)
    (h : s.getModule ns name provider version w = .ok (.error err) w') :
    w.bucket (s.moduleKey ns name provider version) = none := by
  by_contra hp
  unfold moduleKey at *
  cases hpre : (w.record (.headObject s.bucket
    (modulePath s.bucketPrefix ns name provider version s.moduleArchiveFormat))).faultOf
      (.presignGetObject s.bucket
        (modulePath s.bucketPrefix ns name provider version s.moduleArchiveFormat)
        s.signedURLExpiry) <;>
    simp [getModule, objectExists_apply, hf, Option.isSome_iff_ne_none.mpr hp, presignedURL,
      Sdk.presignGetObject, hpre] at h

/-- `GetModule` returns a module only for a key that holds an object. -/
theorem getModule_ok_present {m : Core.Module} {w' : World}
    (h : s.getModule ns name provider version w = .ok (.ok m) w') :
    w.bucket (s.moduleKey ns name provider version) ≠ none := by
  intro ha
  unfold moduleKey at ha
  cases hf : w.faultOf (.headObject s.bucket
      (modulePath s.bucketPrefix ns name provider version s.moduleArchiveFormat)) with
  | none => simp [getModule, objectExists_apply, hf, ha] at h
  | some e => by_cases h404 : e.status = some 404 <;>
      simp [getModule, objectExists_apply, hf, ha, h404] at h

/-- What an error of `GetModule` can be, when no failure is a 404: `ErrModuleNotFound` for a key
that holds nothing, or the HEAD's own error. -/
theorem getModule_error_cases (hw : w.No404Faults) {err : Error} {w' : World}
    (h : s.getModule ns name provider version w = .ok (.error err) w') :
    (err = .sentinel .moduleNotFound ∧ w.bucket (s.moduleKey ns name provider version) = none) ∨
      ∃ e, err = .sdk e := by
  cases hf : w.faultOf (.headObject s.bucket (s.moduleKey ns name provider version)) with
  | none =>
    have ha := s.getModule_error_absent hf h
    rw [s.getModule_of_absent hf ha] at h
    cases h
    exact .inl ⟨rfl, ha⟩
  | some e =>
    rw [s.getModule_of_fault hf (hw _ _ e hf)] at h
    cases h
    exact .inr ⟨e, rfl⟩

/-- `UploadModule` with an empty field returns the first check's message and sends nothing. -/
theorem uploadModule_of_firstEmpty {msg : String} (h : firstEmpty [(ns, "namespace not defined"),
    (name, "name not defined"), (provider, "provider not defined"),
    (version, "version not defined")] = some msg) (body : Blob) (w : World) :
    s.uploadModule ns name provider version body w = .ok (.error (.new msg)) w := by
  simp [uploadModule, h]

/-- `UploadModule` once its four fields are non-empty: it looks the module up with `GetModule`,
and when that fails for any reason it uploads to `uploadKey` and looks the module up again. -/
theorem uploadModule_apply (hns : ns ≠ "") (hname : name ≠ "") (hprov : provider ≠ "")
    (hver : version ≠ "") (body : Blob) (w : World) :
    s.uploadModule ns name provider version body w =
      match s.getModule ns name provider version w with
      | .ok (.ok _) w' =>
        .ok (.error (.wrap (s.uploadKey ns name provider version)
          (.sentinel .moduleAlreadyExists))) w'
      | .ok (.error _) w' =>
        match w'.faultOf (.upload s.bucket (s.uploadKey ns name provider version) body) with
        | some err =>
          .ok (.error (.wrap err.message (.sentinel .moduleUploadFailed)))
            (w'.record (.upload s.bucket (s.uploadKey ns name provider version) body))
        | none => s.getModule ns name provider version
            ((w'.record (.upload s.bucket (s.uploadKey ns name provider version) body)).put
              (s.uploadKey ns name provider version) body)
      | .error p w' => .error p w' := by
  unfold uploadKey
  simp only [uploadModule, firstEmpty, hns, hname, hprov, hver, if_false, Go.bind_apply]
  rcases s.getModule ns name provider version w with ⟨_ | _, w'⟩ | _ <;> try rfl
  simp only [Go.bind_apply, Sdk.upload]
  cases w'.faultOf _ <;> rfl

/-- `UploadModule` of an absent module with the default archive format, when nothing fails: it
probes the key, uploads there, and answers with the lookup of what it stored. -/
theorem uploadModule_of_absent (hfmt : s.moduleArchiveFormat = defaultModuleArchiveFormat)
    (hw : w.Reliable) (hns : ns ≠ "") (hname : name ≠ "") (hprov : provider ≠ "")
    (hver : version ≠ "") (habsent : w.bucket (s.moduleKey ns name provider version) = none)
    (body : Blob) :
    s.uploadModule ns name provider version body w = .ok (.ok ⟨ns, name, provider, version,
      presignedGetURL s.bucket (s.moduleKey ns name provider version)⟩)
      (((((w.record (.headObject s.bucket (s.moduleKey ns name provider version))).record
        (.upload s.bucket (s.moduleKey ns name provider version) body)).put
          (s.moduleKey ns name provider version) body).record
        (.headObject s.bucket (s.moduleKey ns name provider version))).record
        (.presignGetObject s.bucket (s.moduleKey ns name provider version) s.signedURLExpiry)) := by
  have hkey : s.uploadKey ns name provider version = s.moduleKey ns name provider version := by
    rw [uploadKey, moduleKey, hfmt]
  rw [s.uploadModule_apply hns hname hprov hver, s.getModule_of_absent (hw.faultOf _) habsent]
  simp only [hkey, (World.reliable_record.mpr hw).faultOf]
  exact s.getModule_of_present (by simpa [World.faultOf] using hw _ _) (by simp)
    (by simpa [World.faultOf] using hw _ _)

end Modules

/-- When nothing fails, `UploadModule` of a module that is already stored fails with
`ErrModuleAlreadyExists`. -/
theorem uploadModule_of_present (hw : w.Reliable) {ns name provider version : String}
    (hns : ns ≠ "") (hname : name ≠ "") (hprov : provider ≠ "") (hver : version ≠ "")
    (hp : w.bucket (s.moduleKey ns name provider version) ≠ none) (body : Blob) :
    ∃ w', s.uploadModule ns name provider version body w = .ok (.error
      (.wrap (s.uploadKey ns name provider version) (.sentinel .moduleAlreadyExists))) w' := by
  rw [s.uploadModule_apply hns hname hprov hver, s.getModule_of_present (hw.faultOf _) hp
    ((World.reliable_record.mpr hw).faultOf _)]
  exact ⟨_, rfl⟩

/-! ### Provider uploads -/

/-- `UploadProviderReleaseFiles` with an empty field, or whose provider directory cannot be built,
returns a fresh error and sends nothing. -/
theorem uploadProviderReleaseFiles_of_not_ok {ns name filename : String} (file : Blob)
    (h : ¬(firstEmpty [(ns, "namespace argument is empty"), (name, "name argument is empty"),
      (filename, "name argument is empty")] = none ∧
      ∃ D, providerStoragePrefix s.bucketPrefix internalProviderType "" ns name = .ok D))
    (w : World) : ∃ err, s.uploadProviderReleaseFiles ns name filename file w =
      .ok (.error err) w ∧ ∀ t, err.is t = false := by
  cases hfe : firstEmpty [(ns, "namespace argument is empty"), (name, "name argument is empty"),
      (filename, "name argument is empty")] with
  | some msg => exact ⟨.new msg, by simp [uploadProviderReleaseFiles, hfe]⟩
  | none =>
    cases hD : providerStoragePrefix s.bucketPrefix internalProviderType "" ns name with
    | error err =>
      exact ⟨err, by simp [uploadProviderReleaseFiles, hfe, hD],
        providerStoragePrefix_error_is hD⟩
    | ok D => exact absurd ⟨hfe, D, hD⟩ h

/-- The file-name check reports an empty `filename` with the message of the name check, so an
empty name and an empty file name give the same error. -/
theorem uploadProviderReleaseFiles_of_name_or_filename_empty {ns name filename : String}
    (hns : ns ≠ "") (h : name = "" ∨ filename = "") (file : Blob) (w : World) :
    s.uploadProviderReleaseFiles ns name filename file w =
      .ok (.error (.new "name argument is empty")) w := by
  by_cases hname : name = ""
  · simp [uploadProviderReleaseFiles, firstEmpty, hns, hname]
  · simp [uploadProviderReleaseFiles, firstEmpty, hns, hname, h.resolve_left hname]

/-- `UploadProviderReleaseFiles` once its three fields are non-empty and the provider's directory
is `D`: it probes `filepath.Join(D, filename)` and uploads there when the probe says the key holds
nothing. -/
theorem uploadProviderReleaseFiles_apply {ns name filename D : String} (hns : ns ≠ "")
    (hname : name ≠ "") (hfile : filename ≠ "")
    (hD : providerStoragePrefix s.bucketPrefix internalProviderType "" ns name = .ok D)
    (file : Blob) (w : World) :
    s.uploadProviderReleaseFiles ns name filename file w =
      match s.objectExists (Filepath.join [D, filename]) w with
      | .ok (.error err) w' => .ok (.error err) w'
      | .ok (.ok true) w' => .ok (.error (.sentinel .providerAlreadyExists)) w'
      | .ok (.ok false) w' =>
        match w'.faultOf (.upload s.bucket (Filepath.join [D, filename]) file) with
        | some err =>
          .ok (.error (.wrap "failed to upload provider" (.sdk err)))
            (w'.record (.upload s.bucket (Filepath.join [D, filename]) file))
        | none =>
          .ok (.ok ()) ((w'.record (.upload s.bucket (Filepath.join [D, filename]) file)).put
            (Filepath.join [D, filename]) file)
      | .error p w' => .error p w' := by
  simp only [uploadProviderReleaseFiles, firstEmpty, hns, hname, hfile, if_false, hD,
    Go.bind_apply]
  rcases s.objectExists (Filepath.join [D, filename]) w with ⟨_ | _ | _, w'⟩ | _ <;> try rfl
  simp only [Go.bind_apply, Sdk.upload]
  cases w'.faultOf _ <;> rfl

/-- `UploadProviderReleaseFiles` of a file that the probe finds stored fails with
`ErrProviderAlreadyExists` and uploads nothing. -/
theorem uploadProviderReleaseFiles_of_present {ns name filename D : String} (hns : ns ≠ "")
    (hname : name ≠ "") (hfile : filename ≠ "")
    (hD : providerStoragePrefix s.bucketPrefix internalProviderType "" ns name = .ok D)
    (hf : w.faultOf (.headObject s.bucket (Filepath.join [D, filename])) = none)
    (hp : w.bucket (Filepath.join [D, filename]) ≠ none) (file : Blob) :
    s.uploadProviderReleaseFiles ns name filename file w =
      .ok (.error (.sentinel .providerAlreadyExists))
        (w.record (.headObject s.bucket (Filepath.join [D, filename]))) := by
  rw [s.uploadProviderReleaseFiles_apply hns hname hfile hD, objectExists_apply, hf]
  simp [Option.isSome_iff_ne_none.mpr hp]

/-- `UploadProviderReleaseFiles` of a file whose key holds nothing, in a world where nothing
fails: it probes the key, uploads, stores the file there and returns nil. -/
theorem uploadProviderReleaseFiles_of_absent (hw : w.Reliable) {ns name filename D : String}
    (hns : ns ≠ "") (hname : name ≠ "") (hfile : filename ≠ "")
    (hD : providerStoragePrefix s.bucketPrefix internalProviderType "" ns name = .ok D)
    (habsent : w.bucket (Filepath.join [D, filename]) = none) (file : Blob) :
    s.uploadProviderReleaseFiles ns name filename file w = .ok (.ok ())
      (((w.record (.headObject s.bucket (Filepath.join [D, filename]))).record
        (.upload s.bucket (Filepath.join [D, filename]) file)).put (Filepath.join [D, filename])
          file) := by
  rw [s.uploadProviderReleaseFiles_apply hns hname hfile hD, objectExists_apply]
  simp [World.faultOf, hw _ _, habsent]

/-! ### Provider listings and signing keys -/

/-- What one turn of `ListProviderVersions`'s loop does to the collection: add the key's provider
if `core.NewProviderFromArchive` accepts the key. -/
def addArchive (collection : Collection) (key : String) : Collection :=
  match Core.newProviderFromArchive key with
  | .error _ => collection
  | .ok provider => collection.add provider

theorem listProviderVersionsStep_eq :
    listProviderVersionsStep = fun collection key => Pure.pure (.ok (addArchive collection key)) := by
  funext collection key
  unfold listProviderVersionsStep addArchive
  cases Core.newProviderFromArchive key <;> rfl

/-- The collection stays empty exactly when it starts empty and the parser rejects every key. -/
theorem foldl_addArchive_versions_eq_nil (keys : List String) (c : Collection) :
    (keys.foldl addArchive c).versions = [] ↔
      c.versions = [] ∧ ∀ k ∈ keys, ∀ p, Core.newProviderFromArchive k ≠ .ok p := by
  induction keys generalizing c with
  | nil => simp
  | cons k keys ih =>
    rw [List.foldl_cons, ih]
    unfold addArchive
    cases hk : Core.newProviderFromArchive k with
    | error err => simp [hk]
    | ok p => simp [hk, Collection.add_versions_ne_nil]

/-- `ListProviderVersions` sends no request: its result is a function of the listing. -/
theorem listProviderVersions_apply (ns name : String) (paginate : Paginator) (w : World) :
    s.listProviderVersions ns name paginate w = .ok (
      match providerStoragePrefix s.bucketPrefix internalProviderType "" ns name with
      | .error err => .error err
      | .ok pfx =>
        match (Pages.split (paginate (pfx ++ "/"))).2 with
        | some e => .error (.wrap e.message (.sentinel .providerListFailed))
        | none =>
          if ((Pages.split (paginate (pfx ++ "/"))).1.foldl addArchive newCollection).list.length
              = 0 then .error (.new ("no provider versions found for " ++ ns ++ "/" ++ name))
          else .ok ((Pages.split (paginate (pfx ++ "/"))).1.foldl addArchive newCollection).list)
      w := by
  unfold listProviderVersions
  cases providerStoragePrefix s.bucketPrefix internalProviderType "" ns name with
  | error err => rfl
  | ok pfx =>
    simp only [forEachPage_eq, listProviderVersionsStep_eq, forEachKey_pure]
    cases (Pages.split (paginate (pfx ++ "/"))).2 with
    | some e => simp
    | none => simp; split <;> rfl

/-- `SigningKeys` for a non-empty namespace whose signing-keys key the download reads without
failing: the decoded keys, or the wrapped 404 when the key holds nothing. -/
theorem signingKeys_apply (unmarshalSigningKeys : Blob → Except String Core.SigningKeys)
    {ns : String} (hns : ns ≠ "")
    (hf : w.faultOf (.download s.bucket (signingKeysPath s.bucketPrefix ns)) = none) :
    s.signingKeys unmarshalSigningKeys ns w = .ok (
      match w.bucket (signingKeysPath s.bucketPrefix ns) with
      | none => .error (.wrap ("failed to download signing_keys.json for namespace " ++ ns)
          (.wrap ("failed to download: " ++ signingKeysPath s.bucketPrefix ns)
            (.sdk SdkError.notFound)))
      | some raw => match unmarshalSigningKeys raw with
        | .error msg => .error (.new msg)
        | .ok keys => .ok keys)
      (w.record (.download s.bucket (signingKeysPath s.bucketPrefix ns))) := by
  simp only [signingKeys, firstEmpty, hns, if_false, Go.bind_apply, download_apply, hf]
  cases w.bucket (signingKeysPath s.bucketPrefix ns) with
  | none => rfl
  | some raw => dsimp only; cases unmarshalSigningKeys raw <;> rfl

/-- `SigningKeys` returns keys only by decoding the object stored at the namespace's key. -/
theorem signingKeys_eq_ok (unmarshalSigningKeys : Blob → Except String Core.SigningKeys)
    {ns : String} {keys : Core.SigningKeys} {w' : World}
    (h : s.signingKeys unmarshalSigningKeys ns w = .ok (.ok keys) w') :
    ∃ raw, w.bucket (signingKeysPath s.bucketPrefix ns) = some raw ∧
      unmarshalSigningKeys raw = .ok keys := by
  unfold signingKeys at h
  by_cases hns : ns = ""
  · simp [firstEmpty, hns] at h
  simp only [firstEmpty, hns, if_false] at h
  obtain ⟨r, w₁, h₁, h⟩ := Go.bind_eq_ok h
  rcases r with err | raw
  · cases h
  refine ⟨raw, (s.download_eq_ok h₁).1, ?_⟩
  rcases hu : unmarshalSigningKeys raw with msg | keys' <;> simp only [hu] at h <;> cases h
  rfl

/-- `GetProvider` in a world where nothing fails: the answer is read off the manifest and the
namespace's signing-keys object, and off nothing else in the bucket. -/
theorem getProvider_of_reliable (unmarshalSigningKeys : Blob → Except String Core.SigningKeys)
    (hw : w.Reliable) {ns name version os arch archive shasums sig : String}
    (hpath : internalProviderPath s.bucketPrefix ns name version os arch =
      .ok (archive, shasums, sig)) :
    Go.value? (s.getProvider unmarshalSigningKeys ns name version os arch) w = some (
      match w.bucket shasums with
      | none => .error (.wrap ("failed to download: " ++ shasums) (.sdk SdkError.notFound))
      | some bytes => match readSHASums bytes (GoPath.base archive) with
        | .error err => .error err
        | .ok digest => match w.bucket (signingKeysPath s.bucketPrefix ns) with
          | none => .error (.wrap ("failed to download signing_keys.json for namespace " ++ ns)
              (.wrap ("failed to download: " ++ signingKeysPath s.bucketPrefix ns)
                (.sdk SdkError.notFound)))
          | some raw => match unmarshalSigningKeys raw with
            | .error msg => .error (.new msg)
            | .ok keys => .ok ⟨ns, name, version, os, arch, GoPath.base archive, digest,
                presignedGetURL s.bucket archive, presignedGetURL s.bucket shasums,
                presignedGetURL s.bucket sig, keys⟩) := by
  unfold getProvider Go.value?
  simp only [hpath, Go.bind_apply, s.presignedURL_of_faultOf_eq_none, download_apply,
    World.faultOf, World.record_fault, hw _ _, World.record_bucket]
  rcases w.bucket shasums with _ | bytes
  · rfl
  dsimp only
  rcases readSHASums bytes (GoPath.base archive) with err | digest
  · rfl
  simp only [Go.bind_apply, s.signingKeys_apply _ (ns_ne_empty_of_internalProviderPath hpath),
    World.faultOf, World.record_fault, hw _ _, World.record_bucket]
  rcases w.bucket (signingKeysPath s.bucketPrefix ns) with _ | raw
  · rfl
  dsimp only
  rcases unmarshalSigningKeys raw <;> rfl

/-- Whatever requests fail, a provider that `GetProvider` returns is the one its keys name, with
the digest that the stored manifest gives for the archive's file name and the keys decoded from
the namespace's stored signing-keys object. -/
theorem getProvider_eq_ok (unmarshalSigningKeys : Blob → Except String Core.SigningKeys)
    {ns name version os arch : String} {p : Core.Provider} {w' : World}
    (h : s.getProvider unmarshalSigningKeys ns name version os arch w = .ok (.ok p) w') :
    ∃ archive shasums sig bytes raw digest keys,
      internalProviderPath s.bucketPrefix ns name version os arch = .ok (archive, shasums, sig) ∧
      w.bucket shasums = some bytes ∧ readSHASums bytes (GoPath.base archive) = .ok digest ∧
      w.bucket (signingKeysPath s.bucketPrefix ns) = some raw ∧
      unmarshalSigningKeys raw = .ok keys ∧
      p = ⟨ns, name, version, os, arch, GoPath.base archive, digest,
        presignedGetURL s.bucket archive, presignedGetURL s.bucket shasums,
        presignedGetURL s.bucket sig, keys⟩ := by
  unfold getProvider at h
  rcases hpath : internalProviderPath s.bucketPrefix ns name version os arch with
    err | ⟨archive, shasums, sig⟩ <;> simp only [hpath] at h
  · cases h
  -- The three presigns return, so none of them failed and the bucket is untouched.
  obtain ⟨r, w₁, h₁, h⟩ := Go.bind_eq_ok h
  obtain ⟨rfl, rfl⟩ := s.presignedURL_eq_ok h₁
  obtain ⟨r, w₂, h₂, h⟩ := Go.bind_eq_ok h
  obtain ⟨rfl, rfl⟩ := s.presignedURL_eq_ok h₂
  obtain ⟨r, w₃, h₃, h⟩ := Go.bind_eq_ok h
  obtain ⟨rfl, rfl⟩ := s.presignedURL_eq_ok h₃
  -- The manifest download, the digest and the signing keys.
  obtain ⟨r, w₄, h₄, h⟩ := Go.bind_eq_ok h
  rcases r with err | bytes
  · cases h
  obtain ⟨hbytes, rfl⟩ := s.download_eq_ok h₄
  rcases hdigest : readSHASums bytes (GoPath.base archive) with err | digest <;>
    simp only [hdigest] at h
  · cases h
  obtain ⟨r, w₅, h₅, h⟩ := Go.bind_eq_ok h
  rcases r with err | keys
  · cases h
  obtain ⟨raw, hraw, hkeys⟩ := s.signingKeys_eq_ok unmarshalSigningKeys h₅
  cases h
  exact ⟨archive, shasums, sig, bytes, raw, digest, keys, rfl, by simpa using hbytes, hdigest,
    by simpa using hraw, hkeys, rfl⟩

/-! ### The read-only operations keep the bucket -/

theorem presignedURL_keeps (key : String) : Go.Keeps World.SameBucket (s.presignedURL key) :=
  Go.Keeps.bind (Sdk.presignGetObject_keeps _ _ _) fun r => by
    cases r
    · exact Go.Keeps.throw _
    · exact Go.Keeps.pure _

theorem objectExists_keeps (key : String) : Go.Keeps World.SameBucket (s.objectExists key) :=
  fun w => by simp [Go.after, objectExists_apply]

theorem download_keeps (path : String) : Go.Keeps World.SameBucket (s.download path) :=
  fun w => by simp [Go.after, download_apply]

theorem getModule_keeps (ns name provider version : String) :
    Go.Keeps World.SameBucket (s.getModule ns name provider version) := by
  refine Go.Keeps.bind (s.objectExists_keeps _) fun r => ?_
  rcases r with _ | _ | _
  · exact Go.Keeps.pure _
  · exact Go.Keeps.pure _
  · refine Go.Keeps.bind (s.presignedURL_keeps _) fun r => ?_
    cases r <;> exact Go.Keeps.pure _

theorem listModuleVersions_keeps (ns name provider : String) (paginate : Paginator) :
    Go.Keeps World.SameBucket (s.listModuleVersions ns name provider paginate) := by
  refine forEachPage_keeps _ _ (fun acc key => ?_) _ _
  unfold listModuleVersionsStep
  split
  · exact Go.Keeps.pure _
  · refine Go.Keeps.bind (s.presignedURL_keeps _) fun r => ?_
    cases r <;> exact Go.Keeps.pure _

theorem signingKeys_keeps (unmarshalSigningKeys : Blob → Except String Core.SigningKeys)
    (ns : String) : Go.Keeps World.SameBucket (s.signingKeys unmarshalSigningKeys ns) := by
  unfold signingKeys
  split
  · exact Go.Keeps.pure _
  · refine Go.Keeps.bind (s.download_keeps _) fun r => ?_
    cases r
    · exact Go.Keeps.pure _
    · dsimp only
      split <;> exact Go.Keeps.pure _

theorem getProvider_keeps (unmarshalSigningKeys : Blob → Except String Core.SigningKeys)
    (ns name version os arch : String) :
    Go.Keeps World.SameBucket (s.getProvider unmarshalSigningKeys ns name version os arch) := by
  unfold getProvider
  split
  · exact Go.Keeps.pure _
  refine Go.Keeps.bind (s.presignedURL_keeps _) fun r => ?_
  cases r
  · exact Go.Keeps.pure _
  refine Go.Keeps.bind (s.presignedURL_keeps _) fun r => ?_
  cases r
  · exact Go.Keeps.pure _
  refine Go.Keeps.bind (s.presignedURL_keeps _) fun r => ?_
  cases r
  · exact Go.Keeps.pure _
  refine Go.Keeps.bind (s.download_keeps _) fun r => ?_
  cases r
  · exact Go.Keeps.pure _
  dsimp only
  split
  · exact Go.Keeps.pure _
  refine Go.Keeps.bind (s.signingKeys_keeps _ _) fun r => ?_
  cases r <;> exact Go.Keeps.pure _

theorem listProviderVersions_keeps (ns name : String) (paginate : Paginator) :
    Go.Keeps World.SameBucket (s.listProviderVersions ns name paginate) := by
  unfold listProviderVersions
  split
  · exact Go.Keeps.pure _
  refine Go.Keeps.bind (forEachPage_keeps _ _ (fun acc key => ?_) _ _) fun r => ?_
  · unfold listProviderVersionsStep
    split <;> exact Go.Keeps.pure _
  · cases r
    · exact Go.Keeps.pure _
    · dsimp only
      split <;> exact Go.Keeps.pure _

end S3Storage

end BoringRegistry
