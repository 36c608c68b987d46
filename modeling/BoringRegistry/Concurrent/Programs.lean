import BoringRegistry.Guarantees.Immutability

/-!
# The serving operations as programs of requests

S3 serves each request atomically, but nothing makes a storage operation atomic: the HTTP
handlers call the storage from one goroutine per client request, and two calls of
`UploadModule` at once interleave their requests. To speak about that, this module writes each
serving operation as a `Prog`, the tree of the requests it sends, in which S3's answer to each
request decides what comes next.

The programs are the operations of `Storage/S3.lean` written request by request, with the same
text: each `Sdk.call` of the `Go` definition is the request `Prog.call` here. `Prog.run` sends the
requests of a program one after another, and every program of this module is proved to run as
its `Go` definition. So a thread that runs alone does what `Storage/S3.lean` says; what
interleaving adds is studied in `Concurrent/Interleavings.lean`.

The migrations are not written as programs: they are an operator's one-shot action, not part of
the serving API that clients call concurrently.

The listings' page fetches are not requests of a program either: a `Paginator` hands each listing
its pages as a parameter. A listing's program sends only the presigns of `ListModuleVersions`, so
results about how long a call takes or at which instant it reads the bucket leave the listings
out.

## Main definitions

* `Request.Response`, `Request.send` — S3's answer to each request, and sending one
* `Prog`, `Prog.run` — programs of requests, and running one as a `Go` computation
* `S3Storage.getModuleProg`, ..., `ServingOp.prog` — the seven serving operations as programs

## Main results

* `Prog.run_bind` — running a program is compatible with sequencing
* `S3Storage.uploadModuleProg_run`, ... — each program runs as its operation
* `ServingOp.run_prog` — a serving operation's program runs as the method it calls
* `ServingOp.after_run_prog` — a serving operation's program, run alone, is its step of `runOps`
-/

namespace BoringRegistry

/-! ### Requests and programs -/

/-- What S3 answers to each request. -/
@[reducible] def Request.Response : Request → Type
  | .headObject .. => Except SdkError Unit
  | .presignGetObject .. => Except SdkError PresignedHTTPRequest
  | .download .. => Except SdkError Blob
  | .upload .. => Except SdkError Unit
  | .copyObject .. => Except SdkError Unit

/-- Sending one request: the SDK call of `S3/Client.lean` that sends it. -/
def Request.send : (r : Request) → Go r.Response
  | .headObject bucket key => Sdk.headObject bucket key
  | .presignGetObject bucket key expires => Sdk.presignGetObject bucket key expires
  | .download bucket key => Sdk.download bucket key
  | .upload bucket key body => Sdk.upload bucket key body
  | .copyObject bucket copySource key => Sdk.copyObject bucket copySource key

theorem Request.send_headObject (bucket key : String) (w : World) :
    (Request.headObject bucket key).send w = .ok (match w.faultOf (.headObject bucket key) with
      | some e => .error e
      | none => if (w.bucket key).isSome then .ok () else .error SdkError.notFound)
      (w.record (.headObject bucket key)) := rfl

theorem Request.send_presignGetObject (bucket key : String) (expires : Nat) (w : World) :
    ∃ x, (Request.presignGetObject bucket key expires).send w =
      .ok x (w.record (.presignGetObject bucket key expires)) := ⟨_, rfl⟩

theorem Request.send_download (bucket key : String) (w : World) :
    ∃ x, (Request.download bucket key).send w = .ok x (w.record (.download bucket key)) :=
  ⟨_, rfl⟩

theorem Request.send_upload (bucket key : String) (body : Blob) (w : World) :
    (Request.upload bucket key body).send w = match w.faultOf (.upload bucket key body) with
      | some e => .ok (.error e) (w.record (.upload bucket key body))
      | none => .ok (.ok ()) ((w.record (.upload bucket key body)).put key body) := rfl

/-- A computation against S3 as the requests it sends: it has returned, it has panicked, or it
sends `r` next and continues with what S3 answers. -/
inductive Prog (α : Type) where
  | ret (a : α)
  | panic (p : Panic)
  | call (r : Request) (k : r.Response → Prog α)

namespace Prog

variable {α β : Type}

/-- Sequencing: `x`, then `f` applied to what it returns. -/
def bind : Prog α → (α → Prog β) → Prog β
  | ret a, f => f a
  | panic p, _ => panic p
  | call r k, f => call r fun x => (k x).bind f

instance : Monad Prog where
  pure := ret
  bind := bind

@[simp] theorem pure_eq (a : α) : (pure a : Prog α) = ret a := rfl
@[simp] theorem ret_bind (a : α) (f : α → Prog β) : ret a >>= f = f a := rfl
@[simp] theorem panic_bind (p : Panic) (f : α → Prog β) : (panic p : Prog α) >>= f = panic p := rfl
@[simp] theorem call_bind (r : Request) (k : r.Response → Prog α) (f : α → Prog β) :
    call r k >>= f = call r fun x => k x >>= f := rfl

/-- Sending the requests of a program one after another. -/
def run : Prog α → Go α
  | ret a => pure a
  | panic p => throw p
  | call r k => r.send >>= fun x => (k x).run

@[simp] theorem run_ret (a : α) : (ret a).run = pure a := rfl
@[simp] theorem run_panic (p : Panic) : (panic p : Prog α).run = throw p := rfl
@[simp] theorem run_call (r : Request) (k : r.Response → Prog α) :
    (call r k).run = r.send >>= fun x => (k x).run := rfl

theorem run_bind (x : Prog α) (f : α → Prog β) :
    (x >>= f).run = x.run >>= fun a => (f a).run := by
  induction x with
  | ret a => simp
  | panic p => rfl
  | call r k ih => simp only [call_bind, run_call, ih, bind_assoc]

/-! ### The SDK calls -/

/-- `HeadObject`, as a request. -/
def headObject (bucket key : String) : Prog (Except SdkError Unit) :=
  call (.headObject bucket key) ret

/-- `PresignGetObject`, as a request. -/
def presignGetObject (bucket key : String) (expires : Nat) :
    Prog (Except SdkError PresignedHTTPRequest) :=
  call (.presignGetObject bucket key expires) ret

/-- The downloader's `Download`, as a request. -/
def download (bucket key : String) : Prog (Except SdkError Blob) :=
  call (.download bucket key) ret

/-- The uploader's `Upload`, as a request. -/
def upload (bucket key : String) (body : Blob) : Prog (Except SdkError Unit) :=
  call (.upload bucket key body) ret

theorem run_call_ret (r : Request) : (call r ret).run = r.send := by simp

@[simp] theorem run_headObject (bucket key : String) :
    (headObject bucket key).run = Sdk.headObject bucket key := run_call_ret _
@[simp] theorem run_presignGetObject (bucket key : String) (expires : Nat) :
    (presignGetObject bucket key expires).run = Sdk.presignGetObject bucket key expires :=
  run_call_ret _
@[simp] theorem run_download (bucket key : String) :
    (download bucket key).run = Sdk.download bucket key := run_call_ret _
@[simp] theorem run_upload (bucket key : String) (body : Blob) :
    (upload bucket key body).run = Sdk.upload bucket key body := run_call_ret _

/-! ### The paginated loop -/

section Loops

variable {σ : Type} (onErr : SdkError → Error) (body : σ → String → Prog (Except Error σ))

/-- `forEachKey`, request by request. -/
def forEachKey : List String → σ → Prog (Except Error σ)
  | [], acc => return .ok acc
  | key :: keys, acc => do
    match ← body acc key with
    | .error err => return .error err
    | .ok acc => forEachKey keys acc

/-- `forEachPage`, request by request. -/
def forEachPage : List Page → σ → Prog (Except Error σ)
  | [], acc => return .ok acc
  | .error err :: _, _ => return .error (onErr err)
  | .ok keys :: pages, acc => do
    match ← forEachKey body keys acc with
    | .error err => return .error err
    | .ok acc => forEachPage pages acc

theorem run_forEachKey (keys : List String) (acc : σ) :
    (forEachKey body keys acc).run = BoringRegistry.forEachKey (fun acc key => (body acc key).run)
      keys acc := by
  induction keys generalizing acc with
  | nil => rfl
  | cons key keys ih =>
    simp only [forEachKey, BoringRegistry.forEachKey, run_bind]
    congr 1; funext r; cases r <;> simp [ih]

theorem run_forEachPage (pages : List Page) (acc : σ) :
    (forEachPage onErr body pages acc).run =
      BoringRegistry.forEachPage onErr (fun acc key => (body acc key).run) pages acc := by
  induction pages generalizing acc with
  | nil => rfl
  | cons p pages ih =>
    cases p with
    | error err => rfl
    | ok keys =>
      simp only [forEachPage, BoringRegistry.forEachPage, run_bind, run_forEachKey]
      congr 1; funext r; cases r <;> simp [ih]

end Loops

end Prog

/-! ### The operations -/

namespace S3Storage

variable (s : S3Storage)

/-- `presignedURL`, request by request. -/
def presignedURLProg (key : String) : Prog (Except Error String) := do
  match ← Prog.presignGetObject s.bucket key s.signedURLExpiry with
  | .ok presignResult => return .ok presignResult.URL
  | .error _ => .panic ⟨"runtime error: invalid memory address or nil pointer dereference"⟩

/-- `objectExists`, request by request. -/
def objectExistsProg (key : String) : Prog (Except Error Bool) := do
  match ← Prog.headObject s.bucket key with
  | .ok () => return .ok true
  | .error err => if err.status = some 404 then return .ok false else return .error (.sdk err)

/-- `download`, request by request. -/
def downloadProg (path : String) : Prog (Except Error Blob) := do
  match ← Prog.download s.bucket path with
  | .error err => return .error (.wrap ("failed to download: " ++ path) (.sdk err))
  | .ok buf => return .ok buf

/-- `GetModule`, request by request. -/
def getModuleProg (ns name provider version : String) : Prog (Except Error Core.Module) := do
  let key := modulePath s.bucketPrefix ns name provider version s.moduleArchiveFormat
  match ← s.objectExistsProg key with
  | .error err => return .error err
  | .ok false => return .error (.sentinel .moduleNotFound)
  | .ok true =>
  match ← s.presignedURLProg key with
  | .error err => return .error err
  | .ok presigned =>
  return .ok { Namespace := ns, Name := name, Provider := provider, Version := version,
               DownloadURL := presigned }

/-- The body of `ListModuleVersions`'s loop, request by request. -/
def listModuleVersionsStepProg (modules : List Core.Module) (key : String) :
    Prog (Except Error (List Core.Module)) :=
  match moduleFromObject key s.moduleArchiveFormat with
  | .error _ => return .ok modules
  | .ok m => do
  match ← s.presignedURLProg
      (modulePath s.bucketPrefix m.Namespace m.Name m.Provider m.Version s.moduleArchiveFormat) with
  | .error err => return .error err
  | .ok url => return .ok (modules ++ [{ m with DownloadURL := url }])

/-- `ListModuleVersions`, request by request. -/
def listModuleVersionsProg (ns name provider : String) (paginate : Paginator) :
    Prog (Except Error (List Core.Module)) :=
  Prog.forEachPage (fun err => .wrap err.message (.sentinel .moduleListFailed))
    s.listModuleVersionsStepProg (paginate (modulePathPrefix s.bucketPrefix ns name provider)) []

/-- `UploadModule`, request by request. -/
def uploadModuleProg (ns name provider version : String) (body : Blob) :
    Prog (Except Error Core.Module) := do
  match firstEmpty [(ns, "namespace not defined"), (name, "name not defined"),
      (provider, "provider not defined"), (version, "version not defined")] with
  | some msg => return .error (.new msg)
  | none =>
  let key := modulePath s.bucketPrefix ns name provider version defaultModuleArchiveFormat
  match ← s.getModuleProg ns name provider version with
  | .ok _ => return .error (.wrap key (.sentinel .moduleAlreadyExists))
  | .error _ =>
  match ← Prog.upload s.bucket key body with
  | .error err => return .error (.wrap err.message (.sentinel .moduleUploadFailed))
  | .ok () => s.getModuleProg ns name provider version

section SigningKeys

variable (unmarshalSigningKeys : Blob → Except String Core.SigningKeys)

/-- `SigningKeys`, request by request. -/
def signingKeysProg (ns : String) : Prog (Except Error Core.SigningKeys) := do
  match firstEmpty [(ns, "namespace argument is empty")] with
  | some msg => return .error (.new msg)
  | none =>
  match ← s.downloadProg (signingKeysPath s.bucketPrefix ns) with
  | .error err =>
    return .error (.wrap ("failed to download signing_keys.json for namespace " ++ ns) err)
  | .ok signingKeysRaw =>
  match unmarshalSigningKeys signingKeysRaw with
  | .error msg => return .error (.new msg)
  | .ok signingKeys => return .ok signingKeys

/-- `GetProvider`, request by request. -/
def getProviderProg (ns name version os arch : String) : Prog (Except Error Core.Provider) := do
  match internalProviderPath s.bucketPrefix ns name version os arch with
  | .error err => return .error err
  | .ok (archivePath, shasumPath, shasumSigPath) =>
  match ← s.presignedURLProg archivePath with
  | .error err => return .error err
  | .ok zipURL =>
  match ← s.presignedURLProg shasumPath with
  | .error err => return .error (.wrap shasumPath err)
  | .ok shasumsURL =>
  match ← s.presignedURLProg shasumSigPath with
  | .error err => return .error err
  | .ok signatureURL =>
  match ← s.downloadProg shasumPath with
  | .error err => return .error err
  | .ok shasumBytes =>
  match readSHASums shasumBytes (GoPath.base archivePath) with
  | .error err => return .error err
  | .ok shasum =>
  match ← s.signingKeysProg unmarshalSigningKeys ns with
  | .error err => return .error err
  | .ok signingKeys =>
  return .ok { Namespace := ns, Name := name, Version := version, OS := os, Arch := arch,
               Shasum := shasum, Filename := GoPath.base archivePath, DownloadURL := zipURL,
               SHASumsURL := shasumsURL, SHASumsSignatureURL := signatureURL,
               SigningKeys := signingKeys }

end SigningKeys

/-- The body of `ListProviderVersions`'s loop, which sends no request. -/
def listProviderVersionsStepProg (collection : Collection) (key : String) :
    Prog (Except Error Collection) :=
  match Core.newProviderFromArchive key with
  | .error _ => return .ok collection
  | .ok provider => return .ok (collection.add provider)

/-- `ListProviderVersions`, request by request. -/
def listProviderVersionsProg (ns name : String) (paginate : Paginator) :
    Prog (Except Error (List Core.ProviderVersion)) := do
  match providerStoragePrefix s.bucketPrefix internalProviderType "" ns name with
  | .error err => return .error err
  | .ok pfx =>
  match ← Prog.forEachPage (fun err => .wrap err.message (.sentinel .providerListFailed))
      listProviderVersionsStepProg (paginate (pfx ++ "/")) newCollection with
  | .error err => return .error err
  | .ok collection =>
  let result := collection.list
  if result.length = 0 then
    return .error (.new ("no provider versions found for " ++ ns ++ "/" ++ name))
  else return .ok result

/-- `UploadProviderReleaseFiles`, request by request. -/
def uploadProviderReleaseFilesProg (ns name filename : String) (file : Blob) :
    Prog (Except Error Unit) := do
  match firstEmpty [(ns, "namespace argument is empty"), (name, "name argument is empty"),
      (filename, "name argument is empty")] with
  | some msg => return .error (.new msg)
  | none =>
  match providerStoragePrefix s.bucketPrefix internalProviderType "" ns name with
  | .error err => return .error err
  | .ok pfx =>
  let key := Filepath.join [pfx, filename]
  match ← s.objectExistsProg key with
  | .error err => return .error err
  | .ok true => return .error (.sentinel .providerAlreadyExists)
  | .ok false =>
  match ← Prog.upload s.bucket key file with
  | .error err => return .error (.wrap "failed to upload provider" (.sdk err))
  | .ok () => return .ok ()

/-! ### Each program runs as its operation -/

theorem presignedURLProg_run (key : String) :
    (s.presignedURLProg key).run = s.presignedURL key := by
  simp only [presignedURLProg, presignedURL, Prog.run_bind, Prog.run_presignGetObject]
  congr 1; funext r; cases r <;> rfl

theorem objectExistsProg_run (key : String) :
    (s.objectExistsProg key).run = s.objectExists key := by
  simp only [objectExistsProg, objectExists, Prog.run_bind, Prog.run_headObject]
  congr 1; funext r; rcases r with e | ⟨⟩
  · by_cases h : e.status = some 404 <;> simp [h]
  · rfl

theorem downloadProg_run (path : String) : (s.downloadProg path).run = s.download path := by
  simp only [downloadProg, download, Prog.run_bind, Prog.run_download]
  congr 1; funext r; cases r <;> rfl

theorem getModuleProg_run (ns name provider version : String) :
    (s.getModuleProg ns name provider version).run = s.getModule ns name provider version := by
  simp only [getModuleProg, getModule, Prog.run_bind, objectExistsProg_run]
  congr 1; funext r; rcases r with err | _ | _
  · rfl
  · rfl
  · simp only [Prog.run_bind, presignedURLProg_run]
    congr 1; funext r; cases r <;> rfl

theorem listModuleVersionsStepProg_run (modules : List Core.Module) (key : String) :
    (s.listModuleVersionsStepProg modules key).run = s.listModuleVersionsStep modules key := by
  unfold listModuleVersionsStepProg listModuleVersionsStep
  cases moduleFromObject key s.moduleArchiveFormat with
  | error => rfl
  | ok m =>
    simp only [Prog.run_bind, presignedURLProg_run]
    congr 1; funext r; cases r <;> rfl

theorem listModuleVersionsProg_run (ns name provider : String) (paginate : Paginator) :
    (s.listModuleVersionsProg ns name provider paginate).run =
      s.listModuleVersions ns name provider paginate := by
  simp only [listModuleVersionsProg, listModuleVersions, Prog.run_forEachPage,
    listModuleVersionsStepProg_run]

theorem uploadModuleProg_run (ns name provider version : String) (body : Blob) :
    (s.uploadModuleProg ns name provider version body).run =
      s.uploadModule ns name provider version body := by
  unfold uploadModuleProg uploadModule
  cases firstEmpty [(ns, "namespace not defined"), (name, "name not defined"),
      (provider, "provider not defined"), (version, "version not defined")] with
  | some msg => rfl
  | none =>
    simp only [Prog.run_bind, getModuleProg_run]
    congr 1; funext r; rcases r with _ | _
    · simp only [Prog.run_bind, Prog.run_upload]
      congr 1; funext r; rcases r with _ | ⟨⟩
      · rfl
      · exact getModuleProg_run s ns name provider version
    · rfl

theorem signingKeysProg_run (unmarshalSigningKeys : Blob → Except String Core.SigningKeys)
    (ns : String) :
    (s.signingKeysProg unmarshalSigningKeys ns).run = s.signingKeys unmarshalSigningKeys ns := by
  unfold signingKeysProg signingKeys
  cases firstEmpty [(ns, "namespace argument is empty")] with
  | some msg => rfl
  | none =>
    simp only [Prog.run_bind, downloadProg_run]
    congr 1; funext r; rcases r with _ | raw
    · rfl
    · dsimp only; cases unmarshalSigningKeys raw <;> rfl

theorem getProviderProg_run (unmarshalSigningKeys : Blob → Except String Core.SigningKeys)
    (ns name version os arch : String) :
    (s.getProviderProg unmarshalSigningKeys ns name version os arch).run =
      s.getProvider unmarshalSigningKeys ns name version os arch := by
  unfold getProviderProg getProvider
  cases internalProviderPath s.bucketPrefix ns name version os arch with
  | error => rfl
  | ok paths =>
    obtain ⟨archivePath, shasumPath, shasumSigPath⟩ := paths
    simp only [Prog.run_bind, presignedURLProg_run]
    congr 1; funext r; rcases r with _ | zipURL; · rfl
    simp only [Prog.run_bind, presignedURLProg_run]
    congr 1; funext r; rcases r with _ | shasumsURL; · rfl
    simp only [Prog.run_bind, presignedURLProg_run]
    congr 1; funext r; rcases r with _ | signatureURL; · rfl
    simp only [Prog.run_bind, downloadProg_run]
    congr 1; funext r; rcases r with _ | shasumBytes; · rfl
    dsimp only
    cases readSHASums shasumBytes (GoPath.base archivePath) with
    | error => rfl
    | ok shasum =>
      simp only [Prog.run_bind, signingKeysProg_run]
      congr 1; funext r; cases r <;> rfl

theorem listProviderVersionsProg_run (ns name : String) (paginate : Paginator) :
    (s.listProviderVersionsProg ns name paginate).run =
      s.listProviderVersions ns name paginate := by
  have hstep : (fun collection key => (listProviderVersionsStepProg collection key).run) =
      listProviderVersionsStep := by
    funext collection key
    unfold listProviderVersionsStepProg listProviderVersionsStep
    cases Core.newProviderFromArchive key <;> rfl
  unfold listProviderVersionsProg listProviderVersions
  cases providerStoragePrefix s.bucketPrefix internalProviderType "" ns name with
  | error => rfl
  | ok pfx =>
    simp only [Prog.run_bind, Prog.run_forEachPage, hstep]
    congr 1; funext r; rcases r with _ | collection
    · rfl
    · dsimp only; split <;> rfl

theorem uploadProviderReleaseFilesProg_run (ns name filename : String) (file : Blob) :
    (s.uploadProviderReleaseFilesProg ns name filename file).run =
      s.uploadProviderReleaseFiles ns name filename file := by
  unfold uploadProviderReleaseFilesProg uploadProviderReleaseFiles
  cases firstEmpty [(ns, "namespace argument is empty"), (name, "name argument is empty"),
      (filename, "name argument is empty")] with
  | some msg => rfl
  | none =>
    cases providerStoragePrefix s.bucketPrefix internalProviderType "" ns name with
    | error => rfl
    | ok pfx =>
      simp only [Prog.run_bind, objectExistsProg_run]
      congr 1; funext r; rcases r with _ | _ | _
      · rfl
      · simp only [Prog.run_bind, Prog.run_upload]
        congr 1; funext r; cases r <;> rfl
      · rfl

end S3Storage

/-! ### The serving operations -/

/-- What each serving operation returns. -/
@[reducible] def ServingOp.Result : ServingOp → Type
  | .getModule .. => Except Error Core.Module
  | .listModuleVersions .. => Except Error (List Core.Module)
  | .uploadModule .. => Except Error Core.Module
  | .getProvider .. => Except Error Core.Provider
  | .listProviderVersions .. => Except Error (List Core.ProviderVersion)
  | .uploadProviderReleaseFiles .. => Except Error Unit
  | .signingKeys .. => Except Error Core.SigningKeys

section Serving

variable (s : S3Storage) (unmarshalSigningKeys : Blob → Except String Core.SigningKeys)

/-- A serving operation as the program of its requests. -/
def ServingOp.prog : (op : ServingOp) → Prog op.Result
  | .getModule ns name provider version => s.getModuleProg ns name provider version
  | .listModuleVersions ns name provider paginate =>
    s.listModuleVersionsProg ns name provider paginate
  | .uploadModule ns name provider version body => s.uploadModuleProg ns name provider version body
  | .getProvider ns name version os arch =>
    s.getProviderProg unmarshalSigningKeys ns name version os arch
  | .listProviderVersions ns name paginate => s.listProviderVersionsProg ns name paginate
  | .uploadProviderReleaseFiles ns name filename file =>
    s.uploadProviderReleaseFilesProg ns name filename file
  | .signingKeys ns => s.signingKeysProg unmarshalSigningKeys ns

/-- A serving operation as the storage method it calls, with its result. -/
def ServingOp.call : (op : ServingOp) → Go op.Result
  | .getModule ns name provider version => s.getModule ns name provider version
  | .listModuleVersions ns name provider paginate =>
    s.listModuleVersions ns name provider paginate
  | .uploadModule ns name provider version body => s.uploadModule ns name provider version body
  | .getProvider ns name version os arch =>
    s.getProvider unmarshalSigningKeys ns name version os arch
  | .listProviderVersions ns name paginate => s.listProviderVersions ns name paginate
  | .uploadProviderReleaseFiles ns name filename file =>
    s.uploadProviderReleaseFiles ns name filename file
  | .signingKeys ns => s.signingKeys unmarshalSigningKeys ns

/-- A serving operation's program runs as the method it calls. -/
theorem ServingOp.run_prog (op : ServingOp) :
    (op.prog s unmarshalSigningKeys).run = op.call s unmarshalSigningKeys := by
  cases op with
  | getModule => exact s.getModuleProg_run _ _ _ _
  | listModuleVersions => exact s.listModuleVersionsProg_run _ _ _ _
  | uploadModule => exact s.uploadModuleProg_run _ _ _ _ _
  | getProvider => exact s.getProviderProg_run _ _ _ _ _ _
  | listProviderVersions => exact s.listProviderVersionsProg_run _ _ _
  | uploadProviderReleaseFiles => exact s.uploadProviderReleaseFilesProg_run _ _ _ _
  | signingKeys => exact s.signingKeysProg_run _ _

/-- A serving operation's program, run alone, leaves the world as the operation's step of
`runOps` does. -/
theorem ServingOp.after_run_prog (op : ServingOp) :
    Go.after (op.prog s unmarshalSigningKeys).run = op.step s unmarshalSigningKeys := by
  rw [op.run_prog]
  cases op <;> rfl

end Serving

end BoringRegistry
