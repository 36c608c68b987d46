import BoringRegistry.Storage.Specs

/-!
# What the listing operations return

`ListModuleVersions` and `ListProviderVersions` walk a paginated listing and build their result
key by key. This module says what that result is, over every pagination and every failure
pattern of the backend.

`ListProviderVersions` sends no request of its own: it returns the whole collection of the
listing's provider archives, or an error when the directory cannot be built, a page fails, or no
key is an archive, and never part of a listing.

`ListModuleVersions` presigns the URL of every module it parses. A presign that fails does not
make it return an error: the SDK's nil result is dereferenced first, and the call panics. Every
call that returns, returns the whole listing or the failed page's error, and a call panics only
when the presign of one of the listed keys fails. Its listing prefix has
no trailing `/`, so the modules of a provider whose name extends the requested one are listed too.

What one upload stores, a complete listing returns. With the default archive format and plain
coordinates, `moduleFromObject` reads the uploaded key back to its coordinates, so the module is
among the listing's results.

## Main definitions

* `S3Storage.listedModules`, `S3Storage.moduleListing` — the result the specification gives
  `ListModuleVersions`
* `S3Storage.PresignFails` — the presign a module listing sends for a key fails at some attempt
* `acceptedCollection` — the collection the specification says `ListProviderVersions` lists

## Main results

* `listModuleVersions_whole_or_panic` — a module listing returns the whole listing or the page
  error, or panics, and only panics when the presign of a listed key fails
* `listModuleVersions_presign_failure_panics` — a failed presign panics
* `listModuleVersions_other_provider` — a listing of `aws` returns a module of provider `aws2`
* `uploadModule_then_listModuleVersions` — an uploaded module of plain coordinates is listed
* `listProviderVersions_whole_or_nothing` — a provider listing returns the whole collection or an
  error, exactly when the directory, a page or every key fails, whatever the pagination
-/

namespace BoringRegistry

namespace S3Storage

variable (s : S3Storage)

/-! ### Module listings -/

/-- The modules the specification says a listing of `keys` yields: every key `moduleFromObject`
parses, in listing order, with the presigned URL of the key of its own coordinates. -/
def listedModules (keys : List String) : List Core.Module :=
  keys.filterMap fun key =>
    match moduleFromObject key s.moduleArchiveFormat with
    | .error _ => none
    | .ok m =>
      let key := modulePath s.bucketPrefix m.Namespace m.Name m.Provider m.Version
        s.moduleArchiveFormat
      some { m with DownloadURL := presignedGetURL s.bucket key }

/-- The result the specification gives a module listing of `pages`: the error of the first
failed page, or the modules of the whole listing. -/
def moduleListing (pages : List Page) : Except Error (List Core.Module) :=
  match (Pages.split pages).2 with
  | some e => .error (.wrap e.message (.sentinel .moduleListFailed))
  | none => .ok (s.listedModules (Pages.split pages).1)

theorem listedModules_cons (key : String) (keys : List String) :
    s.listedModules (key :: keys) = s.listedModules [key] ++ s.listedModules keys := by
  simp only [listedModules, List.filterMap_cons, List.filterMap_nil]
  split <;> simp

/-- Some attempt at the presign that a module listing sends for `key` fails: the presign of the
key of the module's own coordinates, when `key` parses to a module. -/
def PresignFails (w : World) (key : String) : Prop :=
  ∃ m, moduleFromObject key s.moduleArchiveFormat = .ok m ∧ ∃ n, w.fault
    (.presignGetObject s.bucket (modulePath s.bucketPrefix m.Namespace m.Name m.Provider m.Version
      s.moduleArchiveFormat) s.signedURLExpiry) n ≠ none

theorem not_presignFails {w : World} (hw : w.Reliable) (key : String) : ¬ s.PresignFails w key :=
  fun ⟨_, _, n, hn⟩ => hn (hw _ n)

/-- One turn of the loop either panics, on a failed presign of its key, or appends the key's
module, if it has one, and keeps the failure pattern. -/
theorem listModuleVersionsStep_cases (acc : List Core.Module) (key : String) (w : World) :
    (∃ p w', s.listModuleVersionsStep acc key w = .error p w' ∧ s.PresignFails w key) ∨
      ∃ w', s.listModuleVersionsStep acc key w = .ok (.ok (acc ++ s.listedModules [key])) w' ∧
        w'.fault = w.fault := by
  unfold listModuleVersionsStep
  cases hm : moduleFromObject key s.moduleArchiveFormat with
  | error e => exact .inr ⟨w, by simp [listedModules, hm], rfl⟩
  | ok m =>
    set r := Request.presignGetObject s.bucket (modulePath s.bucketPrefix m.Namespace m.Name
      m.Provider m.Version s.moduleArchiveFormat) s.signedURLExpiry
    rcases hf : w.faultOf r with _ | e
    · exact .inr ⟨w.record r,
        by simp [s.presignedURL_of_faultOf_eq_none _ hf, listedModules, hm], rfl⟩
    · exact .inl ⟨⟨"runtime error: invalid memory address or nil pointer dereference"⟩,
        w.record r, by simp [s.presignedURL_of_faultOf_eq_some _ hf],
        m, hm, _, by rw [← World.faultOf, hf]; exact nofun⟩

/-- The loop over a listing's keys either panics, when the presign of one of them fails, or
appends the modules of all of them. -/
theorem forEachKey_listModuleVersionsStep (keys : List String) :
    ∀ (acc : List Core.Module) (w : World),
      (∃ p w', forEachKey s.listModuleVersionsStep keys acc w = .error p w' ∧
        ∃ key ∈ keys, s.PresignFails w key) ∨
        ∃ w', forEachKey s.listModuleVersionsStep keys acc w =
          .ok (.ok (acc ++ s.listedModules keys)) w' := by
  induction keys with
  | nil => exact fun acc w => .inr ⟨w, by simp [forEachKey, listedModules]⟩
  | cons k keys ih =>
    intro acc w
    rcases s.listModuleVersionsStep_cases acc k w with ⟨p, w', h, hk⟩ | ⟨w', h, hfault⟩
    · exact .inl ⟨p, w', by simp [forEachKey, h], k, List.mem_cons_self k keys, hk⟩
    · rcases ih (acc ++ s.listedModules [k]) w' with ⟨p, w'', h', key, hkey, hfails⟩ | ⟨w'', h'⟩
      · exact .inl ⟨p, w'', by simp [forEachKey, h, h'], key, List.mem_cons_of_mem k hkey,
          by simpa only [PresignFails, hfault] using hfails⟩
      · exact .inr ⟨w'', by simp [forEachKey, h, h', listedModules_cons s k keys]⟩

/-- `ListModuleVersions` returns the whole listing or the error of its first failed page, or
panics; it panics only when the presign of a listed key fails. Whichever it does depends on the
listing only through its keys and its first failed page. -/
theorem listModuleVersions_whole_or_panic (ns name provider : String) (paginate : Paginator)
    (w : World) :
    Go.value? (s.listModuleVersions ns name provider paginate) w = none ∧
        (∃ key ∈ (Pages.split (paginate (modulePathPrefix s.bucketPrefix ns name provider))).1,
          s.PresignFails w key) ∨
      Go.value? (s.listModuleVersions ns name provider paginate) w =
        some (s.moduleListing (paginate (modulePathPrefix s.bucketPrefix ns name provider))) := by
  rw [listModuleVersions, forEachPage_eq]
  rcases s.forEachKey_listModuleVersionsStep
      (Pages.split (paginate (modulePathPrefix s.bucketPrefix ns name provider))).1 [] w with
    ⟨p, w', h, hfails⟩ | ⟨w', h⟩
  · exact .inl ⟨by simp [Go.value?, h], hfails⟩
  · right
    simp only [Go.value?, Go.bind_apply, h, List.nil_append, moduleListing]
    cases (Pages.split _).2 <;> rfl

/-- A bucket that holds one module archive, whose presign fails. -/
def presignFaultWorld : World :=
  ⟨fun k => if k = "modules/acme/tls/aws/1.0.0/tls.zip" then some "archive" else none, [],
    fun r _ => if r = .presignGetObject "registry" "modules/acme/tls/aws/1.0.0/tls.zip" 0 then
      some ⟨none, "RequestCanceled"⟩ else none⟩

/-- A presign that fails while a module is listed panics, although the listing itself
succeeded. -/
theorem listModuleVersions_presign_failure_panics :
    Lists presignFaultWorld.bucket
        (modulePathPrefix (newS3Storage "registry" [withS3ArchiveFormat "zip"]).bucketPrefix
          "acme" "tls" "aws") [.ok ["modules/acme/tls/aws/1.0.0/tls.zip"]] ∧
      Go.value? ((newS3Storage "registry" [withS3ArchiveFormat "zip"]).listModuleVersions "acme"
        "tls" "aws" fun _ => [.ok ["modules/acme/tls/aws/1.0.0/tls.zip"]]) presignFaultWorld =
        none :=
  ⟨lists_singleton (by decide) (by decide) fun k => by
    by_cases hk : k = "modules/acme/tls/aws/1.0.0/tls.zip" <;> simp [presignFaultWorld, hk],
    by decide⟩

/-- A bucket that holds the module archive of provider `aws2` alone, where nothing fails. -/
def aws2World : World :=
  ⟨fun k => if k = "modules/acme/tls/aws2/1.0.0/tls.zip" then some "archive" else none, [],
    fun _ _ => none⟩

/-- The listing prefix of provider `aws` is also a prefix of provider `aws2`'s keys: a
listing of `acme/tls/aws` returns the module of `acme/tls/aws2`, which `GetModule` for
`aws` does not find. -/
theorem listModuleVersions_other_provider :
    Lists aws2World.bucket
        (modulePathPrefix (newS3Storage "registry" [withS3ArchiveFormat "zip"]).bucketPrefix
          "acme" "tls" "aws") [.ok ["modules/acme/tls/aws2/1.0.0/tls.zip"]] ∧
      Go.value? ((newS3Storage "registry" [withS3ArchiveFormat "zip"]).listModuleVersions "acme"
        "tls" "aws" fun _ => [.ok ["modules/acme/tls/aws2/1.0.0/tls.zip"]]) aws2World =
        some (.ok [⟨"acme", "tls", "aws2", "1.0.0",
          presignedGetURL "registry" "modules/acme/tls/aws2/1.0.0/tls.zip"⟩]) ∧
      Go.value? ((newS3Storage "registry" [withS3ArchiveFormat "zip"]).getModule "acme" "tls"
        "aws" "1.0.0") aws2World = some (.error (.sentinel .moduleNotFound)) :=
  ⟨lists_singleton (by decide) (by decide) fun k => by
    by_cases hk : k = "modules/acme/tls/aws2/1.0.0/tls.zip" <;> simp [aws2World, hk],
    by decide, by decide⟩

/-- With the default archive format and nothing failing, a module version of plain coordinates
that `UploadModule` stores is among what `ListModuleVersions` returns for its provider, with the
presigned URL of its key, whenever the listing is complete. -/
theorem uploadModule_then_listModuleVersions {w : World} {ns name provider version : String}
    (hfmt : s.moduleArchiveFormat = defaultModuleArchiveFormat) (hw : w.Reliable)
    (hns : GoPath.IsName ns) (hname : GoPath.IsName name) (hprov : GoPath.IsName provider)
    (hver : GoPath.IsName version)
    (habsent : w.bucket (s.moduleKey ns name provider version) = none) (body : Blob)
    (paginate : Paginator)
    (hl : Lists (Go.after (s.uploadModule ns name provider version body) w).bucket
      (modulePathPrefix s.bucketPrefix ns name provider)
      (paginate (modulePathPrefix s.bucketPrefix ns name provider))) :
    ∃ ms, Go.value? (s.listModuleVersions ns name provider paginate)
        (Go.after (s.uploadModule ns name provider version body) w) = some (.ok ms) ∧
      (⟨ns, name, provider, version, presignedGetURL s.bucket
        (s.moduleKey ns name provider version)⟩ : Core.Module) ∈ ms := by
  have hupload := s.uploadModule_of_absent hfmt hw hns.1 hname.1 hprov.1 hver.1 habsent body
  rw [Go.after_ok hupload] at hl ⊢
  set w₁ := (((((w.record (.headObject s.bucket (s.moduleKey ns name provider version))).record
        (.upload s.bucket (s.moduleKey ns name provider version) body)).put
          (s.moduleKey ns name provider version) body).record
        (.headObject s.bucket (s.moduleKey ns name provider version))).record
        (.presignGetObject s.bucket (s.moduleKey ns name provider version) s.signedURLExpiry))
  have hw₁ : w₁.Reliable := by simpa [w₁] using hw
  obtain ⟨hnone, -, hmem⟩ := hl
  set keys := (Pages.split (paginate (modulePathPrefix s.bucketPrefix ns name provider))).1
  -- Nothing fails, so the listing returns the modules of every key.
  have hlist : Go.value? (s.listModuleVersions ns name provider paginate) w₁ =
      some (.ok (s.listedModules keys)) := by
    rw [listModuleVersions, forEachPage_eq]
    rcases s.forEachKey_listModuleVersionsStep keys [] w₁ with ⟨p, w', h, key, -, hkey⟩ | ⟨w', h⟩
    · exact absurd hkey (s.not_presignFails hw₁ key)
    · simp [Go.value?, h, hnone]
  -- The uploaded key is one of them, and it parses back to the uploaded coordinates.
  have hfmt' : '/' ∉ s.moduleArchiveFormat.data := by rw [hfmt]; decide
  have hkey : s.moduleKey ns name provider version ∈ keys := by
    refine (hmem _).mpr ⟨?_, by simp [w₁]⟩
    rw [moduleKey, modulePath_eq_modulePathPrefix hprov hver (hname.dot_ext hfmt')]
    simp only [String.data_append, List.append_assoc]
    exact List.prefix_append _ _
  refine ⟨_, hlist, List.mem_filterMap.mpr ⟨_, hkey, ?_⟩⟩
  simp [moduleKey, moduleFromObject_modulePath hns hname hprov hver hfmt']

/-- The `tls` module uploaded into an empty bucket is listed among its provider's versions. -/
theorem uploadModule_then_listModuleVersions_tls :
    ∃ ms, Go.value? ((newS3Storage "registry" [withS3ArchiveFormat "tar.gz"]).listModuleVersions
        "acme" "tls" "aws" fun _ => [.ok ["modules/acme/tls/aws/1.0.0/tls.tar.gz"]])
        (Go.after ((newS3Storage "registry" [withS3ArchiveFormat "tar.gz"]).uploadModule "acme"
          "tls" "aws" "1.0.0" "archive") World.empty) = some (.ok ms) ∧
      (⟨"acme", "tls", "aws", "1.0.0",
        presignedGetURL "registry" "modules/acme/tls/aws/1.0.0/tls.tar.gz"⟩ : Core.Module) ∈ ms :=
  have hw : World.empty.Reliable := fun _ _ => rfl
  have hkey : (newS3Storage "registry" [withS3ArchiveFormat "tar.gz"]).moduleKey "acme" "tls" "aws"
      "1.0.0" = "modules/acme/tls/aws/1.0.0/tls.tar.gz" := by decide
  have hup := (newS3Storage "registry" [withS3ArchiveFormat "tar.gz"]).uploadModule_of_absent rfl
    hw (by decide) (by decide) (by decide) (by decide)
    (show World.empty.bucket ((newS3Storage "registry" [withS3ArchiveFormat "tar.gz"]).moduleKey
      "acme" "tls" "aws" "1.0.0") = none from rfl) "archive"
  (newS3Storage "registry" [withS3ArchiveFormat "tar.gz"]).uploadModule_then_listModuleVersions
    rfl hw (by decide) (by decide) (by decide) (by decide) rfl "archive" _
    (lists_singleton (by decide) (by decide) fun k => by
      rw [Go.after_ok hup, hkey]
      by_cases hk : k = "modules/acme/tls/aws/1.0.0/tls.tar.gz" <;> simp [hk, World.empty])

end S3Storage

/-! ### Provider listings -/

/-- The collection the specification says `ListProviderVersions` lists: the providers that
`NewProviderFromArchive` reads from `keys`, added in listing order to a new collection. -/
def acceptedCollection (keys : List String) : Collection :=
  (keys.filterMap fun key => (Core.newProviderFromArchive key).toOption).foldl Collection.add
    newCollection

theorem foldl_addArchive_eq (keys : List String) (c : Collection) :
    keys.foldl S3Storage.addArchive c =
      (keys.filterMap fun key => (Core.newProviderFromArchive key).toOption).foldl
        Collection.add c := by
  induction keys generalizing c with
  | nil => rfl
  | cons k keys ih =>
    simp only [List.foldl_cons, List.filterMap_cons, ih, S3Storage.addArchive]
    cases Core.newProviderFromArchive k <;> rfl

/-- The collection lists nothing exactly when the parser rejects every key. -/
theorem acceptedCollection_list_eq_nil (keys : List String) :
    (acceptedCollection keys).list = [] ↔
      ∀ k ∈ keys, ∀ p, Core.newProviderFromArchive k ≠ .ok p := by
  rw [Collection.list_eq_nil_iff, acceptedCollection, ← foldl_addArchive_eq,
    S3Storage.foldl_addArchive_versions_eq_nil]
  simp [newCollection]

namespace S3Storage

variable (s : S3Storage)

/-- `ListProviderVersions` returns, and leaves the world as it was. It returns the whole
collection of the listing's provider archives, which is not empty, when the directory can be
built, no page fails and some key is an archive; otherwise it returns an error. What it returns
depends on the pagination only through the keys and the first failed page. -/
theorem listProviderVersions_whole_or_nothing (ns name : String) :
    (∀ (paginate : Paginator) (w : World), ∃ r, s.listProviderVersions ns name paginate w = .ok r w ∧
      match r with
      | .ok l => ∃ pfx, providerStoragePrefix s.bucketPrefix internalProviderType "" ns name = .ok pfx ∧
          (Pages.split (paginate (pfx ++ "/"))).2 = none ∧
          (∃ k ∈ (Pages.split (paginate (pfx ++ "/"))).1, ∃ p, Core.newProviderFromArchive k = .ok p) ∧
          l = (acceptedCollection (Pages.split (paginate (pfx ++ "/"))).1).list ∧ l ≠ []
      | .error _ =>
          ∀ pfx, providerStoragePrefix s.bucketPrefix internalProviderType "" ns name = .ok pfx →
            (Pages.split (paginate (pfx ++ "/"))).2 ≠ none ∨
            ∀ k ∈ (Pages.split (paginate (pfx ++ "/"))).1, ∀ p, Core.newProviderFromArchive k ≠ .ok p) ∧
    ∀ paginate₁ paginate₂ : Paginator, (∀ pfx, Pages.split (paginate₁ pfx) = Pages.split (paginate₂ pfx)) →
      s.listProviderVersions ns name paginate₁ = s.listProviderVersions ns name paginate₂ := by
  refine ⟨fun paginate w => ⟨_, s.listProviderVersions_apply ns name paginate w, ?_⟩,
    fun paginate₁ paginate₂ h => funext fun w => by simp only [listProviderVersions_apply, h]⟩
  rcases hD : providerStoragePrefix s.bucketPrefix internalProviderType "" ns name with err | pfx
  · intro pfx h; cases h
  · simp only
    rcases hpage : (Pages.split (paginate (pfx ++ "/"))).2 with _ | e
    · have hlist := acceptedCollection_list_eq_nil (Pages.split (paginate (pfx ++ "/"))).1
      rw [acceptedCollection, ← foldl_addArchive_eq] at hlist
      simp only [List.length_eq_zero]
      split_ifs with hnil
      · intro pfx' h; cases h
        exact .inr (hlist.mp hnil)
      · refine ⟨pfx, rfl, hpage, ?_, by rw [acceptedCollection, ← foldl_addArchive_eq], hnil⟩
        by_contra hnone
        push_neg at hnone
        exact hnil (hlist.mpr hnone)
    · intro pfx' h; cases h
      exact .inl (by simp [hpage])

/-- Two pages or one: the listing of one provider's two archives gives the same result. -/
theorem listProviderVersions_tls_pages :
    let s := newS3Storage "registry" []
    let linux := "providers/acme/tls/terraform-provider-tls_1.0.0_linux_amd64.zip"
    let darwin := "providers/acme/tls/terraform-provider-tls_1.0.0_darwin_arm64.zip"
    s.listProviderVersions "acme" "tls" (fun _ => [.ok [darwin], .ok [linux]]) =
      s.listProviderVersions "acme" "tls" (fun _ => [.ok [darwin, linux]]) :=
  ((newS3Storage "registry" []).listProviderVersions_whole_or_nothing "acme" "tls").2 _ _
    fun _ => rfl

end S3Storage

end BoringRegistry
