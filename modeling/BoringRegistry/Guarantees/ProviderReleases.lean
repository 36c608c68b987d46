import BoringRegistry.Guarantees.Listings
import BoringRegistry.Guarantees.ProviderPaths
import BoringRegistry.Guarantees.ProviderLookup

/-!
# Provider releases: what is published is what is served

A provider release is published file by file through `UploadProviderReleaseFiles`, which stores
each file under `filepath.Join(D, filename)` in the provider's directory `D`. It is served by two
readers that never see those calls: `GetProvider` computes the keys of a release's archive,
manifest and signature with `internalProviderPath`, and `ListProviderVersions` lists the
directory and reads every key back with `core.NewProviderFromArchive`. The round trips hold only
because the writer's `filepath.Join` and the readers' `path.Join` and key parser agree on the keys,
which they do when the namespace, the name and the file names are plain path segments.

`ListProviderVersions` groups what it reads through the version collection. Its answer lists each
version once, each platform of a version once, and exactly the version and platform pairs of the
archives in the listing.

## Main results

* `listProviderVersions_groups_versions` — a listing is the accepted archives' version and
  platform pairs, each version once and each of its platforms once
* `uploadProviderReleaseFiles_then_listProviderVersions` — an uploaded archive's version and
  platform are listed by every complete listing
* `uploadProviderRelease_then_getProvider` — after the archive, the manifest and the signature
  are uploaded, `GetProvider` answers with the manifest's digest and presigns the three keys the
  uploads wrote

## Implementation notes

The version collection and `readSHASums` are modelled from the specification (their source is
not in the repository), so the grouping results are about that model of them.
-/

namespace BoringRegistry

open GoPath

/-! ### Keys below a provider's directory -/

/-- `path.Base` of a path that ends in a plain name is that name. -/
theorem GoPath.base_append_name {d f : String} (hf : IsName f) : base (d ++ "/" ++ f) = f := by
  obtain ⟨init, c, hc⟩ : ∃ init c, f.data = init ++ [c] := by
    rcases List.eq_nil_or_concat f.data with h | ⟨L, b, h⟩
    · exact absurd (String.ext h) hf.1
    · exact ⟨L, b, by simpa using h⟩
  have hcs : (c == '/') = false := by
    have hc' : c ≠ '/' := fun h => hf.2.2.2 (by rw [hc, ← h]; simp)
    simpa using hc'
  have htrim : (⟨(d ++ "/" ++ f).data.reverse.dropWhile (· == '/') |>.reverse⟩ : String) =
      d ++ "/" ++ f := by
    apply String.ext
    simp [hc, List.dropWhile_cons_of_neg, hcs]
  have hne : d ++ "/" ++ f ≠ "" := fun h => by simpa using congrArg String.data h
  simp only [base, if_neg hne, htrim, segments_append_slash, segments_of_slash_not_mem hf.2.2.2]
  simp

/-- `filepath.Join` of a clean directory that keeps a segment and a plain name. -/
theorem Filepath.join_name {d f : String} (hd : clean d = d) (hstk : stack d ≠ [])
    (hf : IsName f) : Filepath.join [d, f] = d ++ "/" ++ f := by
  have hseg := segments_of_slash_not_mem hf.2.2.2
  rw [Filepath.join_of_not_dotdot hd hstk (by simp [hseg, hf.2.2.1])
    (by simp [hseg, hf.1, hf.2.1])]
  simp [hseg, hf.1, hf.2.1]

/-- `path.Join` of a clean directory that keeps a segment and a plain name. -/
theorem GoPath.join_name {d f : String} (hd : clean d = d) (hstk : stack d ≠ [])
    (hf : IsName f) : GoPath.join [d, f] = d ++ "/" ++ f := by
  rw [join_two (ne_empty_of_stack_ne_nil hstk) hf.1]
  simpa [hd] using @clean_append_names d hstk [f] (by simp [hf]) (by simp)

/-- The directory of a provider of plain namespace and name keeps a segment and ends with them. -/
theorem segments_providerStoragePrefix {pfx typ hostname ns name D : String} (htyp : typ ≠ "")
    (hns : IsName ns) (hname : IsName name)
    (hD : providerStoragePrefix pfx typ hostname ns name = .ok D) :
    stack D ≠ [] ∧ ∃ pre, segments D = pre ++ [ns, name] := by
  unfold providerStoragePrefix at hD
  rw [if_neg hns.1, if_neg hname.1] at hD
  cases hD
  set F := [pfx, typ, hostname].filter (· != "")
  have hF : [pfx, typ, hostname, ns, name].filter (· != "") = F ++ [ns, name] := by
    rw [show [pfx, typ, hostname, ns, name] = [pfx, typ, hostname] ++ [ns, name] from rfl,
      List.filter_append]
    simp [hns.1, hname.1]
  have hFne : F ≠ [] :=
    @List.ne_nil_of_mem _ typ F (List.mem_filter.mpr ⟨by simp, by simpa using htyp⟩)
  rw [join_of_ne (by simp [hF]), hF]
  refine ⟨?_, ?_⟩
  · rw [stack_clean, show F ++ [ns, name] = (F ++ [ns]) ++ [name] by simp]
    refine stack_joinSlash_append_name_ne_nil (fun s hs => ?_) hname
    rcases List.mem_append.mp hs with hs | hs
    · simpa using (List.mem_filter.mp hs).2
    · exact (List.mem_singleton.mp hs) ▸ hns.1
  · rw [joinSlash_append hFne (by simp)]
    exact segments_clean_append_names _ (by simp [hns, hname]) (by simp)

/-- The key a provider file of plain name is uploaded to is its directory, `/`, and the name. -/
theorem join_providerStoragePrefix {pfx ns name D f : String} (hns : IsName ns)
    (hname : IsName name) (hf : IsName f)
    (hD : providerStoragePrefix pfx internalProviderType "" ns name = .ok D) :
    Filepath.join [D, f] = D ++ "/" ++ f ∧ GoPath.join [D, f] = D ++ "/" ++ f := by
  have hclean := clean_providerStoragePrefix (by decide) hD
  have hstk := (segments_providerStoragePrefix (by decide) hns hname hD).1
  exact ⟨Filepath.join_name hclean hstk hf, GoPath.join_name hclean hstk hf⟩

/-- Provider files of different plain names are uploaded to different keys. -/
theorem join_providerStoragePrefix_ne {pfx ns name D f g : String} (hns : IsName ns)
    (hname : IsName name) (hf : IsName f) (hg : IsName g)
    (hD : providerStoragePrefix pfx internalProviderType "" ns name = .ok D) (hfg : f ≠ g) :
    Filepath.join [D, f] ≠ Filepath.join [D, g] := by
  rw [(join_providerStoragePrefix hns hname hf hD).1,
    (join_providerStoragePrefix hns hname hg hD).1]
  exact fun h => hfg (by simpa [String.ext_iff] using h)

/-- The file names `internalProviderPath` gives a release's archive, manifest and signature are
plain names when the provider's name, the version, the OS and the architecture have no `/`. -/
theorem isName_release_files {name version os arch : String} (hn : '/' ∉ name.data)
    (hver : '/' ∉ version.data) (hos : '/' ∉ os.data) (harch : '/' ∉ arch.data) :
    IsName ("terraform-provider-" ++ name ++ "_" ++ version ++ "_" ++ os ++ "_" ++ arch ++ ".zip") ∧
      IsName ("terraform-provider-" ++ name ++ "_" ++ version ++ "_SHA256SUMS") ∧
      IsName ("terraform-provider-" ++ name ++ "_" ++ version ++ "_SHA256SUMS.sig") := by
  have h19 : "terraform-provider-".length = 19 := rfl
  refine ⟨isName_of_two_lt_length ?_ ?_, isName_of_two_lt_length ?_ ?_,
    isName_of_two_lt_length ?_ ?_⟩ <;>
    simp only [String.length_append, String.data_append, List.mem_append, not_or, hn, hver, hos,
      harch, not_false_eq_true, and_true, h19] <;>
    first | omega | decide

/-- The last character of `a ++ b`, for a non-empty `b`, is the last character of `b`. -/
theorem head_reverse_data_append (a : String) {b : String} (hb : b ≠ "") :
    (a ++ b).data.reverse.head? = b.data.reverse.head? := by
  rw [String.data_append, List.reverse_append, List.head?_append]
  cases h : b.data.reverse with
  | nil => exact absurd (String.ext (List.reverse_eq_nil_iff.mp h)) hb
  | cons c cs => rfl

/-- A release's archive, manifest and signature have different names: their last characters
differ. -/
theorem release_files_ne (name version os arch : String) :
    "terraform-provider-" ++ name ++ "_" ++ version ++ "_" ++ os ++ "_" ++ arch ++ ".zip" ≠
        "terraform-provider-" ++ name ++ "_" ++ version ++ "_SHA256SUMS" ∧
      "terraform-provider-" ++ name ++ "_" ++ version ++ "_" ++ os ++ "_" ++ arch ++ ".zip" ≠
        "terraform-provider-" ++ name ++ "_" ++ version ++ "_SHA256SUMS.sig" ∧
      "terraform-provider-" ++ name ++ "_" ++ version ++ "_SHA256SUMS" ≠
        "terraform-provider-" ++ name ++ "_" ++ version ++ "_SHA256SUMS.sig" := by
  refine ⟨?_, ?_, ?_⟩ <;> intro h <;>
    have := congrArg (fun t : String => t.data.reverse.head?) h <;>
    simp only [head_reverse_data_append _ (show ".zip" ≠ "" by decide),
      head_reverse_data_append _ (show "_SHA256SUMS" ≠ "" by decide),
      head_reverse_data_append _ (show "_SHA256SUMS.sig" ≠ "" by decide)] at this <;>
    exact absurd this (by decide)

/-- The keys `GetProvider` reads a release from are the keys `UploadProviderReleaseFiles` writes
the release's archive, manifest and signature to, under the names `internalProviderPath` gives
them. -/
theorem internalProviderPath_eq_upload_keys {pfx ns name version os arch D : String}
    (hns : IsName ns) (hname : IsName name) (hver : '/' ∉ version.data) (hos : '/' ∉ os.data)
    (harch : '/' ∉ arch.data)
    (hD : providerStoragePrefix pfx internalProviderType "" ns name = .ok D) :
    internalProviderPath pfx ns name version os arch = .ok
      (Filepath.join [D, "terraform-provider-" ++ name ++ "_" ++ version ++ "_" ++ os ++ "_" ++
          arch ++ ".zip"],
        Filepath.join [D, "terraform-provider-" ++ name ++ "_" ++ version ++ "_SHA256SUMS"],
        Filepath.join [D,
          "terraform-provider-" ++ name ++ "_" ++ version ++ "_SHA256SUMS.sig"]) := by
  obtain ⟨hA, hM, hS⟩ := isName_release_files hname.2.2.2 hver hos harch
  have key : ∀ {f}, IsName f → GoPath.join [D, f] = Filepath.join [D, f] := fun hf => by
    obtain ⟨h₁, h₂⟩ := join_providerStoragePrefix hns hname hf hD
    rw [h₁, h₂]
  simp only [internalProviderPath, hD, bind, Except.bind, pure, Except.pure, key hA, key hM,
    key hS]

/-! ### What the version collection lists -/

namespace Collection

/-- The collection lists platform `pl` under version `v`. -/
def Has (c : Collection) (v : String) (pl : Core.Platform) : Prop :=
  ∃ vp ∈ c.versions, vp.1 = v ∧ pl ∈ vp.2

/-- Every version of the collection is listed once. -/
def NoDupVersions (c : Collection) : Prop := (c.versions.map Prod.fst).Nodup

/-- `Add` lists the provider's platform under its version and keeps everything listed. -/
theorem has_add {c : Collection} {p : Core.Provider} {v : String} {pl : Core.Platform} :
    (c.add p).Has v pl ↔ c.Has v pl ∨ v = p.Version ∧ pl = ⟨p.OS, p.Arch⟩ := by
  unfold add Has
  split
  · rename_i hany
    obtain ⟨vp₀, hvp₀, heq₀⟩ := List.any_eq_true.mp hany
    simp only [List.mem_map, exists_exists_and_eq_and]
    constructor
    · rintro ⟨vp, hvp, hv, hpl⟩
      by_cases hnew : vp.1 = p.Version ∧ (⟨p.OS, p.Arch⟩ : Core.Platform) ∉ vp.2
      · rw [if_pos hnew] at hv hpl
        rcases List.mem_append.mp hpl with hpl | hpl
        · exact .inl ⟨vp, hvp, hv, hpl⟩
        · exact .inr ⟨hv ▸ hnew.1, List.mem_singleton.mp hpl⟩
      · rw [if_neg hnew] at hv hpl
        exact .inl ⟨vp, hvp, hv, hpl⟩
    · rintro (⟨vp, hvp, hv, hpl⟩ | ⟨rfl, rfl⟩)
      · refine ⟨vp, hvp, ?_⟩
        split <;> simp [hv, hpl]
      · refine ⟨vp₀, hvp₀, ?_⟩
        have h₀ : vp₀.1 = p.Version := by simpa using heq₀
        split
        · simp [h₀]
        · rename_i hold
          exact ⟨h₀, by simpa [h₀] using hold⟩
  · rename_i hany
    simp only [List.mem_append, List.mem_singleton]
    constructor
    · rintro ⟨vp, hvp | rfl, hv, hpl⟩
      · exact .inl ⟨vp, hvp, hv, hpl⟩
      · exact .inr ⟨hv.symm, List.mem_singleton.mp hpl⟩
    · rintro (⟨vp, hvp, hv, hpl⟩ | ⟨rfl, rfl⟩)
      · exact ⟨vp, .inl hvp, hv, hpl⟩
      · exact ⟨_, .inr rfl, rfl, List.mem_singleton_self _⟩

theorem NoDupVersions.add {c : Collection} (h : c.NoDupVersions) (p : Core.Provider) :
    (c.add p).NoDupVersions := by
  unfold Collection.add NoDupVersions at *
  split
  · rw [List.map_map]
    convert h using 2
    funext vp
    simp only [Function.comp_apply]
    split <;> rfl
  · rename_i hany
    rw [List.map_append, List.nodup_append]
    refine ⟨h, List.nodup_singleton _, ?_⟩
    simp only [List.map_cons, List.map_nil, List.disjoint_singleton, List.mem_map, not_exists,
      not_and]
    intro vp hvp heq
    exact hany (List.any_eq_true.mpr ⟨vp, hvp, by simp [heq]⟩)

theorem has_foldl_add (ps : List Core.Provider) (c : Collection) {v : String}
    {pl : Core.Platform} : (ps.foldl add c).Has v pl ↔
      c.Has v pl ∨ ∃ p ∈ ps, v = p.Version ∧ pl = ⟨p.OS, p.Arch⟩ := by
  induction ps generalizing c with
  | nil => simp
  | cons p ps ih =>
    simp only [List.foldl_cons, ih, has_add, or_assoc, List.mem_cons, exists_eq_or_imp]

/-- What `List` returns lists exactly what the collection has. -/
theorem mem_list_iff (c : Collection) (v : String) (pl : Core.Platform) :
    (∃ pv ∈ c.list, pv.Version = v ∧ pl ∈ pv.Platforms) ↔ c.Has v pl := by
  simp only [list, (List.mergeSort_perm _ _).mem_iff, List.mem_map, Has]
  constructor
  · rintro ⟨_, ⟨vp, hvp, rfl⟩, hv, hpl⟩
    exact ⟨vp, hvp, hv, (List.mergeSort_perm _ _).mem_iff.mp hpl⟩
  · rintro ⟨vp, hvp, hv, hpl⟩
    exact ⟨_, ⟨vp, hvp, rfl⟩, hv, (List.mergeSort_perm _ _).mem_iff.mpr hpl⟩

/-- The shape `Add` keeps: each version listed once, and each platform of a version once. -/
structure Grouped (c : Collection) : Prop where
  versions : c.NoDupVersions
  platforms : c.NoDupPlatforms

theorem grouped_newCollection : newCollection.Grouped :=
  ⟨by simp [NoDupVersions, newCollection], noDupPlatforms_newCollection⟩

theorem Grouped.foldl_add {c : Collection} (h : c.Grouped) (ps : List Core.Provider) :
    (ps.foldl add c).Grouped := by
  induction ps generalizing c with
  | nil => exact h
  | cons p ps ih => exact ih ⟨h.versions.add p, h.platforms.add p⟩

/-- What `List` returns lists each version once. -/
theorem NoDupVersions.list {c : Collection} (h : c.NoDupVersions) :
    (c.list.map (·.Version)).Nodup := by
  rw [Collection.list, ((List.mergeSort_perm _ _).map _).nodup_iff, List.map_map]
  exact h

end Collection

/-- The collection of the listing's accepted archives lists exactly their version and platform
pairs. -/
theorem acceptedCollection_has (keys : List String) (v : String) (pl : Core.Platform) :
    (acceptedCollection keys).Has v pl ↔ ∃ k ∈ keys, ∃ p, Core.newProviderFromArchive k = .ok p ∧
      p.Version = v ∧ (⟨p.OS, p.Arch⟩ : Core.Platform) = pl := by
  rw [acceptedCollection, Collection.has_foldl_add]
  simp only [newCollection, Collection.Has, List.not_mem_nil, false_and, exists_false, false_or,
    List.mem_filterMap]
  constructor
  · rintro ⟨p, ⟨k, hk, hkp⟩, rfl, rfl⟩
    refine ⟨k, hk, p, ?_, rfl, rfl⟩
    cases h : Core.newProviderFromArchive k <;> simp_all [Except.toOption]
  · rintro ⟨k, hk, p, hkp, rfl, rfl⟩
    exact ⟨p, ⟨k, hk, by simp [hkp, Except.toOption]⟩, rfl, rfl⟩


/-- The key parser reads a file of plain name uploaded to a provider's directory back to the
provider's namespace and name and to the version, OS and architecture of the file name. -/
theorem newProviderFromArchive_upload_key {pfx ns name D f version os arch : String}
    (hns : IsName ns) (hname : IsName name) (hf : IsName f)
    (harchive : Core.archiveFields f = some (version, os, arch))
    (hD : providerStoragePrefix pfx internalProviderType "" ns name = .ok D) :
    Core.newProviderFromArchive (Filepath.join [D, f]) =
      .ok { Namespace := ns, Name := name, Version := version, OS := os, Arch := arch,
            Filename := f, Shasum := "", DownloadURL := "", SHASumsURL := "",
            SHASumsSignatureURL := "", SigningKeys := ⟨[]⟩ } := by
  obtain ⟨-, pre, hseg⟩ := segments_providerStoragePrefix (by decide) hns hname hD
  rw [(join_providerStoragePrefix hns hname hf hD).1, Core.newProviderFromArchive,
    segments_append_slash, hseg, segments_of_slash_not_mem hf.2.2.2]
  simp [harchive]

namespace S3Storage

variable (s : S3Storage)

/-- A listing `ListProviderVersions` returns is the list of the collection of the accepted
archives among the keys of the provider's directory. -/
theorem listProviderVersions_eq_ok {ns name : String} {paginate : Paginator} {w : World}
    {l : List Core.ProviderVersion}
    (h : Go.value? (s.listProviderVersions ns name paginate) w = some (.ok l)) :
    ∃ D, providerStoragePrefix s.bucketPrefix internalProviderType "" ns name = .ok D ∧
      l = (acceptedCollection (Pages.split (paginate (D ++ "/"))).1).list := by
  rw [Go.value?, listProviderVersions_apply] at h
  rcases hD : providerStoragePrefix s.bucketPrefix internalProviderType "" ns name with err | D
  · simp [hD] at h
  · simp only [hD] at h
    rcases hp : (Pages.split (paginate (D ++ "/"))).2 with _ | e
    · simp only [hp] at h
      split_ifs at h
      · cases h
      · cases h
        exact ⟨D, rfl, by rw [acceptedCollection, foldl_addArchive_eq]⟩
    · simp [hp] at h

/-- When no page fails and some key is an archive, `ListProviderVersions` returns the list of the
collection of the accepted archives. -/
theorem listProviderVersions_of_accepted {ns name D : String}
    (hD : providerStoragePrefix s.bucketPrefix internalProviderType "" ns name = .ok D)
    {paginate : Paginator} (hp : (Pages.split (paginate (D ++ "/"))).2 = none) {k : String}
    {p : Core.Provider} (hk : k ∈ (Pages.split (paginate (D ++ "/"))).1)
    (hkp : Core.newProviderFromArchive k = .ok p) (w : World) :
    Go.value? (s.listProviderVersions ns name paginate) w =
      some (.ok (acceptedCollection (Pages.split (paginate (D ++ "/"))).1).list) := by
  have hne : ((Pages.split (paginate (D ++ "/"))).1.foldl addArchive newCollection).list ≠ [] := by
    rw [foldl_addArchive_eq]
    exact fun h => (acceptedCollection_list_eq_nil _).mp h k hk p hkp
  simp [Go.value?, listProviderVersions_apply, hD, hp, hne]
  rw [acceptedCollection, foldl_addArchive_eq]

/-- `ListProviderVersions` groups by version. What it returns lists each version once and each
platform of a version once, and it lists a version with a platform exactly when some key of the
provider's directory is an archive of that version and platform. -/
theorem listProviderVersions_groups_versions {ns name : String} {paginate : Paginator}
    {w : World} {l : List Core.ProviderVersion}
    (h : Go.value? (s.listProviderVersions ns name paginate) w = some (.ok l)) :
    ∃ D, providerStoragePrefix s.bucketPrefix internalProviderType "" ns name = .ok D ∧
      (l.map (·.Version)).Nodup ∧ (∀ pv ∈ l, pv.Platforms.Nodup) ∧
      ∀ v pl, (∃ pv ∈ l, pv.Version = v ∧ pl ∈ pv.Platforms) ↔
        ∃ k ∈ (Pages.split (paginate (D ++ "/"))).1, ∃ p, Core.newProviderFromArchive k = .ok p ∧
          p.Version = v ∧ (⟨p.OS, p.Arch⟩ : Core.Platform) = pl := by
  obtain ⟨D, hD, rfl⟩ := s.listProviderVersions_eq_ok h
  have hg := Collection.grouped_newCollection.foldl_add
    ((Pages.split (paginate (D ++ "/"))).1.filterMap fun key =>
      (Core.newProviderFromArchive key).toOption)
  exact ⟨D, hD, hg.versions.list, hg.platforms.list, fun v pl => by
    rw [Collection.mem_list_iff, acceptedCollection_has]⟩

/-- The `tls` provider's directory holds two archives of `1.0.0` and the version's manifest,
which is not an archive. -/
def tlsDirectoryListing : Paginator := fun _ =>
  [.ok ["providers/acme/tls/terraform-provider-tls_1.0.0_SHA256SUMS",
    "providers/acme/tls/terraform-provider-tls_1.0.0_darwin_arm64.zip",
    "providers/acme/tls/terraform-provider-tls_1.0.0_linux_amd64.zip"]]

/-- The listing of `tlsDirectoryListing` succeeds: its archives are accepted and its manifest is
skipped. -/
theorem listProviderVersions_groups_versions_tls :
    ∃ l, Go.value? ((newS3Storage "registry" []).listProviderVersions "acme" "tls"
        tlsDirectoryListing) World.empty = some (.ok l) ∧
      ∃ D, providerStoragePrefix "" internalProviderType "" "acme" "tls" = .ok D ∧
        (l.map (·.Version)).Nodup ∧ (∀ pv ∈ l, pv.Platforms.Nodup) ∧
        ∀ v pl, (∃ pv ∈ l, pv.Version = v ∧ pl ∈ pv.Platforms) ↔
          ∃ k ∈ (Pages.split (tlsDirectoryListing (D ++ "/"))).1, ∃ p,
            Core.newProviderFromArchive k = .ok p ∧ p.Version = v ∧
              (⟨p.OS, p.Arch⟩ : Core.Platform) = pl :=
  have h := @S3Storage.listProviderVersions_of_accepted (newS3Storage "registry" []) "acme" "tls"
    "providers/acme/tls" rfl tlsDirectoryListing rfl
    "providers/acme/tls/terraform-provider-tls_1.0.0_darwin_arm64.zip" _ (by decide) rfl
    World.empty
  ⟨_, h, (newS3Storage "registry" []).listProviderVersions_groups_versions h⟩

/-- With nothing failing, an upload of a provider file into a key that holds nothing returns nil,
stores the file there, and leaves a world where nothing fails. -/
theorem uploadProviderReleaseFiles_stores {w : World} (hw : w.Reliable)
    {ns name filename D : String} (hns : ns ≠ "") (hname : name ≠ "") (hfile : filename ≠ "")
    (hD : providerStoragePrefix s.bucketPrefix internalProviderType "" ns name = .ok D)
    (habsent : w.bucket (Filepath.join [D, filename]) = none) (file : Blob) :
    Go.value? (s.uploadProviderReleaseFiles ns name filename file) w = some (.ok ()) ∧
      (Go.after (s.uploadProviderReleaseFiles ns name filename file) w).Reliable ∧
      (Go.after (s.uploadProviderReleaseFiles ns name filename file) w).bucket =
        Function.update w.bucket (Filepath.join [D, filename]) (some file) := by
  have h := s.uploadProviderReleaseFiles_of_absent hw hns hname hfile hD habsent file
  simp [Go.value?, Go.after_ok h, h, hw]

/-- With nothing failing, an archive of plain file name that `UploadProviderReleaseFiles` stores
for a provider of plain namespace and name is listed, with its version and platform, by
`ListProviderVersions` whenever the listing of the provider's directory is complete. -/
theorem uploadProviderReleaseFiles_then_listProviderVersions {w : World} (hw : w.Reliable)
    {ns name filename version os arch D : String} (hns : IsName ns) (hname : IsName name)
    (hfile : IsName filename) (harchive : Core.archiveFields filename = some (version, os, arch))
    (hD : providerStoragePrefix s.bucketPrefix internalProviderType "" ns name = .ok D)
    (habsent : w.bucket (Filepath.join [D, filename]) = none) (file : Blob)
    (paginate : Paginator)
    (hl : Lists (Go.after (s.uploadProviderReleaseFiles ns name filename file) w).bucket
      (D ++ "/") (paginate (D ++ "/"))) :
    ∃ l, Go.value? (s.listProviderVersions ns name paginate)
        (Go.after (s.uploadProviderReleaseFiles ns name filename file) w) = some (.ok l) ∧
      ∃ pv ∈ l, pv.Version = version ∧ (⟨os, arch⟩ : Core.Platform) ∈ pv.Platforms := by
  obtain ⟨-, -, hb⟩ := s.uploadProviderReleaseFiles_stores hw hns.1 hname.1 hfile.1 hD habsent file
  obtain ⟨hpage, -, hmem⟩ := hl
  have hkey : Filepath.join [D, filename] ∈ (Pages.split (paginate (D ++ "/"))).1 := by
    refine (hmem _).mpr ⟨⟨filename.data, ?_⟩, by simp [hb]⟩
    simp [(join_providerStoragePrefix hns hname hfile hD).1]
  have hp := newProviderFromArchive_upload_key hns hname hfile harchive hD
  refine ⟨_, s.listProviderVersions_of_accepted hD hpage hkey hp _, ?_⟩
  rw [Collection.mem_list_iff, acceptedCollection_has]
  exact ⟨_, hkey, _, hp, rfl, rfl⟩

/-- The `tls` release's archive, uploaded into an empty bucket, is listed with its platform. -/
theorem uploadProviderReleaseFiles_then_listProviderVersions_tls :
    ∃ l, Go.value? ((newS3Storage "registry" []).listProviderVersions "acme" "tls"
        fun _ => [.ok ["providers/acme/tls/terraform-provider-tls_1.0.0_linux_amd64.zip"]])
        (Go.after ((newS3Storage "registry" []).uploadProviderReleaseFiles "acme" "tls"
          "terraform-provider-tls_1.0.0_linux_amd64.zip" "zip") World.empty) = some (.ok l) ∧
      ∃ pv ∈ l, pv.Version = "1.0.0" ∧ (⟨"linux", "amd64"⟩ : Core.Platform) ∈ pv.Platforms :=
  have hw : World.empty.Reliable := fun _ _ => rfl
  have hD : providerStoragePrefix "" internalProviderType "" "acme" "tls" =
      .ok "providers/acme/tls" := rfl
  have hkey : Filepath.join ["providers/acme/tls", "terraform-provider-tls_1.0.0_linux_amd64.zip"] =
      "providers/acme/tls/terraform-provider-tls_1.0.0_linux_amd64.zip" := by decide
  have hup := (newS3Storage "registry" []).uploadProviderReleaseFiles_of_absent hw (by decide)
    (by decide) (by decide) hD (show World.empty.bucket (Filepath.join ["providers/acme/tls",
      "terraform-provider-tls_1.0.0_linux_amd64.zip"]) = none from rfl) "zip"
  (newS3Storage "registry" []).uploadProviderReleaseFiles_then_listProviderVersions hw
    (by decide) (by decide) (by decide) (by decide) hD rfl "zip" _
    (lists_singleton (by decide) (by decide) fun k => by
      rw [Go.after_ok hup, hkey]
      by_cases hk : k = "providers/acme/tls/terraform-provider-tls_1.0.0_linux_amd64.zip" <;>
        simp [hk, World.empty])


/-- Publishing a release of plain coordinates, in a world where nothing fails: its archive,
manifest and signature are uploaded, in that order, under the names `internalProviderPath` gives
them and into keys that held nothing. Each upload returns nil and stores its file. `GetProvider`
then answers with the digest the manifest gives the archive and with the namespace's signing
keys, and presigns exactly the three keys the uploads wrote. -/
theorem uploadProviderRelease_then_getProvider
    (unmarshalSigningKeys : Blob → Except String Core.SigningKeys) {w : World} (hw : w.Reliable)
    {ns name version os arch D : String} (hns : IsName ns) (hname : IsName name)
    (hver : '/' ∉ version.data) (hos : '/' ∉ os.data) (harch : '/' ∉ arch.data)
    (hD : providerStoragePrefix s.bucketPrefix internalProviderType "" ns name = .ok D)
    {raw : Blob} {keys : Core.SigningKeys}
    (hraw : w.bucket (signingKeysPath s.bucketPrefix ns) = some raw)
    (hkeys : unmarshalSigningKeys raw = .ok keys) (archive manifest signature : Blob)
    {digest : String} :
    let fA := "terraform-provider-" ++ name ++ "_" ++ version ++ "_" ++ os ++ "_" ++ arch ++ ".zip"
    let fM := "terraform-provider-" ++ name ++ "_" ++ version ++ "_SHA256SUMS"
    let fS := "terraform-provider-" ++ name ++ "_" ++ version ++ "_SHA256SUMS.sig"
    readSHASums manifest fA = .ok digest →
    (∀ f ∈ [fA, fM, fS], w.bucket (Filepath.join [D, f]) = none) →
    let w₁ := Go.after (s.uploadProviderReleaseFiles ns name fA archive) w
    let w₂ := Go.after (s.uploadProviderReleaseFiles ns name fM manifest) w₁
    let w₃ := Go.after (s.uploadProviderReleaseFiles ns name fS signature) w₂
    Go.value? (s.uploadProviderReleaseFiles ns name fA archive) w = some (.ok ()) ∧
      Go.value? (s.uploadProviderReleaseFiles ns name fM manifest) w₁ = some (.ok ()) ∧
      Go.value? (s.uploadProviderReleaseFiles ns name fS signature) w₂ = some (.ok ()) ∧
      Go.value? (s.getProvider unmarshalSigningKeys ns name version os arch) w₃ = some (.ok
        ⟨ns, name, version, os, arch, fA, digest, presignedGetURL s.bucket (Filepath.join [D, fA]),
          presignedGetURL s.bucket (Filepath.join [D, fM]),
          presignedGetURL s.bucket (Filepath.join [D, fS]), keys⟩) ∧
      w₃.bucket (Filepath.join [D, fA]) = some archive ∧
      w₃.bucket (Filepath.join [D, fM]) = some manifest ∧
      w₃.bucket (Filepath.join [D, fS]) = some signature := by
  intro fA fM fS hsum habsent
  dsimp only
  obtain ⟨hA, hM, hS⟩ : IsName fA ∧ IsName fM ∧ IsName fS :=
    isName_release_files hname.2.2.2 hver hos harch
  obtain ⟨hAM, hAS, hMS⟩ := release_files_ne name version os arch
  replace hAM := join_providerStoragePrefix_ne hns hname hA hM hD hAM
  replace hAS := join_providerStoragePrefix_ne hns hname hA hS hD hAS
  replace hMS := join_providerStoragePrefix_ne hns hname hM hS hD hMS
  obtain ⟨h₁, hw₁, hb₁⟩ := s.uploadProviderReleaseFiles_stores hw hns.1 hname.1 hA.1 hD
    (habsent fA (by simp)) archive
  obtain ⟨h₂, hw₂, hb₂⟩ := s.uploadProviderReleaseFiles_stores hw₁ hns.1 hname.1 hM.1 hD
    (by rw [hb₁, Function.update_noteq hAM.symm]; exact habsent fM (by simp)) manifest
  obtain ⟨h₃, hw₃, hb₃⟩ := s.uploadProviderReleaseFiles_stores hw₂ hns.1 hname.1 hS.1 hD
    (by rw [hb₂, Function.update_noteq hMS.symm, hb₁, Function.update_noteq hAS.symm]
        exact habsent fS (by simp)) signature
  -- The signing keys are stored, so their key is none of the three the uploads found empty.
  have hsk : ∀ f ∈ [fA, fM, fS], signingKeysPath s.bucketPrefix ns ≠ Filepath.join [D, f] :=
    fun f hf h => by simp [h, habsent f hf] at hraw
  have hbase : GoPath.base (Filepath.join [D, fA]) = fA := by
    rw [(join_providerStoragePrefix hns hname hA hD).1, GoPath.base_append_name hA]
  refine ⟨h₁, h₂, h₃, ?_, by simp [hb₃, hb₂, hb₁, Function.update_apply, hAS, hAM],
    by simp [hb₃, hb₂, Function.update_apply, hMS], by simp [hb₃]⟩
  rw [s.getProvider_of_reliable _ hw₃ (internalProviderPath_eq_upload_keys hns hname hver hos
    harch hD)]
  simp [hb₃, hb₂, hb₁, Function.update_apply, hMS, hbase, hsum, hsk, hraw, hkeys]

end S3Storage

/-- A bucket that holds only the `acme` namespace's signing keys. -/
def acmeKeysWorld : World := World.empty.put "providers/acme/signing_keys.json" "keys"

/-- The `tls` release published into `acmeKeysWorld` is served as `tlsProvider`. -/
theorem uploadProviderRelease_then_getProvider_tls :
    Go.value? ((newS3Storage "registry" []).getProvider decodeTlsKeys "acme" "tls" "1.0.0" "linux"
        "amd64") (Go.after ((newS3Storage "registry" []).uploadProviderReleaseFiles "acme" "tls"
          "terraform-provider-tls_1.0.0_SHA256SUMS.sig" "sig")
        (Go.after ((newS3Storage "registry" []).uploadProviderReleaseFiles "acme" "tls"
          "terraform-provider-tls_1.0.0_SHA256SUMS"
            "c0ffee  terraform-provider-tls_1.0.0_linux_amd64.zip\n")
        (Go.after ((newS3Storage "registry" []).uploadProviderReleaseFiles "acme" "tls"
          "terraform-provider-tls_1.0.0_linux_amd64.zip" "zip") acmeKeysWorld))) =
      some (.ok tlsProvider) :=
  (@S3Storage.uploadProviderRelease_then_getProvider (newS3Storage "registry" []) decodeTlsKeys
    acmeKeysWorld (fun _ _ => rfl) "acme" "tls" "1.0.0" "linux" "amd64" "providers/acme/tls"
    (by decide) (by decide) (by decide) (by decide) (by decide) rfl "keys"
    ⟨[⟨"51852D87348FFC4C", "armor"⟩]⟩ (by decide) rfl "zip"
    "c0ffee  terraform-provider-tls_1.0.0_linux_amd64.zip\n" "sig" "c0ffee" (by decide)
    (by decide)).2.2.2.1

end BoringRegistry
