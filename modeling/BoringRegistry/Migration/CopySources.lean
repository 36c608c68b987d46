import BoringRegistry.Migration.Plan
import BoringRegistry.S3.CopySource

/-!
# What the migrations' copies read

Both migrations copy a listed key `k` with the copy source `url.PathEscape(path.Join(bucket, k))`,
and by `readCopySource_join` that source reads back as `k` only when every segment of `k` is a
plain name. This module follows that through the two migrations.

* `MigrateModules` copies only the keys `isUnmigratedModule` accepts, and a copy reads its listed
  key exactly when the key's segments are plain names. A key with an empty segment, such as one
  under a bucket prefix with a leading `/`, does not read back as itself.
* `MigrateProviders` copies every listed key in which it finds `namespace=` and `name=` segments,
  and checks nothing else. A copy reads its listed key exactly when the key's segments are plain
  names, so a folder marker, whose key ends in `/`, is copied from the key without the `/`.

## Main results

* `migrateModules_copies_read_listed_keys` — each copy a run of `MigrateModules` sends is for a
  listed unmigrated key, and reads it exactly when the key's segments are plain names
* `migrateProviders_copies_read_listed_keys` — each copy a run of `MigrateProviders` sends is for a
  listed key, and reads it exactly when the key's segments are plain names
* `migrateProviders_copies_from_other_key` — a folder marker under a legacy provider directory is
  copied from another key
-/

namespace BoringRegistry

open GoPath GoUrl

/-! ### The copies of a run -/

/-- What a live run of a plan sends after the requests already sent: copies of the plan. -/
theorem MigrationPlan.sent_copies (bucket : String) (p : MigrationPlan) (w : World) : ∃ sent,
    (Go.after (p.run bucket) w).sent = w.sent ++ sent ∧
      ∀ r ∈ sent, ∃ c ∈ p.copies, r = .copyObject bucket c.1 c.2 := by
  obtain ⟨n, -, hsent, -⟩ := MigrationPlan.run_sent bucket p w
  refine ⟨_, hsent, fun r hr => ?_⟩
  obtain ⟨c, hc, rfl⟩ := List.mem_map.mp hr
  exact ⟨c, List.mem_of_mem_take hc, rfl⟩

/-- Every copy of the providers' plan is from `path.Join(bucket, key)` for one of its keys. -/
theorem mem_providerPlan_copies (s : S3Storage) {c : String × String} : ∀ {keys : List String},
    c ∈ (providerPlan s keys).copies → ∃ k ∈ keys, c.1 = GoPath.join [s.bucket, k]
  | [], h => by simp [providerPlan] at h
  | k :: keys, h => by
    rw [providerPlan] at h
    split at h
    · simp at h
    · rcases List.mem_cons.mp h with rfl | h
      · exact ⟨k, List.mem_cons_self _ _, rfl⟩
      · obtain ⟨k', hk', hc⟩ := mem_providerPlan_copies s h
        exact ⟨k', List.mem_cons_of_mem _ hk', hc⟩

/-! ### A folder marker -/

/-- A folder marker under the legacy directory of the `tls` provider: the empty object the S3
console creates for a folder, whose key ends in `/`. -/
def tlsFolderMarker : String := "providers/namespace=acme/name=tls/"

/-- A bucket holding only that folder marker. -/
def folderMarkerWorld : World := World.empty.put tlsFolderMarker ""

/-! ### The two migrations -/

namespace S3Storage

variable (s : S3Storage)

/-- For a bucket named by a plain name, each copy that a run of `MigrateModules` sends is for a
listed key that `isUnmigratedModule` accepts, and its copy source reads back as that key exactly
when every segment of the key is a plain name. -/
theorem migrateModules_copies_read_listed_keys (hb : IsName s.bucket) (paginate : Paginator)
    (w : World) : ∃ sent, (Go.after (s.migrateModules false paginate) w).sent = w.sent ++ sent ∧
      ∀ r ∈ sent,
        ∃ k ∈ (Pages.split (paginate (GoPath.join [s.bucketPrefix, internalModuleType]))).1,
        isUnmigratedModule s.bucketPrefix k = true ∧ ∃ target,
          r = .copyObject s.bucket (GoPath.join [s.bucket, k]) target ∧
          (readCopySource (pathEscape (utf8 (GoPath.join [s.bucket, k]))) =
              some (utf8 s.bucket, utf8 k) ↔ ∀ seg ∈ segments k, IsName seg) := by
  rw [s.migrateModules_eq paginate]
  obtain ⟨sent, hsent, hcopies⟩ := MigrationPlan.sent_copies s.bucket _ w
  refine ⟨sent, hsent, fun r hr => ?_⟩
  obtain ⟨c, hc, rfl⟩ := hcopies r hr
  simp only [MigrationPlan.ofPages, MigrationPlan.andThen_copies, modulePlan, List.mem_map,
    List.mem_filter] at hc
  obtain ⟨k, ⟨hk, hunm⟩, rfl⟩ := hc
  exact ⟨k, hk, hunm, _, rfl, by rw [readCopySource_pathEscape, copySourceKey_join hb]⟩

/-- `NewS3Storage("registry")`, listing one legacy module key. -/
theorem migrateModules_copies_read_listed_keys_registry :
    IsName (newS3Storage "registry" []).bucket ∧
    ∃ sent, (Go.after ((newS3Storage "registry" []).migrateModules false
        fun _ => [.ok ["modules/namespace=acme/name=tls/provider=aws/version=1.0.0/tls.zip"]])
        World.empty).sent = World.empty.sent ++ sent ∧
      ∀ r ∈ sent, ∃ k ∈ (Pages.split ((fun _ =>
          [.ok ["modules/namespace=acme/name=tls/provider=aws/version=1.0.0/tls.zip"]] : Paginator)
          (GoPath.join [(newS3Storage "registry" []).bucketPrefix, internalModuleType]))).1,
        isUnmigratedModule (newS3Storage "registry" []).bucketPrefix k = true ∧ ∃ target,
          r = .copyObject (newS3Storage "registry" []).bucket
            (GoPath.join [(newS3Storage "registry" []).bucket, k]) target ∧
          (readCopySource
              (pathEscape (utf8 (GoPath.join [(newS3Storage "registry" []).bucket, k]))) =
              some (utf8 (newS3Storage "registry" []).bucket, utf8 k) ↔
            ∀ seg ∈ segments k, IsName seg) :=
  ⟨by decide, (newS3Storage "registry" []).migrateModules_copies_read_listed_keys (by decide) _ _⟩

/-- For a bucket named by a plain name, each copy that a run of `MigrateProviders` sends is for a
listed key, and its copy source reads back as that key exactly when every segment of the key is a
plain name. Nothing in `MigrateProviders` checks that. -/
theorem migrateProviders_copies_read_listed_keys (hb : IsName s.bucket) (paginate : Paginator)
    (w : World) : ∃ sent, (Go.after (s.migrateProviders false paginate) w).sent = w.sent ++ sent ∧
      ∀ r ∈ sent,
        ∃ k ∈ (Pages.split (paginate (GoPath.join [s.bucketPrefix, internalProviderType]))).1,
          ∃ target, r = .copyObject s.bucket (GoPath.join [s.bucket, k]) target ∧
          (readCopySource (pathEscape (utf8 (GoPath.join [s.bucket, k]))) =
              some (utf8 s.bucket, utf8 k) ↔ ∀ seg ∈ segments k, IsName seg) := by
  rw [s.migrateProviders_eq paginate]
  obtain ⟨sent, hsent, hcopies⟩ := MigrationPlan.sent_copies s.bucket _ w
  refine ⟨sent, hsent, fun r hr => ?_⟩
  obtain ⟨⟨source, target⟩, hc, rfl⟩ := hcopies r hr
  obtain ⟨k, hk, rfl⟩ := mem_providerPlan_copies s hc
  exact ⟨k, hk, target, rfl, by rw [readCopySource_pathEscape, copySourceKey_join hb]⟩

/-- `NewS3Storage("registry")`, listing the folder marker. -/
theorem migrateProviders_copies_read_listed_keys_marker :
    IsName (newS3Storage "registry" []).bucket ∧
    ∃ sent, (Go.after ((newS3Storage "registry" []).migrateProviders false
        fun _ => [.ok [tlsFolderMarker]]) folderMarkerWorld).sent = folderMarkerWorld.sent ++ sent ∧
      ∀ r ∈ sent, ∃ k ∈ (Pages.split ((fun _ => [.ok [tlsFolderMarker]] : Paginator)
          (GoPath.join [(newS3Storage "registry" []).bucketPrefix, internalProviderType]))).1,
        ∃ target, r = .copyObject (newS3Storage "registry" []).bucket
            (GoPath.join [(newS3Storage "registry" []).bucket, k]) target ∧
          (readCopySource
              (pathEscape (utf8 (GoPath.join [(newS3Storage "registry" []).bucket, k]))) =
              some (utf8 (newS3Storage "registry" []).bucket, utf8 k) ↔
            ∀ seg ∈ segments k, IsName seg) :=
  ⟨by decide, (newS3Storage "registry" []).migrateProviders_copies_read_listed_keys (by decide) _ _⟩

end S3Storage

/-- `MigrateProviders` over a bucket that holds the folder marker `tlsFolderMarker` accepts it,
since it has `namespace=` and `name=` segments, and sends one copy. Its copy source, percent-decoded
and split at the first `/`, names the key without the trailing `/`, which is not the listed key. The
bucket holds nothing there, so the copy fails and the migration returns S3's error. -/
theorem migrateProviders_copies_from_other_key :
    (Go.after ((newS3Storage "registry" []).migrateProviders false fun _ => [.ok [tlsFolderMarker]])
        folderMarkerWorld).sent =
      [.copyObject "registry" (GoPath.join ["registry", tlsFolderMarker])
        "providers/acme/tls/name=tls"] ∧
    readCopySource (pathEscape (utf8 (GoPath.join ["registry", tlsFolderMarker]))) =
      some (utf8 "registry", utf8 "providers/namespace=acme/name=tls") ∧
    utf8 "providers/namespace=acme/name=tls" ≠ utf8 tlsFolderMarker ∧
    Go.value? ((newS3Storage "registry" []).migrateProviders false fun _ => [.ok [tlsFolderMarker]])
        folderMarkerWorld = some (.error (.sdk SdkError.notFound)) :=
  ⟨by decide, by decide, by decide, by decide⟩

end BoringRegistry
