import BoringRegistry.Storage.Specs

/-!
# Where provider release files land

`UploadProviderReleaseFiles` stores a release file under `filepath.Join(D, filename)`, where `D`
is the provider's directory `providerStoragePrefix(prefix, "providers", "", namespace, name)` and
the filename comes from the caller, checked only to be non-empty. `filepath.Join` cleans the
joined path, so a `..` segment of the filename climbs out of `D`: the upload can land in another
namespace's directory, the modules tree, or a signing-keys key.

Without a `..` segment, cleaning only drops the filename's empty and `.` segments, and the file
lands strictly below `D`, provided the filename keeps a segment and `D` itself is not the cleaned
root `/` or `.` (which coordinates such as `..` can make it).

## Main results

* `uploadProviderReleaseFiles_effect` — an upload sends a HEAD and at most one upload, of one
  key, and changes the bucket at that key only
* `uploadProviderReleaseFiles_escapes_directory` — a filename with `..` writes into another
  namespace's directory
* `uploadProviderReleaseFiles_dot_filename`, `uploadProviderReleaseFiles_dot_directory`,
  `uploadProviderReleaseFiles_root_directory` — a filename with no kept segment, or a directory
  cleaned to `.` or `/`, writes a key that `D/` does not prefix
* `uploadProviderReleaseFiles_within_directory` — a filename without `..` writes strictly below
  the provider's directory
-/

namespace BoringRegistry

open GoPath

/-- The directory `providerStoragePrefix` builds is its own cleaning. -/
theorem clean_providerStoragePrefix {pfx typ hostname ns name D : String} (htyp : typ ≠ "")
    (h : providerStoragePrefix pfx typ hostname ns name = .ok D) : clean D = D := by
  unfold providerStoragePrefix at h
  split_ifs at h
  cases h
  exact clean_join (by simp [htyp])

namespace S3Storage

variable (s : S3Storage)

/-- An upload of a release file sends a HEAD of its key and at most one upload, of that key, and
changes the bucket at most by storing the file there. -/
theorem uploadProviderReleaseFiles_effect {ns name filename D : String} (hns : ns ≠ "")
    (hname : name ≠ "") (hfile : filename ≠ "")
    (hD : providerStoragePrefix s.bucketPrefix internalProviderType "" ns name = .ok D)
    (file : Blob) (w : World) :
    let key := Filepath.join [D, filename]
    let w' := Go.after (s.uploadProviderReleaseFiles ns name filename file) w
    (∀ r ∈ w'.sent.drop w.sent.length,
      r = .headObject s.bucket key ∨ r = .upload s.bucket key file) ∧
    (w'.bucket = w.bucket ∨ w'.bucket = Function.update w.bucket key (some file)) := by
  dsimp only
  rw [Go.after, s.uploadProviderReleaseFiles_apply hns hname hfile hD, objectExists_apply]
  rcases hf : w.faultOf (.headObject s.bucket (Filepath.join [D, filename])) with _ | e
  · rcases hb : (w.bucket (Filepath.join [D, filename])).isSome with _ | _ <;> simp
    rcases (w.record (.headObject s.bucket (Filepath.join [D, filename]))).faultOf
      (.upload s.bucket (Filepath.join [D, filename]) file) with _ | e <;> simp
  · by_cases h404 : e.status = some 404 <;> simp [h404]
    rcases (w.record (.headObject s.bucket (Filepath.join [D, filename]))).faultOf
      (.upload s.bucket (Filepath.join [D, filename]) file) with _ | e <;> simp

end S3Storage

/-- A release filename that starts with `../..` writes the file into another namespace's
directory: the upload of `acme/tls` succeeds and stores the archive under `evil/tls`. -/
theorem uploadProviderReleaseFiles_escapes_directory :
    let s := newS3Storage "registry" []
    let filename := "../../evil/tls/terraform-provider-tls_1.0.0_linux_amd64.zip"
    let w' := Go.after (s.uploadProviderReleaseFiles "acme" "tls" filename "archive") World.empty
    providerStoragePrefix s.bucketPrefix internalProviderType "" "acme" "tls" =
        .ok "providers/acme/tls" ∧
      Go.value? (s.uploadProviderReleaseFiles "acme" "tls" filename "archive") World.empty =
        some (.ok ()) ∧
      w'.bucket "providers/evil/tls/terraform-provider-tls_1.0.0_linux_amd64.zip" = some "archive" ∧
      ¬ ("providers/acme/tls/".data <+:
        "providers/evil/tls/terraform-provider-tls_1.0.0_linux_amd64.zip".data) := by
  decide

/-- The filename `.` is cleaned away: the upload of `acme/tls` stores the file at the provider's
directory itself, which is not below it. -/
theorem uploadProviderReleaseFiles_dot_filename :
    Go.value? ((newS3Storage "registry" []).uploadProviderReleaseFiles "acme" "tls" "." "archive")
        World.empty = some (.ok ()) ∧
      (Go.after ((newS3Storage "registry" []).uploadProviderReleaseFiles "acme" "tls" "."
        "archive") World.empty).bucket "providers/acme/tls" = some "archive" ∧
      ¬ ("providers/acme/tls/".data <+: "providers/acme/tls".data) := by
  decide

/-- Coordinates can make the provider's directory the cleaned `.`: namespace `..` and name `.`
give `D = "."`, and the file `x` lands at `x`, which `./` does not prefix. -/
theorem uploadProviderReleaseFiles_dot_directory :
    providerStoragePrefix "" internalProviderType "" ".." "." = .ok "." ∧
      (Go.after ((newS3Storage "registry" []).uploadProviderReleaseFiles ".." "." "x" "archive")
        World.empty).bucket "x" = some "archive" ∧
      ¬ ("./".data <+: "x".data) := by
  decide

/-- Under the bucket prefix `/` the same coordinates give `D = "/"`, and the file `x` lands at
`/x`, which `//` does not prefix. -/
theorem uploadProviderReleaseFiles_root_directory :
    providerStoragePrefix "/" internalProviderType "" ".." "." = .ok "/" ∧
      (Go.after (S3Storage.uploadProviderReleaseFiles
        (newS3Storage "registry" [withS3StorageBucketPrefix "/"]) ".." "." "x" "archive")
        World.empty).bucket "/x" = some "archive" ∧
      ¬ ("//".data <+: "/x".data) := by
  decide

namespace S3Storage

variable (s : S3Storage)

/-- A release filename with no `..` segment, and with a segment other than `""` and `.`, lands
strictly below the provider's directory `D`, provided `D` is neither `.` nor `/`: the upload's
requests and its only change to the bucket are at `D`, `/`, and the kept segments of the name. -/
theorem uploadProviderReleaseFiles_within_directory {ns name filename D : String}
    (hns : ns ≠ "") (hname : name ≠ "") (hfile : filename ≠ "")
    (hD : providerStoragePrefix s.bucketPrefix internalProviderType "" ns name = .ok D)
    (hdir : D ≠ "." ∧ D ≠ "/") (hdots : ∀ seg ∈ segments filename, seg ≠ "..")
    (hkept : (segments filename).filter (fun seg => seg != "" && seg != ".") ≠ [])
    (file : Blob) (w : World) :
    let rest := joinSlash ((segments filename).filter fun seg => seg != "" && seg != ".")
    let w' := Go.after (s.uploadProviderReleaseFiles ns name filename file) w
    rest ≠ "" ∧
      (∀ r ∈ w'.sent.drop w.sent.length, r = .headObject s.bucket (D ++ "/" ++ rest) ∨
        r = .upload s.bucket (D ++ "/" ++ rest) file) ∧
      ∀ k, w'.bucket k ≠ w.bucket k → k = D ++ "/" ++ rest := by
  have hclean := clean_providerStoragePrefix (by decide) hD
  have hkey := Filepath.join_of_not_dotdot hclean
    (stack_ne_nil_of_clean_eq hclean hdir.1 hdir.2) hdots hkept
  obtain ⟨hsent, hbucket⟩ := s.uploadProviderReleaseFiles_effect hns hname hfile hD file w
  rw [hkey] at hsent hbucket
  refine ⟨?_, hsent, fun k hk => ?_⟩
  · obtain ⟨seg, segs, hcons⟩ := List.exists_cons_of_ne_nil hkept
    have hseg : seg ≠ "" := by
      have := (List.mem_filter.mp (hcons ▸ List.mem_cons_self seg segs : seg ∈ _)).2
      simp only [Bool.and_eq_true, bne_iff_ne, ne_eq] at this
      exact this.1
    rw [hcons]
    exact joinSlash_cons_ne_empty hseg segs
  · rcases hbucket with h | h
    · exact absurd (congrFun h k) hk
    · by_contra hne
      exact hk (by rw [h, Function.update_noteq hne])

/-- An archive named as the registry names them lands in its provider's directory. -/
theorem uploadProviderReleaseFiles_within_directory_tls :
    let s := newS3Storage "registry" []
    let w' := Go.after (s.uploadProviderReleaseFiles "acme" "tls"
      "terraform-provider-tls_1.0.0_linux_amd64.zip" "archive") World.empty
    ∀ k, w'.bucket k ≠ World.empty.bucket k →
      k = "providers/acme/tls" ++ "/" ++ joinSlash ((segments
        "terraform-provider-tls_1.0.0_linux_amd64.zip").filter fun seg => seg != "" && seg != ".") :=
  ((newS3Storage "registry" []).uploadProviderReleaseFiles_within_directory (by decide)
    (by decide) (by decide) (by decide) (by decide) (by decide) (by decide) "archive"
    World.empty).2.2

end S3Storage

end BoringRegistry
