import BoringRegistry.Go.Path
import BoringRegistry.Go.Errors

/-!
# The registry's entities

Package `core` holds the records the storage returns: modules, providers, provider versions and
signing keys, with the fields the storage reads or writes. Its one function the storage calls,
`core.NewProviderFromArchive`, is not part of the available source; it is modelled from the
specification's file-name convention for provider archives.

## Main definitions

* `Core.Module`, `Core.Provider`, `Core.ProviderVersion`, `Core.SigningKeys`
* `Core.newProviderFromArchive` — reading a provider artifact back from its key
-/

namespace BoringRegistry

namespace Core

/-- `core.Module`. -/
structure Module where
  Namespace : String
  Name : String
  Provider : String
  Version : String
  DownloadURL : String
  deriving DecidableEq, Repr

/-- One entry of a namespace's signing keys. -/
structure GPGPublicKey where
  KeyID : String
  ASCIIArmor : String
  deriving DecidableEq, Repr

/-- `core.SigningKeys`: the public keys clients use to check a provider's checksum signature. -/
structure SigningKeys where
  GPGPublicKeys : List GPGPublicKey
  deriving DecidableEq, Repr

/-- `core.Provider`. -/
structure Provider where
  Namespace : String
  Name : String
  Version : String
  OS : String
  Arch : String
  Filename : String
  Shasum : String
  DownloadURL : String
  SHASumsURL : String
  SHASumsSignatureURL : String
  SigningKeys : Core.SigningKeys
  deriving DecidableEq, Repr

/-- `core.Platform`: an operating system and an architecture. -/
structure Platform where
  OS : String
  Arch : String
  deriving DecidableEq, Repr

/-- `core.ProviderVersion`: a version and the platforms it is built for. -/
structure ProviderVersion where
  Version : String
  Platforms : List Platform
  deriving DecidableEq, Repr

/-- The version, OS and architecture of an archive file name
`<binary-name>_<version>_<os>_<arch>.zip`, if it has that form with no part empty. -/
def archiveFields (filename : String) : Option (String × String × String) :=
  if ".zip".data <:+ filename.data then
    match (filename.data.take (filename.data.length - 4)).splitOn '_' with
    | [bin, version, os, arch] =>
      if bin ≠ [] ∧ version ≠ [] ∧ os ≠ [] ∧ arch ≠ [] then
        some (⟨version⟩, ⟨os⟩, ⟨arch⟩)
      else none
    | _ => none
  else none

/-- Modelled from the spec: `core.NewProviderFromArchive`, whose source is not available. A
provider archive lies at `<prefix>/providers/<namespace>/<name>/<filename>`, and `<filename>`
follows `<binary-name>_<version>_<os>_<arch>.zip`. The parser reads namespace and name from the
key path and version, OS and architecture from the file name, and rejects any other file name.
The fields it cannot know keep Go's zero values. -/
def newProviderFromArchive (key : String) : Except Error Provider :=
  match (GoPath.segments key).reverse with
  | filename :: name :: ns :: _ =>
    match archiveFields filename with
    | some (version, os, arch) =>
      .ok { Namespace := ns, Name := name, Version := version, OS := os, Arch := arch,
            Filename := filename, Shasum := "", DownloadURL := "", SHASumsURL := "",
            SHASumsSignatureURL := "", SigningKeys := ⟨[]⟩ }
    | none => .error (.new ("invalid provider archive name: " ++ filename))
  | _ => .error (.new ("invalid provider archive key: " ++ key))

end Core

end BoringRegistry
