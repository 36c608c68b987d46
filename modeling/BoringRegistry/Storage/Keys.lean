import BoringRegistry.Core

/-!
# The key scheme

Every module and provider file the registry holds is one object key, and the storage recovers
the registry's metadata by listing and parsing keys. The functions that build and parse keys live
in a part of package `storage` that is not in the available source; they are modelled here from
the specification's layout, which it calls bit-exact:

```
<prefix>/modules/<namespace>/<name>/<provider>/<version>/<name>.<archiveFormat>
<prefix>/providers/<namespace>/<name>/<filename>
```

Keys before the 0.8.0 migration differ in their top-level segment below `modules` or `providers`:
each coordinate is its own `field=value` segment, as in
`modules/namespace=acme/name=tls/provider=aws/version=1.0.0/<file>`. Migration recognises a legacy
key by that shape and skips anything already in the current layout.

## Main definitions

* `modulePathPrefix`, `modulePath`, `moduleFromObject` — module keys and their reverse parser
* `providerStoragePrefix`, `internalProviderPath`, `signingKeysPath` — provider keys
* `isUnmigratedModule`, `migrationTargetPath`, `providerMigrationTargetPath` — migration

## Main results

* `modulePath_eq` — a module key of plain coordinates is the modules root followed by them
* `moduleFromObject_modulePath` — the reverse parser reads such a key back to its coordinates
* `isUnmigratedModule_migrationTargetPath` — a migration target is never itself unmigrated
-/

namespace BoringRegistry

open GoPath

/-- `strings.CutPrefix` on characters: the rest of `s` after `p`, if `s` starts with `p`. -/
def cutPrefix : List Char → List Char → Option (List Char)
  | [], s => some s
  | _ :: _, [] => none
  | c :: p, d :: s => if c = d then cutPrefix p s else none

@[simp] theorem cutPrefix_append (p s : List Char) : cutPrefix p (p ++ s) = some s := by
  induction p with
  | nil => rfl
  | cons c p ih => simp [cutPrefix, ih]

theorem eq_append_of_cutPrefix :
    ∀ {p s r : List Char}, cutPrefix p s = some r → s = p ++ r
  | [], _, _, h => by simp only [cutPrefix, Option.some.injEq] at h; simp [h]
  | _ :: _, [], _, h => by simp [cutPrefix] at h
  | c :: p, d :: s, r, h => by
    simp only [cutPrefix] at h
    split at h
    · subst c; simp [eq_append_of_cutPrefix h]
    · cases h

/-! ### Module keys -/

/-- `internalModuleType`, the kind segment of module keys. -/
def internalModuleType : String := "modules"

/-- `internalProviderType`, the kind segment of provider keys. -/
def internalProviderType : String := "providers"

/-- Modelled from the spec: `DefaultModuleArchiveFormat`, the archive format `tar.gz`. -/
def defaultModuleArchiveFormat : String := "tar.gz"

/-- Modelled from the spec: `modulePathPrefix`, the directory of one module's versions. -/
def modulePathPrefix (pfx ns name provider : String) : String :=
  GoPath.join [pfx, internalModuleType, ns, name, provider]

/-- Modelled from the spec: `modulePath`, the key of one module version,
`<prefix>/modules/<namespace>/<name>/<provider>/<version>/<name>.<archiveFormat>`. -/
def modulePath (pfx ns name provider version archiveFormat : String) : String :=
  GoPath.join [pfx, internalModuleType, ns, name, provider, version,
    name ++ "." ++ archiveFormat]

/-- Modelled from the spec: `moduleFromObject`, the reverse parser of module keys. It splits the
key into segments and reads the last six, checking the kind segment, that the coordinates are
non-empty and that the file is `<name>.<fileExtension>`. The bucket prefix is whatever comes
before. -/
def moduleFromObject (key fileExtension : String) : Except Error Core.Module :=
  match (segments key).reverse with
  | file :: version :: provider :: name :: ns :: kind :: _ =>
    if kind = internalModuleType ∧ ns ≠ "" ∧ name ≠ "" ∧ provider ≠ "" ∧ version ≠ "" ∧
        file = name ++ "." ++ fileExtension then
      .ok { Namespace := ns, Name := name, Provider := provider, Version := version,
            DownloadURL := "" }
    else .error (.new ("invalid module key: " ++ key))
  | _ => .error (.new ("invalid module key: " ++ key))

/-! ### Provider keys -/

/-- Modelled from the spec: `providerStoragePrefix`, the directory of one provider,
`<prefix>/<type>/<hostname>/<namespace>/<name>`; namespace and name must be non-empty. -/
def providerStoragePrefix (pfx typ hostname ns name : String) : Except Error String :=
  if ns = "" then .error (.new "namespace argument is empty")
  else if name = "" then .error (.new "name argument is empty")
  else .ok (GoPath.join [pfx, typ, hostname, ns, name])

/-- The errors of `providerStoragePrefix` are fresh: no sentinel recognises them. -/
theorem providerStoragePrefix_error_is {pfx typ hostname ns name : String} {err : Error}
    (h : providerStoragePrefix pfx typ hostname ns name = .error err) (t : Sentinel) :
    err.is t = false := by
  unfold providerStoragePrefix at h
  split_ifs at h <;> cases h <;> rfl

/-- Modelled from the spec: `internalProviderPath`, the keys of a provider's archive, its
`SHA256SUMS` manifest and the manifest's signature. -/
def internalProviderPath (pfx ns name version os arch : String) :
    Except Error (String × String × String) := do
  let dir ← providerStoragePrefix pfx internalProviderType "" ns name
  let base := "terraform-provider-" ++ name ++ "_" ++ version
  pure (GoPath.join [dir, base ++ "_" ++ os ++ "_" ++ arch ++ ".zip"],
    GoPath.join [dir, base ++ "_SHA256SUMS"], GoPath.join [dir, base ++ "_SHA256SUMS.sig"])

/-- The errors of `internalProviderPath` are those of `providerStoragePrefix`. -/
theorem internalProviderPath_error_is {pfx ns name version os arch : String} {err : Error}
    (h : internalProviderPath pfx ns name version os arch = .error err) (t : Sentinel) :
    err.is t = false := by
  unfold internalProviderPath at h
  cases hp : providerStoragePrefix pfx internalProviderType "" ns name <;> rw [hp] at h
  · cases h
    exact providerStoragePrefix_error_is hp t
  · cases h

theorem ns_ne_empty_of_internalProviderPath {pfx ns name version os arch : String}
    {keys : String × String × String}
    (h : internalProviderPath pfx ns name version os arch = .ok keys) : ns ≠ "" := by
  rintro rfl
  simp [internalProviderPath, providerStoragePrefix] at h

/-- Modelled from the spec: `signingKeysPath`, the key of a namespace's signing keys. -/
def signingKeysPath (pfx ns : String) : String :=
  GoPath.join [pfx, internalProviderType, ns, "signing_keys.json"]

/-! ### The legacy layout and migration -/

/-- The segments of `key` below the directory `root`, if `key` lies there. -/
def below (root key : String) : Option (List String) :=
  (cutPrefix (root ++ "/").data key.data).map fun rest => segments ⟨rest⟩

/-- The value of a legacy `field=value` segment. -/
def legacyField (field seg : String) : Option String :=
  (cutPrefix (field ++ "=").data seg.data).map String.mk

/-- The coordinates of a legacy module key, read from its segments below the modules root:
`namespace=`, `name=`, `provider=` and `version=` segments with plain values, then the file.

The legacy parser's source is not available, and the specification asks only that the segment
count be checked and the values be non-empty. The model asks for plain names (non-empty, neither
`.` nor `..`, no `/`): the values that the current-layout key migration builds from them, with
`path.Join`, keeps as segments of their own. A legacy key with a value such as `..` is left
unmigrated by the model; results that rely on this say so through `isUnmigratedModule`. -/
def legacyModuleCoords : List String → Option (String × String × String × String)
  | [s₁, s₂, s₃, s₄, file] =>
    match legacyField "namespace" s₁, legacyField "name" s₂, legacyField "provider" s₃,
        legacyField "version" s₄ with
    | some ns, some name, some provider, some version =>
      if IsName ns ∧ IsName name ∧ IsName provider ∧ IsName version ∧ IsName file then
        some (ns, name, provider, version)
      else none
    | _, _, _, _ => none
  | _ => none

/-- Whether segments below the modules root are in the current layout
`<namespace>/<name>/<provider>/<version>/<name>.<ext>`, for any extension. -/
def isCurrentModuleLayout : List String → Bool
  | [ns, name, provider, version, file] =>
    decide (IsName ns ∧ IsName name ∧ IsName provider ∧ IsName version ∧
      (name ++ ".").data <+: file.data)
  | _ => false

/-- Modelled from the spec: `isUnmigratedModule`. Migration "decides whether a key still needs
migrating, skipping anything already in current form": a key needs migrating when it lies below
the modules root in the legacy layout and not in the current one. -/
def isUnmigratedModule (bucketPrefix key : String) : Bool :=
  match below (GoPath.join [bucketPrefix, internalModuleType]) key with
  | some segs => (legacyModuleCoords segs).isSome && !isCurrentModuleLayout segs
  | none => false

/-- Modelled from the spec: `migrationTargetPath`, the current-layout key of a legacy module key.
Coordinates it cannot read are empty. -/
def migrationTargetPath (bucketPrefix archiveFormat key : String) : String :=
  match (below (GoPath.join [bucketPrefix, internalModuleType]) key).bind legacyModuleCoords with
  | some (ns, name, provider, version) =>
    modulePath bucketPrefix ns name provider version archiveFormat
  | none => modulePath bucketPrefix "" "" "" "" archiveFormat

/-- The value of the first legacy `field=value` segment among `segs`, or `""`. -/
def legacyFieldOf (field : String) (segs : List String) : String :=
  (segs.findSome? (legacyField field)).getD ""

/-- Modelled from the spec: `providerMigrationTargetPath`, the current-layout directory of a
legacy provider key, built from its `namespace=` and `name=` segments by `providerStoragePrefix`,
which rejects a key that has none. -/
def providerMigrationTargetPath (bucketPrefix key : String) : Except Error String :=
  let segs := (below (GoPath.join [bucketPrefix, internalProviderType]) key).getD []
  providerStoragePrefix bucketPrefix internalProviderType "" (legacyFieldOf "namespace" segs)
    (legacyFieldOf "name" segs)

/-! ### Layout lemmas -/

theorem isName_internalModuleType : IsName internalModuleType := by decide

/-- `<name>.<ext>` is a plain name when `name` is and the extension has no `/`. -/
theorem GoPath.IsName.dot_ext {name : String} (hn : IsName name) {ext : String} (he : '/' ∉ ext.data) :
    IsName (name ++ "." ++ ext) := by
  obtain ⟨h1, h2, h3, h4⟩ := hn
  obtain ⟨l⟩ := name
  obtain ⟨e⟩ := ext
  have hl : l ≠ [] := fun h => h1 (by simp [h])
  refine ⟨?_, ?_, ?_, ?_⟩ <;> simp only [ne_eq, String.ext_iff, String.data_append]
  · simp [hl]
  · intro h
    have := congrArg List.length h
    simp at this
    cases l with
    | nil => exact hl rfl
    | cons c l => simp at this; omega
  · intro h
    cases l with
    | nil => exact hl rfl
    | cons c l =>
      cases l with
      | nil =>
        cases e with
        | nil => simp at h; exact h2 (by simp [h])
        | cons d e => simp at h
      | cons c' l => simp at h
  · simp_all

/-- The directory of all module keys under a bucket prefix. -/
theorem modulePath_eq {pfx ns name provider version archiveFormat : String}
    (hns : IsName ns) (hname : IsName name) (hprov : IsName provider) (hver : IsName version)
    (hfmt : '/' ∉ archiveFormat.data) :
    modulePath pfx ns name provider version archiveFormat =
      GoPath.join [pfx, internalModuleType] ++ "/" ++
        joinSlash [ns, name, provider, version, name ++ "." ++ archiveFormat] := by
  have hfile := hname.dot_ext hfmt
  have := @join_append_names [pfx, internalModuleType]
    [ns, name, provider, version, name ++ "." ++ archiveFormat] _ isName_internalModuleType rfl
    (by simp [hns, hname, hprov, hver, hfile]) (by simp)
  simpa [modulePath] using this

/-- A module key of plain coordinates ends with the kind segment and the coordinates. -/
theorem segments_modulePath {pfx ns name provider version archiveFormat : String}
    (hns : IsName ns) (hname : IsName name) (hprov : IsName provider) (hver : IsName version)
    (hfmt : '/' ∉ archiveFormat.data) :
    ∃ pre, segments (modulePath pfx ns name provider version archiveFormat) =
      pre ++ [internalModuleType, ns, name, provider, version, name ++ "." ++ archiveFormat] := by
  have hl : ∀ s ∈ [ns, name, provider, version, name ++ "." ++ archiveFormat], '/' ∉ s.data := by
    simp [hns.2.2.2, hname.2.2.2, hprov.2.2.2, hver.2.2.2, hfmt]
  obtain ⟨pre, hpre⟩ : ∃ pre, segments (join [pfx, internalModuleType]) =
      pre ++ [internalModuleType] := by
    rcases eq_or_ne pfx "" with rfl | hp
    · exact ⟨[], by decide⟩
    · have hf : [pfx, internalModuleType].filter (· != "") = [pfx] ++ [internalModuleType] := by
        simp [hp, internalModuleType]
      rw [join_of_ne (by simp [hf]), hf, joinSlash_append (by simp) (by simp),
        ← joinSlash_singleton internalModuleType, joinSlash_singleton pfx]
      exact @segments_clean_append_names pfx [internalModuleType]
        (by simp [isName_internalModuleType]) (by simp)
  rw [modulePath_eq hns hname hprov hver hfmt, segments_append_slash,
    segments_joinSlash hl (by simp), hpre]
  exact ⟨pre, by simp⟩

/-- The key scheme's round trip for modules: `moduleFromObject` reads a module key of plain
coordinates back to those coordinates. -/
theorem moduleFromObject_modulePath {pfx ns name provider version archiveFormat : String}
    (hns : IsName ns) (hname : IsName name) (hprov : IsName provider) (hver : IsName version)
    (hfmt : '/' ∉ archiveFormat.data) :
    moduleFromObject (modulePath pfx ns name provider version archiveFormat) archiveFormat =
      .ok ⟨ns, name, provider, version, ""⟩ := by
  obtain ⟨pre, h⟩ := @segments_modulePath pfx _ _ _ _ _ hns hname hprov hver hfmt
  simp [moduleFromObject, h, hns.1, hname.1, hprov.1, hver.1]

/-- A module key lies under its provider's directory. -/
theorem modulePath_eq_modulePathPrefix {pfx ns name provider version archiveFormat : String}
    (hprov : IsName provider) (hver : IsName version)
    (hfile : IsName (name ++ "." ++ archiveFormat)) :
    modulePath pfx ns name provider version archiveFormat =
      modulePathPrefix pfx ns name provider ++ "/" ++
        joinSlash [version, name ++ "." ++ archiveFormat] := by
  have := @join_append_names [pfx, internalModuleType, ns, name, provider]
    [version, name ++ "." ++ archiveFormat] provider hprov rfl (by simp [hver, hfile]) (by simp)
  simpa [modulePath, modulePathPrefix] using this

theorem below_append {root : String} {l : List String} (hl : ∀ s ∈ l, '/' ∉ s.data)
    (hne : l ≠ []) : below root (root ++ "/" ++ joinSlash l) = some l := by
  have : (root ++ "/" ++ joinSlash l).data = (root ++ "/").data ++ (joinSlash l).data := by simp
  simp only [below, this, cutPrefix_append, Option.map_some']
  exact congrArg some (segments_joinSlash hl hne)

theorem eq_of_below {root key : String} {segs : List String} (h : below root key = some segs) :
    key = root ++ "/" ++ joinSlash segs := by
  obtain ⟨rest, hcut, rfl⟩ := Option.map_eq_some'.mp h
  rw [joinSlash_segments]
  exact String.ext (by simpa using eq_append_of_cutPrefix hcut)

theorem legacyField_eq {field seg v : String} (h : legacyField field seg = some v) :
    seg = field ++ "=" ++ v := by
  obtain ⟨rest, hcut, rfl⟩ := Option.map_eq_some'.mp h
  exact String.ext (by simpa using eq_append_of_cutPrefix hcut)

theorem isName_of_two_lt_length {s : String} (h : 2 < s.length) (hs : '/' ∉ s.data) :
    IsName s := by
  refine ⟨?_, ?_, ?_, hs⟩ <;> rintro rfl <;> exact absurd h (by decide)

/-- A legacy `field=value` segment of a non-empty field without `/` and a plain value is itself
a plain name. -/
theorem isName_of_legacyField {field seg v : String} (h : legacyField field seg = some v)
    (hv : IsName v) (hf : field ≠ "") (hfs : '/' ∉ field.data) : IsName seg := by
  have hv0 : v.length ≠ 0 := fun h0 => hv.1 (String.ext (List.eq_nil_of_length_eq_zero h0))
  have hf0 : field.length ≠ 0 := fun h0 => hf (String.ext (List.eq_nil_of_length_eq_zero h0))
  rw [legacyField_eq h]
  refine isName_of_two_lt_length ?_ (by simp [hfs, hv.2.2.2])
  simp only [String.length_append]
  have : "=".length = 1 := rfl
  omega

/-- The segments of a legacy module key are five plain names, and so are its coordinates. -/
theorem legacyModuleCoords_isName {segs : List String} {ns name provider version : String}
    (h : legacyModuleCoords segs = some (ns, name, provider, version)) :
    (segs.length = 5 ∧ ∀ s ∈ segs, IsName s) ∧
      IsName ns ∧ IsName name ∧ IsName provider ∧ IsName version := by
  unfold legacyModuleCoords at h
  split at h
  · split at h
    · split at h
      · rename_i h₁ h₂ h₃ h₄ hc
        cases h
        refine ⟨⟨rfl, ?_⟩, hc.1, hc.2.1, hc.2.2.1, hc.2.2.2.1⟩
        simp only [List.mem_cons, List.mem_singleton, List.not_mem_nil, or_false]
        rintro s (rfl | rfl | rfl | rfl | rfl)
        · exact isName_of_legacyField h₁ hc.1 (by decide) (by decide)
        · exact isName_of_legacyField h₂ hc.2.1 (by decide) (by decide)
        · exact isName_of_legacyField h₃ hc.2.2.1 (by decide) (by decide)
        · exact isName_of_legacyField h₄ hc.2.2.2.1 (by decide) (by decide)
        · exact hc.2.2.2.2
      · cases h
    · cases h
  · cases h

/-- An unmigrated module key is the modules root followed by five plain names, in the legacy
layout and not in the current one. -/
theorem isUnmigratedModule_eq {bucketPrefix key : String}
    (h : isUnmigratedModule bucketPrefix key = true) : ∃ segs,
      key = GoPath.join [bucketPrefix, internalModuleType] ++ "/" ++ joinSlash segs ∧
      (segs.length = 5 ∧ ∀ s ∈ segs, IsName s) ∧ isCurrentModuleLayout segs = false ∧
      (below (GoPath.join [bucketPrefix, internalModuleType]) key).bind legacyModuleCoords =
        legacyModuleCoords segs ∧ (legacyModuleCoords segs).isSome := by
  unfold isUnmigratedModule at h
  split at h
  · rename_i segs hsegs
    simp only [Bool.and_eq_true, Bool.not_eq_true'] at h
    obtain ⟨⟨ns, name, provider, version⟩, hc⟩ := Option.isSome_iff_exists.mp h.1
    exact ⟨segs, eq_of_below hsegs, (legacyModuleCoords_isName hc).1, h.2, by simp [hsegs], h.1⟩
  · cases h

/-- The target of an unmigrated module key is the modules root followed by five plain names in
the current layout, provided the archive format has no `/`. -/
theorem migrationTargetPath_eq {bucketPrefix archiveFormat key : String}
    (h : isUnmigratedModule bucketPrefix key = true) (hfmt : '/' ∉ archiveFormat.data) :
    ∃ segs, migrationTargetPath bucketPrefix archiveFormat key =
      GoPath.join [bucketPrefix, internalModuleType] ++ "/" ++ joinSlash segs ∧
      (segs.length = 5 ∧ ∀ s ∈ segs, IsName s) ∧ isCurrentModuleLayout segs = true := by
  obtain ⟨segs, -, -, -, hbind, hcoords⟩ := isUnmigratedModule_eq h
  obtain ⟨⟨ns, name, provider, version⟩, hc⟩ := Option.isSome_iff_exists.mp hcoords
  obtain ⟨-, hns, hname, hprov, hver⟩ := legacyModuleCoords_isName hc
  have hfile := hname.dot_ext hfmt
  refine ⟨[ns, name, provider, version, name ++ "." ++ archiveFormat], ?_, ⟨rfl, ?_⟩, ?_⟩
  · simp only [migrationTargetPath, hbind, hc]
    exact modulePath_eq hns hname hprov hver hfmt
  · simp [hns, hname, hprov, hver, hfile]
  · simp [isCurrentModuleLayout, hns, hname, hprov, hver]

/-- A migration target is never itself a key to migrate, provided the archive format has no
`/`: it lies in the current layout, which `isUnmigratedModule` skips. -/
theorem isUnmigratedModule_migrationTargetPath {bucketPrefix archiveFormat key : String}
    (h : isUnmigratedModule bucketPrefix key = true) (hfmt : '/' ∉ archiveFormat.data) :
    isUnmigratedModule bucketPrefix (migrationTargetPath bucketPrefix archiveFormat key) =
      false := by
  obtain ⟨segs, htarget, ⟨hlen, hnames⟩, hcur⟩ := migrationTargetPath_eq h hfmt
  rw [htarget, isUnmigratedModule, below_append (fun s hs => (hnames s hs).2.2.2)
    (List.ne_nil_of_length_pos (by omega))]
  simp [hcur]

end BoringRegistry
