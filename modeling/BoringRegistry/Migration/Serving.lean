import BoringRegistry.Migration.Idempotence

/-!
# What a migrated bucket serves

`MigrateModules` exists so that the serving operations, which read only the current layout, find
the modules stored in the legacy one. This module shows that it does. After a live run that
returns nil, in a world where nothing fails and with an archive format without `/`, `GetModule`
finds every listed legacy module at the coordinates its key names, and the legacy key still holds
its object.

The target's object is the one the last listed legacy key with the same coordinates named; which
object that is, when two legacy keys name the same coordinates, is left open here.

## Main results

* `migrationTargetPath_eq_moduleKey` — a legacy key is migrated to its coordinates' module key
* `migrateModules_then_getModule` — after the migration, `GetModule` finds every listed legacy
  module at its coordinates
-/

namespace BoringRegistry

namespace S3Storage

variable (s : S3Storage)

/-- A legacy key is migrated to the key `GetModule` reads for the coordinates it names. -/
theorem migrationTargetPath_eq_moduleKey {key ns name provider version : String}
    (hc : (below (GoPath.join [s.bucketPrefix, internalModuleType]) key).bind legacyModuleCoords =
      some (ns, name, provider, version)) :
    migrationTargetPath s.bucketPrefix s.moduleArchiveFormat key =
      s.moduleKey ns name provider version := by
  simp only [migrationTargetPath, hc, moduleKey]

/-- A live `MigrateModules` run that returns nil, in a world where nothing fails and with an
archive format without `/`, makes every listed legacy module available to `GetModule` at the
coordinates its key names, and keeps its legacy object. -/
theorem migrateModules_then_getModule (hfmt : '/' ∉ s.moduleArchiveFormat.data) {w : World}
    (hw : w.Reliable) (paginate : Paginator)
    (h : Go.value? (s.migrateModules false paginate) w = some (.ok ())) {key : String}
    (hkey : key ∈ (Pages.split (paginate (GoPath.join [s.bucketPrefix, internalModuleType]))).1)
    (hun : isUnmigratedModule s.bucketPrefix key = true) {ns name provider version : String}
    (hc : (below (GoPath.join [s.bucketPrefix, internalModuleType]) key).bind legacyModuleCoords =
      some (ns, name, provider, version)) :
    Go.value? (s.getModule ns name provider version)
        (Go.after (s.migrateModules false paginate) w) =
      some (.ok ⟨ns, name, provider, version,
        presignedGetURL s.bucket (s.moduleKey ns name provider version)⟩) ∧
    (Go.after (s.migrateModules false paginate) w).bucket key = w.bucket key := by
  rw [migrateModules_eq] at h ⊢
  obtain ⟨b', happly⟩ := MigrationPlan.applyCopies_of_run hw h
  have hafter := MigrationPlan.run_of_applyCopies hw happly
  have htarget : s.moduleKey ns name provider version ∈
      (MigrationPlan.ofPages (modulePlan s)
        (paginate (GoPath.join [s.bucketPrefix, internalModuleType]))).copies.map Prod.snd := by
    rw [← s.migrationTargetPath_eq_moduleKey hc]
    exact List.mem_map_of_mem Prod.snd
      (List.mem_map_of_mem (moduleCopy s) (List.mem_filter.mpr ⟨hkey, hun⟩))
  have hpresent : b' (s.moduleKey ns name provider version) ≠ none :=
    Option.isSome_iff_ne_none.mp ((applyCopies_isSome happly _).mpr (.inr htarget))
  have hget : ∀ w' : World, w'.Reliable →
      w'.bucket (s.moduleKey ns name provider version) ≠ none →
      Go.value? (s.getModule ns name provider version) w' =
        some (.ok ⟨ns, name, provider, version,
          presignedGetURL s.bucket (s.moduleKey ns name provider version)⟩) := fun w' hw' hp => by
    simp only [Go.value?, s.getModule_of_present (hw' _ _) hp (hw' _ _)]
  simp only [Go.after, hafter]
  refine ⟨hget _ hw hpresent, ?_⟩
  exact applyCopies_frame happly key fun d hd he =>
    not_mem_moduleTargets s hfmt _ hun (he ▸ List.mem_map_of_mem Prod.snd hd)

end S3Storage

/-- The storage of the bucket `registry` with the archive format `zip`. -/
def zipRegistry : S3Storage := newS3Storage "registry" [withS3ArchiveFormat "zip"]

/-- A module version stored in the legacy layout. -/
def legacyTlsModule : String := "modules/namespace=acme/name=tls/provider=aws/version=1.0.0/tls.zip"

/-- A bucket that holds the legacy module alone, in a run where nothing fails. -/
def legacyModuleWorld : World :=
  ⟨fun k => if k = legacyTlsModule then some "archive" else none, [], fun _ _ => none⟩

/-- Migrating the legacy `acme/tls/aws/1.0.0` makes `GetModule` find it. -/
theorem migrateModules_then_getModule_tls :
    '/' ∉ zipRegistry.moduleArchiveFormat.data ∧ legacyModuleWorld.Reliable ∧
    Go.value? (zipRegistry.migrateModules false fun _ => [.ok [legacyTlsModule]])
      legacyModuleWorld = some (.ok ()) ∧
    legacyTlsModule ∈ (Pages.split [.ok [legacyTlsModule]]).1 ∧
    isUnmigratedModule zipRegistry.bucketPrefix legacyTlsModule = true ∧
    (below (GoPath.join [zipRegistry.bucketPrefix, internalModuleType]) legacyTlsModule).bind
      legacyModuleCoords = some ("acme", "tls", "aws", "1.0.0") ∧
    Go.value? (zipRegistry.getModule "acme" "tls" "aws" "1.0.0")
        (Go.after (zipRegistry.migrateModules false fun _ => [.ok [legacyTlsModule]])
          legacyModuleWorld) =
      some (.ok ⟨"acme", "tls", "aws", "1.0.0", presignedGetURL zipRegistry.bucket
        (zipRegistry.moduleKey "acme" "tls" "aws" "1.0.0")⟩) ∧
    (Go.after (zipRegistry.migrateModules false fun _ => [.ok [legacyTlsModule]])
      legacyModuleWorld).bucket legacyTlsModule = legacyModuleWorld.bucket legacyTlsModule := by
  have hw : legacyModuleWorld.Reliable := fun _ _ => rfl
  have hrun := zipRegistry.migrateModules_single hw (by decide) (by decide)
    (show legacyModuleWorld.bucket legacyTlsModule = some "archive" by simp [legacyModuleWorld])
  have h : Go.value? (zipRegistry.migrateModules false fun _ => [.ok [legacyTlsModule]])
      legacyModuleWorld = some (.ok ()) := by simp [Go.value?, hrun]
  exact ⟨by decide, hw, h, by simp, by decide, by decide,
    zipRegistry.migrateModules_then_getModule (by decide) hw _ h (by simp) (by decide)
      (by decide)⟩

end BoringRegistry
