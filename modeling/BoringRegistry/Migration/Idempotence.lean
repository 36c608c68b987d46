import BoringRegistry.Migration.Plan

/-!
# Running a migration twice

The migrations are meant to be re-run safely: "re-running after a partial migration only touches
remaining legacy keys". Whether that holds depends on whether the second run can tell the keys
the first run wrote from the keys it still has to migrate.

`MigrateModules` can, as long as the archive format has no `/`: it skips every key that
`isUnmigratedModule` rejects, and every migration target is such a key. The copies of a second
run are then exactly those of the first, none of them reads a key the first run wrote, and
copying the same objects to the same targets again leaves the bucket as it is. A format with a
`/` lets `path.Join` climb out of the target's directory, and a target can then be a legacy key.

`MigrateProviders` cannot: it has no skip test, so the second run passes the current-layout keys
the first run wrote to `providerMigrationTargetPath`, which finds no `namespace=` segment in them
and fails.

## Main definitions

* `applyCopies` — the bucket after a list of copies in a run where nothing fails
* `ReadsNoTarget` — no copy of a list reads a key that one of them writes

## Main results

* `applyCopies_idem` — copies none of which reads a target are idempotent
* `readsNoTarget_moduleCopies` — the copies of `MigrateModules` read no target
* `migrateProviders_second_run_fails` — a second provider migration fails on the first run's
  output
* `migrateModules_rerun_copies_target` — with a `/` in the archive format, a second module
  migration copies from a key the first run wrote
* `migrateModules_idempotent` — without one, a second module migration returns nil, sends the
  same copies, none from a key the first run wrote, and leaves the bucket as it was
* `migrateModules_copies_from_start` — without one, a module migration that returns nil reads
  every object from the bucket it starts from, and keeps every legacy key's object

## Implementation notes

Both runs are over complete listings (`Lists`) of the bucket they start from, which S3 returns
in ascending key order (`KeyLt`). A sorted listing is determined by its keys, so the second run's
unmigrated keys are the first run's, in the same order.
-/

namespace BoringRegistry

open GoPath

/-! ### Copies in a run where nothing fails -/

/-- The bucket after making `copies` in order, each storing under its target the object its copy
source names; `none` when a copy source names no object. -/
def applyCopies (bucket : String) (b : String → Option Blob) :
    List (String × String) → Option (String → Option Blob)
  | [] => some b
  | (source, target) :: rest =>
    match copySourceKey bucket source with
    | none => none
    | some key =>
      match b key with
      | none => none
      | some body => applyCopies bucket (Function.update b target (some body)) rest

section Copies

variable {bucket : String}

/-- No copy of `copies` reads a key that one of them writes. -/
def ReadsNoTarget (bucket : String) (copies : List (String × String)) : Prop :=
  ∀ c ∈ copies, ∀ key, copySourceKey bucket c.1 = some key → ∀ d ∈ copies, key ≠ d.2

theorem ReadsNoTarget.of_cons {c : String × String} {copies : List (String × String)}
    (h : ReadsNoTarget bucket (c :: copies)) : ReadsNoTarget bucket copies :=
  fun c' hc' key hk d hd => h c' (List.mem_cons_of_mem _ hc') key hk d (List.mem_cons_of_mem _ hd)

/-- Keys no copy writes keep their objects. -/
theorem applyCopies_frame : ∀ {copies : List (String × String)} {b b' : String → Option Blob},
    applyCopies bucket b copies = some b' → ∀ k, (∀ d ∈ copies, k ≠ d.2) → b' k = b k
  | [], _, _, h, _, _ => by cases h; rfl
  | (source, target) :: rest, b, b', h, k, hk => by
    simp only [applyCopies] at h
    split at h
    · cases h
    · split at h
      · cases h
      · rw [applyCopies_frame h k fun d hd => hk d (List.mem_cons_of_mem _ hd),
          Function.update_noteq (hk _ (List.mem_cons_self _ _))]

/-- An object stored under a key a later copy overwrites, before any copy reads it, is never
seen. -/
theorem applyCopies_update_shadowed :
    ∀ {copies : List (String × String)} {t : String}, t ∈ copies.map Prod.snd →
      (∀ c ∈ copies, copySourceKey bucket c.1 ≠ some t) →
      ∀ (b : String → Option Blob) (v : Option Blob),
        applyCopies bucket (Function.update b t v) copies = applyCopies bucket b copies
  | [], _, ht, _, _, _ => by simp at ht
  | (source, target) :: rest, t, ht, hread, b, v => by
    have hsrc := hread _ (List.mem_cons_self _ _)
    simp only [applyCopies]
    cases hk : copySourceKey bucket source with
    | none => rfl
    | some key =>
      have hkt : key ≠ t := fun e => hsrc (by rw [hk, e])
      simp only [Function.update_noteq hkt]
      cases b key with
      | none => rfl
      | some body =>
        simp only
        by_cases htt : target = t
        · subst htt
          rw [Function.update_idem]
        · have ht' : t ∈ rest.map Prod.snd := by
            simpa [Ne.symm htt] using ht
          rw [Function.update_comm (Ne.symm htt),
            applyCopies_update_shadowed ht' (fun c hc => hread c (List.mem_cons_of_mem _ hc))]

/-- Copies none of which reads a key that one of them writes can be made again on their result
and change nothing. -/
theorem applyCopies_idem : ∀ {copies : List (String × String)} {b b' : String → Option Blob},
    ReadsNoTarget bucket copies → applyCopies bucket b copies = some b' →
      applyCopies bucket b' copies = some b'
  | [], _, _, _, h => by cases h; rfl
  | (source, target) :: rest, b, b', hno, h => by
    simp only [applyCopies] at h ⊢
    cases hk : copySourceKey bucket source with
    | none => simp [hk] at h
    | some key =>
      cases hb : b key with
      | none => simp [hk, hb] at h
      | some body =>
        simp only [hk, hb] at h
        have hkey : ∀ d ∈ (source, target) :: rest, key ≠ d.2 :=
          hno _ (List.mem_cons_self _ _) key hk
        -- the key read is written by no copy, so the result still holds what was read
        have hread : b' key = some body := by
          rw [applyCopies_frame h key fun d hd => hkey d (List.mem_cons_of_mem _ hd),
            Function.update_noteq (hkey _ (List.mem_cons_self _ _)), hb]
        simp only [hread]
        have hrest := applyCopies_idem hno.of_cons h
        by_cases ht : target ∈ rest.map Prod.snd
        · rw [applyCopies_update_shadowed ht (fun c hc e =>
            hno c (List.mem_cons_of_mem _ hc) target e _ (List.mem_cons_self _ _) rfl), hrest]
        · have hlast : b' target = some body := by
            rw [applyCopies_frame h target fun d hd e => ht (List.mem_map.mpr ⟨d, hd, e.symm⟩),
              Function.update_same]
          rw [← hlast, Function.update_eq_self, hrest]

/-- Copies only add keys: a key holds an object after them if it held one before or is a
target, and every key that held one still does. -/
theorem applyCopies_isSome : ∀ {copies : List (String × String)} {b b' : String → Option Blob},
    applyCopies bucket b copies = some b' → ∀ k,
      ((b' k).isSome ↔ (b k).isSome ∨ k ∈ copies.map Prod.snd)
  | [], _, _, h, k => by cases h; simp
  | (source, target) :: rest, b, b', h, k => by
    simp only [applyCopies] at h
    split at h
    · cases h
    · split at h
      · cases h
      · rw [applyCopies_isSome h k]
        by_cases hkt : k = target
        · subst hkt; simp
        · simp [Function.update_noteq hkt, hkt]

/-- Copies none of which reads a key that one of them writes all read the bucket they start from:
making them stores, in order, under each target the object its source names in that bucket. -/
theorem applyCopies_eq_foldl : ∀ {copies : List (String × String)} {b b' : String → Option Blob},
    ReadsNoTarget bucket copies → applyCopies bucket b copies = some b' →
      b' = copies.foldl (fun (acc : String → Option Blob) c =>
        Function.update acc c.2 ((copySourceKey bucket c.1).bind b)) b
  | [], _, _, _, h => by cases h; rfl
  | (source, target) :: rest, b, b', hno, h => by
    simp only [applyCopies] at h
    cases hk : copySourceKey bucket source with
    | none => simp [hk] at h
    | some key =>
      cases hb : b key with
      | none => simp [hk, hb] at h
      | some body =>
        simp only [hk, hb] at h
        rw [applyCopies_eq_foldl hno.of_cons h, List.foldl_cons]
        simp only [hk, Option.some_bind, hb]
        -- A later copy reads no key this one writes, so it reads the same object from both.
        refine List.foldl_ext _ _ _ fun acc c hc => ?_
        cases hk' : copySourceKey bucket c.1 with
        | none => rfl
        | some k' =>
          simp only [Option.some_bind, Function.update_noteq
            (hno c (List.mem_cons_of_mem _ hc) k' hk' _ (List.mem_cons_self _ _))]

/-- In a run where no request fails, making copies is `applyCopies`, and sends one request each. -/
theorem copyEach_of_applyCopies : ∀ {copies : List (String × String)} {w : World}
    {b' : String → Option Blob}, w.Reliable → applyCopies bucket w.bucket copies = some b' →
      copyEach bucket copies w = .ok (.ok ())
        ⟨b', w.sent ++ copies.map (fun c => .copyObject bucket c.1 c.2), w.fault⟩
  | [], w, _, _, h => by cases h; simp [copyEach]
  | (source, target) :: rest, w, b', hw, h => by
    simp only [applyCopies] at h
    cases hk : copySourceKey bucket source with
    | none => simp [hk] at h
    | some key =>
      cases hb : w.bucket key with
      | none => simp [hk, hb] at h
      | some body =>
        simp only [hk, hb] at h
        have hw' : ((w.record (.copyObject bucket source target)).put target body).Reliable := by
          simpa using hw
        have hcopy := copyEach_of_applyCopies hw' (by simpa using h)
        simp only [copyEach, Go.bind_apply, Sdk.copyObject, hw.faultOf, hk, hb]
        rw [hcopy]
        simp

theorem applyCopies_of_copyEach : ∀ {copies : List (String × String)} {w : World}, w.Reliable →
    Go.value? (copyEach bucket copies) w = some (.ok ()) →
      ∃ b', applyCopies bucket w.bucket copies = some b'
  | [], w, _, _ => ⟨_, rfl⟩
  | (source, target) :: rest, w, hw, h => by
    simp only [applyCopies]
    simp only [copyEach, Go.value?, Go.bind_apply, Sdk.copyObject, hw.faultOf] at h
    cases hk : copySourceKey bucket source with
    | none => simp [hk] at h
    | some key =>
      cases hb : w.bucket key with
      | none => simp [hk, hb] at h
      | some body =>
        simp only [hk, hb] at h ⊢
        have hw' : ((w.record (.copyObject bucket source target)).put target body).Reliable := by
          simpa using hw
        simpa using applyCopies_of_copyEach hw' h

end Copies

/-! ### Executing a plan in a run where nothing fails -/

namespace MigrationPlan

/-- With no failing page, the plan of a listing is the plan of its keys. -/
theorem ofPages_of_split_eq_none {plan : List String → MigrationPlan} {pages : List Page}
    (h : (Pages.split pages).2 = none) : ofPages plan pages = plan (Pages.split pages).1 := by
  simp only [ofPages, h, Option.map_none', andThen, Option.orElse_none]

variable {bucket : String} {p : MigrationPlan} {w : World}

/-- In a run where no request fails, executing a plan whose copies all read an object is
`applyCopies`, and sends one request per copy. -/
theorem run_of_applyCopies (hw : w.Reliable) {b' : String → Option Blob}
    (h : applyCopies bucket w.bucket p.copies = some b') :
    p.run bucket w = .ok p.result
      ⟨b', w.sent ++ p.copies.map (fun c => .copyObject bucket c.1 c.2), w.fault⟩ := by
  simp only [run, Go.bind_apply, copyEach_of_applyCopies hw h]
  rfl

/-- A run that returns nil, where no request fails, made all of its plan's copies. -/
theorem applyCopies_of_run (hw : w.Reliable) (h : Go.value? (p.run bucket) w = some (.ok ())) :
    ∃ b', applyCopies bucket w.bucket p.copies = some b' := by
  refine applyCopies_of_copyEach hw ?_
  simp only [run, Go.value?, Go.bind_apply] at h ⊢
  rcases hc : copyEach bucket p.copies w with ⟨_ | _, _⟩ | _ <;> simp_all

/-- A plan of one copy, in a run where nothing fails, stores the object its source names under its
target. -/
theorem run_single {bucket source target key : String} {body : Blob} {w : World}
    (hw : w.Reliable) (hsrc : copySourceKey bucket source = some key)
    (hb : w.bucket key = some body) :
    MigrationPlan.run bucket ⟨[(source, target)], none⟩ w = .ok (.ok ())
      ⟨Function.update w.bucket target (some body), w.sent ++ [.copyObject bucket source target],
        w.fault⟩ :=
  MigrationPlan.run_of_applyCopies hw (by simp [applyCopies, hsrc, hb])

end MigrationPlan

theorem copyObject_mem_map {bucket source target : String} {copies : List (String × String)} :
    Request.copyObject bucket source target ∈
        copies.map (fun c => Request.copyObject bucket c.1 c.2) ↔ (source, target) ∈ copies := by
  simp only [List.mem_map, Request.copyObject.injEq, true_and]
  exact ⟨fun ⟨c, hc, h₁, h₂⟩ => h₁ ▸ h₂ ▸ hc, fun h => ⟨_, h, rfl, rfl⟩⟩

/-! ### The copies of `MigrateModules` -/

/-- The copy source `path.Join(bucket, key)` of an unmigrated key ends with the key's five
legacy segments. -/
theorem segments_moduleCopy_source (s : S3Storage) {key : String}
    (h : isUnmigratedModule s.bucketPrefix key = true) : ∃ segs pre,
      segments (moduleCopy s key).1 = pre ++ segs ∧ segs.length = 5 ∧
      isCurrentModuleLayout segs = false := by
  obtain ⟨segs, hkey, ⟨hlen, hnames⟩, hcur, -⟩ := isUnmigratedModule_eq h
  obtain ⟨pre, hpre⟩ := segments_join_append_names s.bucket
    (GoPath.join [s.bucketPrefix, internalModuleType]) hnames (List.ne_nil_of_length_pos (by omega))
  exact ⟨segs, pre, by rw [moduleCopy, hkey, hpre], hlen, hcur⟩

/-- No copy of `MigrateModules` reads a key that another of its copies writes, provided the
archive format has no `/`: every source ends in legacy segments, every target in current ones. -/
theorem readsNoTarget_moduleCopies (s : S3Storage) (hfmt : '/' ∉ s.moduleArchiveFormat.data)
    (keys : List String) : ReadsNoTarget s.bucket (modulePlan s keys).copies := by
  simp only [ReadsNoTarget, modulePlan, List.mem_map, List.mem_filter]
  rintro _ ⟨k, ⟨-, hk⟩, rfl⟩ key hsrc _ ⟨k', ⟨-, hk'⟩, rfl⟩ rfl
  obtain ⟨segs, pre, hseg, hlen, hcur⟩ := segments_moduleCopy_source s hk
  obtain ⟨tsegs, htarget, ⟨htlen, htnames⟩, htcur⟩ := migrationTargetPath_eq hk' hfmt
  obtain ⟨hb, hjoin⟩ := copySourceKey_eq_some.mp hsrc
  rw [hjoin, segments_append_slash, segments_of_slash_not_mem hb, moduleCopy, htarget,
    segments_append_slash, segments_joinSlash (fun s hs => (htnames s hs).2.2.2)
      (List.ne_nil_of_length_pos (by omega)), ← List.append_assoc] at hseg
  have := (List.append_inj' hseg (by rw [hlen, htlen])).2
  rw [← this, htcur] at hcur
  cases hcur

/-- No migration target of `MigrateModules` is itself an unmigrated key. -/
theorem not_mem_moduleTargets (s : S3Storage) (hfmt : '/' ∉ s.moduleArchiveFormat.data)
    (keys : List String) {k : String} (hk : isUnmigratedModule s.bucketPrefix k = true) :
    k ∉ (modulePlan s keys).copies.map Prod.snd := by
  simp only [modulePlan, List.map_map, List.mem_map, List.mem_filter, Function.comp_def,
    moduleCopy, not_exists, not_and]
  rintro k' ⟨-, hk'⟩ rfl
  rw [isUnmigratedModule_migrationTargetPath hk' hfmt] at hk
  cases hk

/-- After the copies of `MigrateModules`, a complete sorted listing of the modules root holds
the same unmigrated keys as before: the copies only add targets, and no target is unmigrated. -/
theorem filter_unmigrated_eq (s : S3Storage) (hfmt : '/' ∉ s.moduleArchiveFormat.data)
    {root : String} {b₀ b₁ : String → Option Blob} {keys₁ keys₂ : List String}
    (hs₁ : keys₁.Sorted KeyLt) (hs₂ : keys₂.Sorted KeyLt)
    (hm₁ : ∀ k, k ∈ keys₁ ↔ root.data <+: k.data ∧ (b₀ k).isSome)
    (hm₂ : ∀ k, k ∈ keys₂ ↔ root.data <+: k.data ∧ (b₁ k).isSome)
    (happly : applyCopies s.bucket b₀ (modulePlan s keys₁).copies = some b₁) :
    keys₂.filter (isUnmigratedModule s.bucketPrefix) =
      keys₁.filter (isUnmigratedModule s.bucketPrefix) := by
  refine List.eq_of_perm_of_sorted ?_ (hs₂.filter _) (hs₁.filter _)
  refine (List.perm_ext_iff_of_nodup (hs₂.filter _).nodup (hs₁.filter _).nodup).mpr fun k => ?_
  simp only [List.mem_filter, hm₁, hm₂, applyCopies_isSome happly]
  by_cases hk : isUnmigratedModule s.bucketPrefix k = true
  · simp [hk, not_mem_moduleTargets s hfmt keys₁ hk]
  · simp [hk]


/-! ### Running `MigrateProviders` twice -/

/-- A provider archive's key in the legacy layout. -/
def legacyTlsArchive : String :=
  "providers/namespace=acme/name=tls/terraform-provider-tls_1.0.0_linux_amd64.zip"

/-- The key the provider migration copies it to. -/
def currentTlsArchive : String := "providers/acme/tls/terraform-provider-tls_1.0.0_linux_amd64.zip"

/-- A bucket that holds the legacy archive alone, in a run where nothing fails. -/
def legacyProviderWorld : World :=
  ⟨fun k => if k = legacyTlsArchive then some "archive" else none, [], fun _ _ => none⟩

/-- A second `MigrateProviders` fails on the output of the first. The bucket holds one provider
archive in the legacy layout; the first run, over a complete listing, copies it to the current
layout and returns nil; the second run, over the complete listing of the result, reaches the
current-layout key first, finds no `namespace=` segment in it and returns an error. -/
theorem migrateProviders_second_run_fails :
    Lists legacyProviderWorld.bucket (GoPath.join ["", internalProviderType])
        [.ok [legacyTlsArchive]] ∧
      Go.value? ((newS3Storage "registry" []).migrateProviders false fun _ =>
        [.ok [legacyTlsArchive]]) legacyProviderWorld = some (.ok ()) ∧
      Lists (Go.after ((newS3Storage "registry" []).migrateProviders false fun _ =>
          [.ok [legacyTlsArchive]]) legacyProviderWorld).bucket
        (GoPath.join ["", internalProviderType]) [.ok [currentTlsArchive, legacyTlsArchive]] ∧
      Go.value? ((newS3Storage "registry" []).migrateProviders false fun _ =>
          [.ok [currentTlsArchive, legacyTlsArchive]])
        (Go.after ((newS3Storage "registry" []).migrateProviders false fun _ =>
          [.ok [legacyTlsArchive]]) legacyProviderWorld) =
        some (.error (.new "namespace argument is empty")) := by
  set s := newS3Storage "registry" []
  have hplan : providerPlan s [legacyTlsArchive] =
      ⟨[(GoPath.join [s.bucket, legacyTlsArchive], currentTlsArchive)], none⟩ := by
    have hdir : providerMigrationTargetPath s.bucketPrefix legacyTlsArchive =
        .ok "providers/acme/tls" := by decide
    have htarget : GoPath.join ["providers/acme/tls", GoPath.base legacyTlsArchive] =
        currentTlsArchive := by decide
    simp only [providerPlan, hdir, htarget]; rfl
  have hrun : s.migrateProviders false (fun _ => [.ok [legacyTlsArchive]]) legacyProviderWorld =
      .ok (.ok ()) ⟨Function.update legacyProviderWorld.bucket currentTlsArchive (some "archive"),
        [.copyObject s.bucket (GoPath.join [s.bucket, legacyTlsArchive]) currentTlsArchive],
        legacyProviderWorld.fault⟩ := by
    rw [S3Storage.migrateProviders_eq, MigrationPlan.ofPages_of_split_eq_none]
    · simp only [Pages.split_ok, Pages.split_nil, List.append_nil, hplan]
      exact MigrationPlan.run_single (fun _ _ => rfl)
        (show copySourceKey s.bucket (GoPath.join [s.bucket, legacyTlsArchive]) =
          some legacyTlsArchive by decide)
        (by simp [legacyProviderWorld])
    · rfl
  have hw₁ : (Go.after (s.migrateProviders false fun _ => [.ok [legacyTlsArchive]])
      legacyProviderWorld).bucket =
      Function.update legacyProviderWorld.bucket currentTlsArchive (some "archive") := by
    simp only [Go.after, hrun]
  refine ⟨lists_singleton (by decide) (by decide) fun k => ?_, by simp [Go.value?, hrun],
    lists_singleton (by decide) (by decide) fun k => ?_, by decide⟩
  · by_cases hk : k = legacyTlsArchive <;> simp [legacyProviderWorld, hk]
  · rw [hw₁]
    by_cases hk : k = currentTlsArchive <;> by_cases hk' : k = legacyTlsArchive <;>
      simp [legacyProviderWorld, hk, hk', Function.update_apply]

/-! ### Running `MigrateModules` twice -/

namespace S3Storage

variable (s : S3Storage)

/-- `MigrateModules` over a listing of one unmigrated key, in a run where nothing fails, copies
that key's object to its migration target. -/
theorem migrateModules_single {key : String} {body : Blob} {w : World} (hw : w.Reliable)
    (hk : isUnmigratedModule s.bucketPrefix key = true)
    (hsrc : copySourceKey s.bucket (GoPath.join [s.bucket, key]) = some key)
    (hb : w.bucket key = some body) :
    s.migrateModules false (fun _ => [.ok [key]]) w = .ok (.ok ())
      ⟨Function.update w.bucket (migrationTargetPath s.bucketPrefix s.moduleArchiveFormat key)
          (some body),
        w.sent ++ [.copyObject s.bucket (GoPath.join [s.bucket, key])
          (migrationTargetPath s.bucketPrefix s.moduleArchiveFormat key)], w.fault⟩ := by
  rw [migrateModules_eq, MigrationPlan.ofPages_of_split_eq_none]
  · simp only [Pages.split_ok, Pages.split_nil, List.append_nil, modulePlan,
      List.filter_cons_of_pos hk, List.filter_nil, List.map_cons, List.map_nil, moduleCopy]
    exact MigrationPlan.run_single hw hsrc hb
  · rfl

end S3Storage

/-- With an archive format that contains `/`, a migration target can be an unmigrated key. The
format below climbs out of the target's directory and names a legacy file; the first run copies
the legacy key there, and the second run, over the complete listing of the result, copies that
target again: a copy whose source is a key the first run created. -/
theorem migrateModules_rerun_copies_target :
    let s := newS3Storage "registry"
      [withS3ArchiveFormat "zip/../../../../../namespace=a/name=b/provider=c/version=d/g"]
    let legacy := "modules/namespace=a/name=b/provider=c/version=d/f"
    let target := "modules/namespace=a/name=b/provider=c/version=d/g"
    let w₀ : World := ⟨fun k => if k = legacy then some "archive" else none, [], fun _ _ => none⟩
    let w₁ := Go.after (s.migrateModules false fun _ => [.ok [legacy]]) w₀
    Lists w₀.bucket (GoPath.join [s.bucketPrefix, internalModuleType]) [.ok [legacy]] ∧
      Go.value? (s.migrateModules false fun _ => [.ok [legacy]]) w₀ = some (.ok ()) ∧
      w₀.bucket target = none ∧ w₁.bucket target = some "archive" ∧
      isUnmigratedModule s.bucketPrefix target = true ∧
      Lists w₁.bucket (GoPath.join [s.bucketPrefix, internalModuleType]) [.ok [legacy, target]] ∧
      (Go.after (s.migrateModules false fun _ => [.ok [legacy, target]]) w₁).sent.drop
          w₁.sent.length =
        [.copyObject s.bucket (GoPath.join [s.bucket, legacy]) target,
          .copyObject s.bucket (GoPath.join [s.bucket, target]) target] ∧
      copySourceKey s.bucket (GoPath.join [s.bucket, target]) = some target := by
  intro s legacy target w₀ w₁
  have htarget : migrationTargetPath s.bucketPrefix s.moduleArchiveFormat legacy = target := by
    decide
  have hrun := s.migrateModules_single (fun _ _ => rfl) (by decide) (by decide)
    (show w₀.bucket legacy = some "archive" by simp [w₀])
  rw [htarget] at hrun
  have hw₁ : w₁.bucket = Function.update w₀.bucket target (some "archive") := by
    simp only [w₁, Go.after, hrun]
  refine ⟨lists_singleton (by decide) (by decide) fun k => ?_, by simp [Go.value?, hrun],
    by decide, by rw [hw₁]; decide, by decide,
    lists_singleton (by decide) (by decide) fun k => ?_, by decide, by decide⟩
  · by_cases hk : k = legacy <;> simp [w₀, hk]
  · by_cases hk : k = target <;> by_cases hk' : k = legacy <;>
      simp [hw₁, w₀, hk, hk', Function.update_apply]

namespace S3Storage

variable (s : S3Storage)

/-- Running `MigrateModules` a second time, after a first run that returned nil with nothing
failing, returns nil again and leaves the bucket as the first run left it, provided the archive
format has no `/`. The second run sends the same copies as the first; every target the first
run wrote is rejected by `isUnmigratedModule`, and no copy of the second run reads one. Each
listing is complete for the bucket it lists. -/
theorem migrateModules_idempotent (hfmt : '/' ∉ s.moduleArchiveFormat.data) {w₀ : World}
    (hw : w₀.Reliable) (paginate₁ paginate₂ : Paginator)
    (hl₁ : Lists w₀.bucket (GoPath.join [s.bucketPrefix, internalModuleType])
      (paginate₁ (GoPath.join [s.bucketPrefix, internalModuleType])))
    (hrun₁ : Go.value? (s.migrateModules false paginate₁) w₀ = some (.ok ()))
    (hl₂ : Lists (Go.after (s.migrateModules false paginate₁) w₀).bucket
      (GoPath.join [s.bucketPrefix, internalModuleType])
      (paginate₂ (GoPath.join [s.bucketPrefix, internalModuleType]))) :
    let w₁ := Go.after (s.migrateModules false paginate₁) w₀
    let w₂ := Go.after (s.migrateModules false paginate₂) w₁
    Go.value? (s.migrateModules false paginate₂) w₁ = some (.ok ()) ∧ w₂.bucket = w₁.bucket ∧
      w₂.sent.drop w₁.sent.length = w₁.sent.drop w₀.sent.length ∧
      (∀ source target, .copyObject s.bucket source target ∈ w₁.sent.drop w₀.sent.length →
        isUnmigratedModule s.bucketPrefix target = false) ∧
      (∀ source target, .copyObject s.bucket source target ∈ w₂.sent.drop w₁.sent.length →
        ∀ key, copySourceKey s.bucket source = some key →
        ∀ source₁ target₁, .copyObject s.bucket source₁ target₁ ∈ w₁.sent.drop w₀.sent.length →
          key ≠ target₁) := by
  obtain ⟨hnone₁, hs₁, hm₁⟩ := hl₁
  obtain ⟨hnone₂, hs₂, hm₂⟩ := hl₂
  have hplan₁ := s.migrateModules_eq paginate₁
  have hplan₂ := s.migrateModules_eq paginate₂
  rw [MigrationPlan.ofPages_of_split_eq_none hnone₁] at hplan₁
  rw [MigrationPlan.ofPages_of_split_eq_none hnone₂] at hplan₂
  set keys₁ := (Pages.split (paginate₁ (GoPath.join [s.bucketPrefix, internalModuleType]))).1
  set keys₂ := (Pages.split (paginate₂ (GoPath.join [s.bucketPrefix, internalModuleType]))).1
  -- The first run made its copies: the bucket after it is `applyCopies` of them.
  rw [hplan₁] at hrun₁ hm₂ ⊢
  obtain ⟨b₁, happly⟩ := MigrationPlan.applyCopies_of_run hw hrun₁
  have hrun₁' := MigrationPlan.run_of_applyCopies hw happly
  simp only [Go.after, hrun₁'] at hm₂ ⊢
  -- The second run lists the same unmigrated keys, so it has the same plan.
  have hsame : modulePlan s keys₂ = modulePlan s keys₁ := by
    simp only [modulePlan, filter_unmigrated_eq s hfmt hs₁ hs₂ hm₁ hm₂ happly]
  have hno := readsNoTarget_moduleCopies s hfmt keys₁
  have hrun₂ := @MigrationPlan.run_of_applyCopies s.bucket (modulePlan s keys₁)
    ⟨b₁, w₀.sent ++ (modulePlan s keys₁).copies.map (fun c => .copyObject s.bucket c.1 c.2),
      w₀.fault⟩ hw b₁ (applyCopies_idem hno happly)
  simp only [hplan₂, hsame, hrun₂, Go.value?, List.drop_left, copyObject_mem_map]
  refine ⟨rfl, trivial, trivial, fun source target hc => ?_,
    fun source target hc key hkey _ _ hc₁ => hno _ hc key hkey _ hc₁⟩
  obtain ⟨k, hk, he⟩ := List.mem_map.mp hc
  rw [moduleCopy, Prod.mk.injEq] at he
  rw [← he.2]
  exact isUnmigratedModule_migrationTargetPath (List.mem_filter.mp hk).2 hfmt

/-- One legacy module archive, migrated and then migrated again. -/
theorem migrateModules_idempotent_on_legacy_tls :
    let s := newS3Storage "registry" [withS3ArchiveFormat "zip"]
    let legacy := "modules/namespace=acme/name=tls/provider=aws/version=1.0.0/tls.zip"
    let target := "modules/acme/tls/aws/1.0.0/tls.zip"
    let w₀ : World := ⟨fun k => if k = legacy then some "archive" else none, [], fun _ _ => none⟩
    let w₁ := Go.after (s.migrateModules false fun _ => [.ok [legacy]]) w₀
    Go.value? (s.migrateModules false fun _ => [.ok [target, legacy]]) w₁ = some (.ok ()) ∧
      (Go.after (s.migrateModules false fun _ => [.ok [target, legacy]]) w₁).bucket =
        w₁.bucket := by
  intro s legacy target w₀ w₁
  have htarget : migrationTargetPath s.bucketPrefix s.moduleArchiveFormat legacy = target := by
    decide
  have hrun := s.migrateModules_single (fun _ _ => rfl) (by decide) (by decide)
    (show w₀.bucket legacy = some "archive" by simp [w₀])
  rw [htarget] at hrun
  have hw₁ : w₁.bucket = Function.update w₀.bucket target (some "archive") := by
    simp only [w₁, Go.after, hrun]
  have hl₂ : Lists w₁.bucket (GoPath.join [s.bucketPrefix, internalModuleType])
      [.ok [target, legacy]] :=
    lists_singleton (by decide) (by decide) fun k => by
      by_cases hk : k = target <;> by_cases hk' : k = legacy <;>
        simp [hw₁, w₀, hk, hk', Function.update_apply]
  have h := s.migrateModules_idempotent (by decide) (show w₀.Reliable from fun _ _ => rfl)
    (fun _ => [.ok [legacy]]) (fun _ => [.ok [target, legacy]])
    (lists_singleton (by decide) (by decide) fun k => by
      by_cases hk : k = legacy <;> simp [w₀, hk])
    (by simp [Go.value?, hrun]) hl₂
  exact ⟨h.1, h.2.1⟩

/-- A live `MigrateModules` run that returns nil, in a world where nothing fails and with an
archive format without `/`, reads every object from the bucket it starts from. The bucket it
leaves is the starting one, updated in listing order at each listed unmigrated key's target with
the object that the key's copy source names at the start; every unmigrated key keeps its
object. -/
theorem migrateModules_copies_from_start (hfmt : '/' ∉ s.moduleArchiveFormat.data) {w : World}
    (hw : w.Reliable) (paginate : Paginator)
    (h : Go.value? (s.migrateModules false paginate) w = some (.ok ())) :
    (Go.after (s.migrateModules false paginate) w).bucket =
        (modulePlan s (Pages.split (paginate (GoPath.join [s.bucketPrefix, internalModuleType]))).1
          ).copies.foldl (fun (b : String → Option Blob) c =>
            Function.update b c.2 ((copySourceKey s.bucket c.1).bind w.bucket)) w.bucket ∧
      ∀ k, isUnmigratedModule s.bucketPrefix k = true →
        (Go.after (s.migrateModules false paginate) w).bucket k = w.bucket k := by
  rw [migrateModules_eq] at h ⊢
  obtain ⟨b', happly⟩ := MigrationPlan.applyCopies_of_run hw h
  simp only [Go.after, MigrationPlan.run_of_applyCopies hw happly]
  refine ⟨applyCopies_eq_foldl (readsNoTarget_moduleCopies s hfmt _) happly,
    fun k hk => applyCopies_frame happly k fun d hd he => ?_⟩
  exact not_mem_moduleTargets s hfmt _ hk (he ▸ List.mem_map_of_mem Prod.snd hd)

/-- Migrating the one legacy `tls` archive reads it from the bucket the run starts from. -/
theorem migrateModules_copies_from_start_legacy_tls :
    let s := newS3Storage "registry" [withS3ArchiveFormat "zip"]
    let legacy := "modules/namespace=acme/name=tls/provider=aws/version=1.0.0/tls.zip"
    let w₀ : World := ⟨fun k => if k = legacy then some "archive" else none, [], fun _ _ => none⟩
    (Go.after (s.migrateModules false fun _ => [.ok [legacy]]) w₀).bucket =
        (modulePlan s [legacy]).copies.foldl (fun (b : String → Option Blob) c =>
          Function.update b c.2 ((copySourceKey s.bucket c.1).bind w₀.bucket)) w₀.bucket ∧
      ∀ k, isUnmigratedModule s.bucketPrefix k = true →
        (Go.after (s.migrateModules false fun _ => [.ok [legacy]]) w₀).bucket k = w₀.bucket k := by
  intro s legacy w₀
  have hrun := s.migrateModules_single (show w₀.Reliable from fun _ _ => rfl) (by decide)
    (by decide) (show w₀.bucket legacy = some "archive" by simp [w₀])
  exact s.migrateModules_copies_from_start (by decide) (fun _ _ => rfl) _
    (by simp [Go.value?, hrun])

end S3Storage

end BoringRegistry
