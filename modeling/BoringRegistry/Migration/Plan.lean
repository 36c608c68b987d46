import BoringRegistry.Storage.Specs

/-!
# Migrations as copy plans

`MigrateModules` and `MigrateProviders` walk a listing and copy some of its keys to new keys. What
a run does is determined by a *plan*: the copies to make, in listing order, and the error that
ends the run once they are made, if one does. This module states plans, what executing one does,
and that each migration executes exactly its plan.

* `MigrateModules` copies each listed key that `isUnmigratedModule` accepts to its
  `migrationTargetPath`; a failed page ends the plan.
* `MigrateProviders` copies every listed key to the directory `providerMigrationTargetPath` gives
  it; a key whose directory cannot be built ends the plan there, before any later copy, and
  otherwise a failed page ends it.

A dry run executes no copy at all: it returns how its plan ends, and sends nothing.

## Main definitions

* `MigrationPlan`, `MigrationPlan.run`, `copyEach` — plans and their execution
* `modulePlan`, `providerPlan`, `MigrationPlan.ofPages` — the plans of the two migrations

## Main results

* `migrations_run_their_plans` — each migration, live or dry, is its plan executed
* `copyEach_sent` — the copies a plan's execution requests, and where it stops
-/

namespace BoringRegistry

/-! ### Plans and their execution -/

/-- Copy each `(copySource, target)` pair in order, stopping at the first copy that fails. -/
def copyEach (bucket : String) : List (String × String) → Go (Except Error Unit)
  | [] => return .ok ()
  | (source, target) :: rest => do
    match ← Sdk.copyObject bucket source target with
    | .error err => return .error (.sdk err)
    | .ok () => copyEach bucket rest

/-- A migration plan: the copies to make, each a copy source as sent and a target key, and the
error that ends the run once they are made, if any. -/
structure MigrationPlan where
  copies : List (String × String)
  stop : Option Error

namespace MigrationPlan

/-- How a run of the plan ends when every copy succeeds; what a dry run returns. -/
def result (p : MigrationPlan) : Except Error Unit :=
  match p.stop with
  | some err => .error err
  | none => .ok ()

/-- Executing a plan against `bucket`. -/
def run (bucket : String) (p : MigrationPlan) : Go (Except Error Unit) := do
  match ← copyEach bucket p.copies with
  | .error err => return .error err
  | .ok () => return p.result

/-- The plan `p`, then `ending`: a failure that comes after all of `p`'s copies. -/
def andThen (p : MigrationPlan) (ending : Option Error) : MigrationPlan :=
  ⟨p.copies, p.stop <|> ending⟩

/-- Copying `(source, target)` first, then the plan. -/
def cons (c : String × String) (p : MigrationPlan) : MigrationPlan := ⟨c :: p.copies, p.stop⟩

@[simp] theorem andThen_copies (p : MigrationPlan) (e : Option Error) :
    (p.andThen e).copies = p.copies := rfl

@[simp] theorem cons_copies (c : String × String) (p : MigrationPlan) :
    (cons c p).copies = c :: p.copies := rfl

@[simp] theorem cons_stop (c : String × String) (p : MigrationPlan) :
    (cons c p).stop = p.stop := rfl

@[simp] theorem result_cons (c : String × String) (p : MigrationPlan) :
    (cons c p).result = p.result := rfl

theorem run_cons (bucket : String) (c : String × String) (p : MigrationPlan) :
    (cons c p).run bucket = (do
      match ← Sdk.copyObject bucket c.1 c.2 with
      | .error err => return .error (.sdk err)
      | .ok () => p.run bucket) := by
  obtain ⟨source, target⟩ := c
  simp only [run, cons_copies, copyEach, bind_assoc, result_cons]
  congr 1; funext r; cases r <;> simp

/-- Running a plan and then reporting `ending` runs the plan with `ending` appended. -/
theorem run_andThen (bucket : String) (p : MigrationPlan) (ending : Option Error) :
    (do
      match ← p.run bucket with
      | .error err => return .error err
      | .ok () => return match ending with
        | some err => .error err
        | none => .ok ()) = (p.andThen ending).run bucket := by
  simp only [run, andThen_copies, bind_assoc]
  congr 1; funext r
  cases r with
  | error err => simp
  | ok u => cases p with | mk copies stop => cases stop <;> cases ending <;> rfl

/-- A copy request either fails or stores its target; either way it is recorded. -/
theorem copyObject_cases (bucket source target : String) (w : World) :
    ∃ w', w'.sent = w.sent ++ [.copyObject bucket source target] ∧
      (Sdk.copyObject bucket source target w = .ok (.ok ()) w' ∨
        ∃ e, Sdk.copyObject bucket source target w = .ok (.error e) w') := by
  rcases hf : w.faultOf (.copyObject bucket source target) with _ | e
  · rcases hk : copySourceKey bucket source with _ | key
    · exact ⟨w.record (.copyObject bucket source target), rfl,
        .inr ⟨.noSuchBucket, by simp [Sdk.copyObject, hf, hk]⟩⟩
    · rcases hb : w.bucket key with _ | body
      · exact ⟨w.record (.copyObject bucket source target), rfl,
          .inr ⟨.notFound, by simp [Sdk.copyObject, hf, hk, hb]⟩⟩
      · exact ⟨(w.record (.copyObject bucket source target)).put target body, rfl,
          .inl (by simp [Sdk.copyObject, hf, hk, hb])⟩
  · exact ⟨w.record (.copyObject bucket source target), rfl,
      .inr ⟨e, by simp [Sdk.copyObject, hf]⟩⟩

/-- Executing copies sends the copy requests of a prefix of them, in order: all of them, or those
up to and including the first that fails, whose error is returned. -/
theorem copyEach_sent (bucket : String) :
    ∀ (copies : List (String × String)) (w : World), ∃ n ≤ copies.length,
      (Go.after (copyEach bucket copies) w).sent =
        w.sent ++ (copies.take n).map (fun c => .copyObject bucket c.1 c.2) ∧
      (Go.value? (copyEach bucket copies) w = some (.ok ()) ∧ n = copies.length ∨
        ∃ e, Go.value? (copyEach bucket copies) w = some (.error (.sdk e)) ∧ 0 < n)
  | [], w => ⟨0, le_rfl, by simp [copyEach, Go.after], .inl ⟨rfl, rfl⟩⟩
  | (source, target) :: rest, w => by
    obtain ⟨w₁, hsent, hok | ⟨e, herr⟩⟩ := copyObject_cases bucket source target w
    · obtain ⟨n, hn, hsent', hres⟩ := copyEach_sent bucket rest w₁
      refine ⟨n + 1, by simpa using hn, ?_, ?_⟩
      · simp [copyEach, Go.after, hok] at hsent' ⊢
        rw [hsent', hsent]
        simp
      · have hval : Go.value? (copyEach bucket ((source, target) :: rest)) w =
            Go.value? (copyEach bucket rest) w₁ := by simp [copyEach, Go.value?, hok]
        rw [hval]
        rcases hres with ⟨h, rfl⟩ | ⟨e, h, -⟩
        · exact .inl ⟨h, rfl⟩
        · exact .inr ⟨e, h, Nat.succ_pos _⟩
    · exact ⟨1, by simp, by simp [copyEach, Go.after, herr, hsent],
        .inr ⟨e, by simp [copyEach, Go.value?, herr], Nat.one_pos⟩⟩

/-- What executing a plan sends and returns: the copy requests of a prefix of its copies, then
the plan's own ending if every copy succeeded, or the first failed copy's error. -/
theorem run_sent (bucket : String) (p : MigrationPlan) (w : World) : ∃ n ≤ p.copies.length,
    (Go.after (p.run bucket) w).sent =
      w.sent ++ (p.copies.take n).map (fun c => .copyObject bucket c.1 c.2) ∧
    (Go.value? (p.run bucket) w = some p.result ∧ n = p.copies.length ∨
      ∃ e, Go.value? (p.run bucket) w = some (.error (.sdk e)) ∧ 0 < n) := by
  obtain ⟨n, hn, hsent, hres⟩ := copyEach_sent bucket p.copies w
  refine ⟨n, hn, ?_, ?_⟩
  · rw [← hsent]
    simp only [run, Go.after, Go.bind_apply]
    rcases copyEach bucket p.copies w with ⟨_ | _, _⟩ | _ <;> rfl
  · simp only [run, Go.value?, Go.bind_apply] at hres ⊢
    rcases h : copyEach bucket p.copies w with ⟨_ | _, _⟩ | _ <;> simp_all

end MigrationPlan

/-! ### The plans of the two migrations -/

/-- `fmt.Errorf("failed to page: %w", err)`. -/
def pageError (e : SdkError) : Error := .wrap "failed to page" (.sdk e)

/-- The copy `MigrateModules` makes of `key`: from `path.Join(bucket, key)` to its migration
target. -/
def moduleCopy (s : S3Storage) (key : String) : String × String :=
  (GoPath.join [s.bucket, key], migrationTargetPath s.bucketPrefix s.moduleArchiveFormat key)

/-- The plan of `MigrateModules` over the keys of successful pages: copy every unmigrated key. -/
def modulePlan (s : S3Storage) (keys : List String) : MigrationPlan :=
  ⟨(keys.filter (isUnmigratedModule s.bucketPrefix)).map (moduleCopy s), none⟩

/-- The plan of `MigrateProviders` over the keys of successful pages: copy every key to
`path.Join(directory, path.Base(key))`, up to the first key without a directory. -/
def providerPlan (s : S3Storage) : List String → MigrationPlan
  | [] => ⟨[], none⟩
  | key :: keys =>
    match providerMigrationTargetPath s.bucketPrefix key with
    | .error err => ⟨[], some err⟩
    | .ok directory =>
      .cons (GoPath.join [s.bucket, key], GoPath.join [directory, GoPath.base key])
        (providerPlan s keys)

/-- The plan of a whole listing: the plan over the keys of the pages before the first failing
one, ended by that failure. -/
def MigrationPlan.ofPages (plan : List String → MigrationPlan) (pages : List Page) :
    MigrationPlan :=
  (plan (Pages.split pages).1).andThen ((Pages.split pages).2.map pageError)

/-! ### The migrations execute their plans -/

namespace S3Storage

variable (s : S3Storage)

theorem forEachKey_migrateModulesStep (keys : List String) :
    forEachKey (s.migrateModulesStep false) keys () = (modulePlan s keys).run s.bucket := by
  induction keys with
  | nil => simp [forEachKey, modulePlan, MigrationPlan.run, copyEach, MigrationPlan.result]
  | cons k keys ih =>
    by_cases hk : isUnmigratedModule s.bucketPrefix k = true
    · have hplan : modulePlan s (k :: keys) = .cons (moduleCopy s k) (modulePlan s keys) := by
        simp [modulePlan, hk, MigrationPlan.cons]
      rw [hplan, MigrationPlan.run_cons, ← ih]
      simp only [forEachKey, migrateModulesStep, hk, Bool.not_true, Bool.false_eq_true, if_false,
        bind_assoc, moduleCopy]
      congr 1; funext r; cases r <;> simp
    · have hplan : modulePlan s (k :: keys) = modulePlan s keys := by simp [modulePlan, hk]
      simp [forEachKey, migrateModulesStep, hk, hplan, ih]

theorem forEachKey_migrateProvidersStep (keys : List String) :
    forEachKey (s.migrateProvidersStep false) keys () = (providerPlan s keys).run s.bucket := by
  induction keys with
  | nil => rfl
  | cons k keys ih =>
    cases hdir : providerMigrationTargetPath s.bucketPrefix k with
    | error err =>
      simp only [forEachKey, migrateProvidersStep, providerPlan, hdir]
      rfl
    | ok directory =>
      rw [providerPlan, hdir, MigrationPlan.run_cons, ← ih]
      simp only [forEachKey, migrateProvidersStep, hdir, Bool.false_eq_true, if_false, bind_assoc]
      congr 1; funext r; cases r <;> simp

theorem forEachKey_migrateModulesStep_dry (keys : List String) :
    forEachKey (s.migrateModulesStep true) keys () = Pure.pure (.ok ()) := by
  induction keys with
  | nil => rfl
  | cons k keys ih => by_cases hk : isUnmigratedModule s.bucketPrefix k <;>
      simp [forEachKey, migrateModulesStep, hk, ih]

theorem forEachKey_migrateProvidersStep_dry (keys : List String) :
    forEachKey (s.migrateProvidersStep true) keys () = Pure.pure (providerPlan s keys).result := by
  induction keys with
  | nil => rfl
  | cons k keys ih =>
    cases hdir : providerMigrationTargetPath s.bucketPrefix k <;>
      simp [forEachKey, migrateProvidersStep, providerPlan, hdir, ih, MigrationPlan.result]

theorem migrateModules_eq (paginate : Paginator) :
    s.migrateModules false paginate = (MigrationPlan.ofPages (modulePlan s)
      (paginate (GoPath.join [s.bucketPrefix, internalModuleType]))).run s.bucket := by
  rw [migrateModules, forEachPage_eq, forEachKey_migrateModulesStep, MigrationPlan.ofPages,
    ← MigrationPlan.run_andThen]
  congr 1; funext r; cases r <;> cases (Pages.split _).2 <;> rfl

theorem migrateProviders_eq (paginate : Paginator) :
    s.migrateProviders false paginate = (MigrationPlan.ofPages (providerPlan s)
      (paginate (GoPath.join [s.bucketPrefix, internalProviderType]))).run s.bucket := by
  rw [migrateProviders, forEachPage_eq, forEachKey_migrateProvidersStep, MigrationPlan.ofPages,
    ← MigrationPlan.run_andThen]
  congr 1; funext r; cases r <;> cases (Pages.split _).2 <;> rfl

/-- Each migration executes its plan. A dry run sends nothing, leaves the world as it was, and
returns how the plan ends. A live run is the plan executed: it sends the copy requests of a prefix
of the plan's copies, in listing order, each from `path.Join(bucket, key)` to the key's target;
it stops at the first copy that fails and returns that copy's error, and otherwise returns how
the plan ends: nil, a failed page, or for providers the first key without a target directory. -/
theorem migrations_run_their_plans (paginate : Paginator) :
    let modules := MigrationPlan.ofPages (modulePlan s)
      (paginate (GoPath.join [s.bucketPrefix, internalModuleType]))
    let providers := MigrationPlan.ofPages (providerPlan s)
      (paginate (GoPath.join [s.bucketPrefix, internalProviderType]))
    (∀ w, s.migrateModules true paginate w = .ok modules.result w) ∧
    (∀ w, s.migrateProviders true paginate w = .ok providers.result w) ∧
    s.migrateModules false paginate = modules.run s.bucket ∧
    s.migrateProviders false paginate = providers.run s.bucket ∧
    (∀ w, ∃ n ≤ modules.copies.length,
      (Go.after (s.migrateModules false paginate) w).sent =
        w.sent ++ (modules.copies.take n).map (fun c => .copyObject s.bucket c.1 c.2) ∧
      (Go.value? (s.migrateModules false paginate) w = some modules.result ∧
          n = modules.copies.length ∨
        ∃ e, Go.value? (s.migrateModules false paginate) w = some (.error (.sdk e)) ∧ 0 < n)) ∧
    (∀ w, ∃ n ≤ providers.copies.length,
      (Go.after (s.migrateProviders false paginate) w).sent =
        w.sent ++ (providers.copies.take n).map (fun c => .copyObject s.bucket c.1 c.2) ∧
      (Go.value? (s.migrateProviders false paginate) w = some providers.result ∧
          n = providers.copies.length ∨
        ∃ e, Go.value? (s.migrateProviders false paginate) w = some (.error (.sdk e)) ∧
          0 < n)) := by
  refine ⟨fun w => ?_, fun w => ?_, s.migrateModules_eq paginate, s.migrateProviders_eq paginate,
    fun w => ?_, fun w => ?_⟩
  · rw [migrateModules, forEachPage_eq, forEachKey_migrateModulesStep_dry]
    cases h : (Pages.split (paginate (GoPath.join [s.bucketPrefix, internalModuleType]))).2 <;>
      simp [MigrationPlan.ofPages, MigrationPlan.result, MigrationPlan.andThen, modulePlan, h,
        pageError]
  · rw [migrateProviders, forEachPage_eq, forEachKey_migrateProvidersStep_dry]
    cases h : (Pages.split (paginate (GoPath.join [s.bucketPrefix, internalProviderType]))).2 <;>
      cases hp : (providerPlan s (Pages.split
        (paginate (GoPath.join [s.bucketPrefix, internalProviderType]))).1).stop <;>
      simp [MigrationPlan.ofPages, MigrationPlan.result, MigrationPlan.andThen, h, hp, pageError]
  · rw [s.migrateModules_eq paginate]
    exact MigrationPlan.run_sent _ _ w
  · rw [s.migrateProviders_eq paginate]
    exact MigrationPlan.run_sent _ _ w

end S3Storage

end BoringRegistry
