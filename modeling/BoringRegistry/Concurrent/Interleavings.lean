import BoringRegistry.Concurrent.Programs

/-!
# Interleaved serving operations

Clients call the storage concurrently, and S3 serves their requests one at a time in some order.
A `System` is a set of serving operations in progress against one bucket; a step lets one of
them send its next request, which S3 serves atomically, and a schedule says whose request comes
next at every step. Every order of the requests of every set of operations is a schedule.

The specification expects what this model shows. An upload checks that its key holds nothing
and then writes, in two requests, so two uploads of one key can both pass the check before
either writes; that is the race of `uploadModule_race`. What concurrency does not break is the
bucket as it was: an upload writes only to a key that one of its HEADs found answering 404, and
since no operation deletes, such a key held nothing when the run began. So no interleaving
replaces an object that was stored before it started (`System.run_retains`).

## The argument

`Guarded H Q absent p` says that `p` uploads only to keys of `absent` or keys that one of its
own HEADs found answering 404, and copies nothing; `H` is the set of errors a HEAD may fail
with, and `Q` what `p` has learned when it returns. Each serving operation is guarded, and
`Guarded.step` shows that one request of a guarded thread keeps the system's invariant `Inv`,
whichever other threads have moved since its HEAD. `System.run_inv` extends that to every
schedule.

A listing's pages are not requests of this model: the `Paginator` hands them to the listing as a
parameter, fixed before the call. So the listings take part in an interleaving only through the
presigns of `ListModuleVersions`, and what the results below say about them is limited to that.

## Main definitions

* `Prog.step`, `System`, `System.step`, `System.run`, `System.start` — the interleaving semantics
* `Guarded`, `System.Inv` — guarded programs, and the invariant of a run

## Main results

* `System.run_serial` — a lemma of the semantics: some schedule leaves the world as running the
  operations one after another (`runOps`) does
* `System.run_retains` — no interleaving of the serving operations replaces or removes an object
  stored before it began, when no HEAD fails and the archive format is the default one
* `System.run_retains_of_no_module_uploads` — without `UploadModule` calls the same holds under
  any failures, provided no HEAD fails with a 404
* `uploadModule_race` — two concurrent uploads of one module can both succeed, the second
  replacing the first's object
* `uploadProviderReleaseFiles_race` — the same holds of two uploads of one provider file
-/

namespace BoringRegistry

/-! ### The interleaving semantics -/

/-- Every SDK call returns: S3 answers, with an error or not. -/
theorem Request.send_ok (r : Request) (w : World) : ∃ x w', r.send w = .ok x w' := by
  cases r <;> simp only [Request.send, Sdk.headObject, Sdk.presignGetObject, Sdk.download,
    Sdk.upload, Sdk.copyObject] <;> split <;> (try split) <;> (try split) <;> exact ⟨_, _, rfl⟩

namespace Prog

variable {α : Type}

/-- One request of a program, sent against the world: the rest of the program and the world
once S3 has served the request. A program that has returned or panicked sends nothing. -/
def step : Prog α → World → Prog α × World
  | ret a, w => (ret a, w)
  | panic p, w => (panic p, w)
  | call r k, w =>
    match r.send w with
    | .ok x w' => (k x, w')
    | .error p w' => (panic p, w')

theorem step_call {r : Request} {k : r.Response → Prog α} {w w' : World} {x : r.Response}
    (h : r.send w = .ok x w') : (call r k).step w = (k x, w') := by
  simp [step, h]

/-- A program has finished when it has returned or panicked. -/
def Done : Prog α → Prop
  | ret _ => True
  | panic _ => True
  | call _ _ => False

end Prog

/-- A serving operation in progress: the operation, and the rest of its program. -/
abbrev Thread := (op : ServingOp) × Prog op.Result

/-- Clients' operations in progress against one bucket, and the world they share. -/
structure System where
  threads : List Thread
  world : World

namespace System

/-- Thread `i` sends its next request. An index with no thread, or a thread that has finished,
leaves the system as it is. -/
def step (sys : System) (i : Nat) : System :=
  match sys.threads[i]? with
  | some t => ⟨sys.threads.set i ⟨t.1, (t.2.step sys.world).1⟩, (t.2.step sys.world).2⟩
  | none => sys

/-- A schedule: the thread that sends the next request, step after step. -/
def run (sys : System) (sched : List Nat) : System := sched.foldl step sys

@[simp] theorem run_nil (sys : System) : sys.run [] = sys := rfl
@[simp] theorem run_cons (sys : System) (i : Nat) (sched : List Nat) :
    sys.run (i :: sched) = (sys.step i).run sched := rfl
theorem run_append (sys : System) (sched₁ sched₂ : List Nat) :
    sys.run (sched₁ ++ sched₂) = (sys.run sched₁).run sched₂ := List.foldl_append _ _ _ _

/-- The operations `ops`, called concurrently on the world `w`, none of which has sent a request
yet. -/
def start (s : S3Storage) (unmarshalSigningKeys : Blob → Except String Core.SigningKeys)
    (ops : List ServingOp) (w : World) : System :=
  ⟨ops.map fun op => ⟨op, op.prog s unmarshalSigningKeys⟩, w⟩

/-! ### Running alone, and serial schedules -/

theorem set_eq_self_of_getElem? {α : Type} {l : List α} {i : Nat} {a : α} (h : l[i]? = some a) :
    l.set i a = l :=
  List.ext_getElem? fun j => by
    rw [List.getElem?_set]
    split_ifs with hij hlt
    · rw [← h, hij]
    · subst hij; simp [List.getElem?_eq_none (Nat.le_of_not_lt hlt)] at h
    · rfl

/-- Thread `i`, given the turn until it finishes, runs its program as `Prog.run` does. -/
theorem run_replicate {sys : System} {i : Nat} {t : Thread} (ht : sys.threads[i]? = some t) :
    ∃ n p, p.Done ∧ sys.run (List.replicate n i) =
      ⟨sys.threads.set i ⟨t.1, p⟩, Go.after t.2.run sys.world⟩ := by
  obtain ⟨op, p⟩ := t
  induction p generalizing sys with
  | ret a =>
    refine ⟨0, .ret a, trivial, ?_⟩
    rw [set_eq_self_of_getElem? ht]; rfl
  | panic q =>
    refine ⟨0, .panic q, trivial, ?_⟩
    rw [set_eq_self_of_getElem? ht]; rfl
  | call r k ih =>
    obtain ⟨x, w', hsend⟩ := r.send_ok sys.world
    have hstep : sys.step i = ⟨sys.threads.set i ⟨op, k x⟩, w'⟩ := by
      simp only [step, ht, Prog.step_call hsend]
    have ht' : (sys.step i).threads[i]? = some ⟨op, k x⟩ := by
      rw [hstep, List.getElem?_set_self (List.getElem?_eq_some_iff.mp ht).1]
    obtain ⟨n, p, hp, hrun⟩ := ih x ht'
    refine ⟨n + 1, p, hp, ?_⟩
    rw [List.replicate_succ, run_cons, hrun, hstep]
    simp [Go.after, hsend]

variable (s : S3Storage) (unmarshalSigningKeys : Blob → Except String Core.SigningKeys)

theorem run_serial_aux (ops : List ServingOp) : ∀ (done : List Thread) (w : World), ∃ sched,
    ((System.mk (done ++ ops.map fun op => ⟨op, op.prog s unmarshalSigningKeys⟩) w).run
      sched).world = runOps s unmarshalSigningKeys ops w := by
  induction ops with
  | nil => exact fun _ w => ⟨[], rfl⟩
  | cons op ops ih =>
    intro done w
    have ht : (System.mk (done ++ (op :: ops).map fun op => ⟨op, op.prog s unmarshalSigningKeys⟩)
        w).threads[done.length]? = some ⟨op, op.prog s unmarshalSigningKeys⟩ := by
      rw [List.getElem?_append_right le_rfl, Nat.sub_self, List.map_cons, List.getElem?_cons_zero]
    obtain ⟨n, p, -, hrun⟩ := run_replicate ht
    obtain ⟨sched, hsched⟩ := ih (done ++ [⟨op, p⟩]) (op.step s unmarshalSigningKeys w)
    refine ⟨List.replicate n done.length ++ sched, ?_⟩
    rw [run_append, hrun, ServingOp.after_run_prog, List.set_append_right _ _ le_rfl,
      Nat.sub_self, List.map_cons, List.set_cons_zero, ← List.singleton_append,
      ← List.append_assoc]
    exact hsched

/-- Running the operations one after another, each to the end before the next begins, is a
schedule of the interleaving semantics, and it leaves the world as `runOps` does. -/
theorem run_serial (ops : List ServingOp) (w : World) :
    ∃ sched, ((start s unmarshalSigningKeys ops w).run sched).world =
      runOps s unmarshalSigningKeys ops w :=
  run_serial_aux s unmarshalSigningKeys ops [] w

end System

/-! ### Guarded programs -/

/-- What a thread knows to hold nothing once a HEAD of `key` has answered `e`: the keys of
`absent`, and `key` itself when `e` is a 404. -/
def learn (absent : String → Prop) (key : String) (e : SdkError) : String → Prop :=
  fun k => absent k ∨ k = key ∧ e.status = some 404

section Guarded

variable (H : SdkError → Prop) {α β : Type}

/-- `Guarded H Q absent p`: every upload that `p` can send is to a key of `absent` or to a key
that one of its own HEADs found answering 404, `p` sends no copy, and when it returns `a`, `Q a`
holds of what it then knows to hold nothing. A HEAD may fail with the errors of `H`. -/
inductive Guarded (Q : α → (String → Prop) → Prop) : (String → Prop) → Prog α → Prop
  | ret {absent : String → Prop} {a : α} (h : Q a absent) : Guarded Q absent (.ret a)
  | panic {absent : String → Prop} {p : Panic} : Guarded Q absent (.panic p)
  | headObject {absent : String → Prop} {bucket key : String}
      {k : Except SdkError Unit → Prog α} (found : Guarded Q absent (k (.ok ())))
      (failed : ∀ e, H e → Guarded Q (learn absent key e) (k (.error e))) :
      Guarded Q absent (.call (.headObject bucket key) k)
  | presignGetObject {absent : String → Prop} {bucket key : String} {expires : Nat}
      {k : Except SdkError PresignedHTTPRequest → Prog α} (next : ∀ x, Guarded Q absent (k x)) :
      Guarded Q absent (.call (.presignGetObject bucket key expires) k)
  | download {absent : String → Prop} {bucket key : String} {k : Except SdkError Blob → Prog α}
      (next : ∀ x, Guarded Q absent (k x)) : Guarded Q absent (.call (.download bucket key) k)
  | upload {absent : String → Prop} {bucket key : String} {body : Blob}
      {k : Except SdkError Unit → Prog α} (hkey : absent key) (next : ∀ x, Guarded Q absent (k x)) :
      Guarded Q absent (.call (.upload bucket key body) k)

variable {H} {Q : α → (String → Prop) → Prop} {absent : String → Prop}

theorem Guarded.bind {R : β → (String → Prop) → Prop} {x : Prog α} {f : α → Prog β}
    (hx : Guarded H Q absent x) (hf : ∀ a absent', Q a absent' → Guarded H R absent' (f a)) :
    Guarded H R absent (x >>= f) := by
  induction hx with
  | ret h => exact hf _ _ h
  | panic => exact .panic
  | headObject _ _ ih₁ ih₂ => exact .headObject ih₁ ih₂
  | presignGetObject _ ih => exact .presignGetObject ih
  | download _ ih => exact .download ih
  | upload hkey _ ih => exact .upload hkey ih

theorem Guarded.imp {Q' : α → (String → Prop) → Prop} {p : Prog α} (hp : Guarded H Q absent p)
    (hQ : ∀ a absent, Q a absent → Q' a absent) : Guarded H Q' absent p := by
  induction hp with
  | ret h => exact .ret (hQ _ _ h)
  | panic => exact .panic
  | headObject _ _ ih₁ ih₂ => exact .headObject ih₁ ih₂
  | presignGetObject _ ih => exact .presignGetObject ih
  | download _ ih => exact .download ih
  | upload hkey _ ih => exact .upload hkey ih

/-! ### The serving operations are guarded -/

theorem Prog.forEachKey_guarded {σ : Type} {body : σ → String → Prog (Except Error σ)}
    (hbody : ∀ acc key absent, Guarded H (fun _ _ => True) absent (body acc key))
    (keys : List String) (acc : σ) (absent : String → Prop) :
    Guarded H (fun _ _ => True) absent (Prog.forEachKey body keys acc) := by
  induction keys generalizing acc absent with
  | nil => exact .ret trivial
  | cons key keys ih =>
    refine (hbody acc key absent).bind fun r absent' _ => ?_
    cases r
    · exact .ret trivial
    · exact ih _ _

theorem Prog.forEachPage_guarded {σ : Type} (onErr : SdkError → Error)
    {body : σ → String → Prog (Except Error σ)}
    (hbody : ∀ acc key absent, Guarded H (fun _ _ => True) absent (body acc key))
    (pages : List Page) (acc : σ) (absent : String → Prop) :
    Guarded H (fun _ _ => True) absent (Prog.forEachPage onErr body pages acc) := by
  induction pages generalizing acc absent with
  | nil => exact .ret trivial
  | cons p pages ih =>
    cases p with
    | error e => exact .ret trivial
    | ok keys =>
      refine (Prog.forEachKey_guarded hbody keys acc absent).bind fun r absent' _ => ?_
      cases r
      · exact .ret trivial
      · exact ih _ _

namespace S3Storage

variable (s : S3Storage)

/-- `presignedURL` returns a URL, or panics. -/
theorem presignedURLProg_guarded (key : String) :
    Guarded H (fun r _ => ∃ url, r = .ok url) absent (s.presignedURLProg key) :=
  .presignGetObject fun x => by
    cases x with
    | error => exact .panic
    | ok => exact .ret ⟨_, rfl⟩

/-- `objectExists` returns `false` only for a key whose HEAD answered 404, and an error only
for a HEAD that failed otherwise. -/
theorem objectExistsProg_guarded (key : String) :
    Guarded H (fun r absent' => (r = .ok false → absent' key) ∧
      ∀ err, r = .error err → ∃ e, H e ∧ e.status ≠ some 404) absent (s.objectExistsProg key) := by
  refine .headObject (.ret ⟨by simp, by simp⟩) fun e he => ?_
  by_cases h404 : e.status = some 404
  · simp only [Prog.bind, h404, ↓reduceIte]
    exact .ret ⟨fun _ => .inr ⟨rfl, h404⟩, by simp⟩
  · simp only [Prog.bind, h404, ↓reduceIte]
    exact .ret ⟨by simp, fun _ _ => ⟨e, he, h404⟩⟩

theorem downloadProg_guarded (path : String) :
    Guarded H (fun _ _ => True) absent (s.downloadProg path) :=
  .download fun x => by cases x <;> exact .ret trivial

/-- `GetModule` returns an error only for a module key whose HEAD answered 404, or after a HEAD
that failed otherwise. -/
theorem getModuleProg_guarded (ns name provider version : String) :
    Guarded H (fun r absent' => ∀ err, r = .error err →
      absent' (modulePath s.bucketPrefix ns name provider version s.moduleArchiveFormat) ∨
        ∃ e, H e ∧ e.status ≠ some 404) absent (s.getModuleProg ns name provider version) := by
  refine (s.objectExistsProg_guarded _).bind fun r absent' ⟨hfalse, herr⟩ => ?_
  rcases r with err | _ | _
  · exact .ret fun _ _ => .inr (herr err rfl)
  · exact .ret fun _ _ => .inl (hfalse rfl)
  · refine (s.presignedURLProg_guarded _).bind fun r _ ⟨url, hurl⟩ => ?_
    subst hurl
    exact .ret (by simp)

/-- `UploadModule` uploads only to a key it has seen answer 404, provided the archive format is
the default one, so that the key it probes is the key it writes, and provided a HEAD can fail
only with a 404, so that `GetModule` fails only for an absent module. -/
theorem uploadModuleProg_guarded (hfmt : s.moduleArchiveFormat = defaultModuleArchiveFormat)
    (hH : ∀ e, H e → e.status = some 404) (ns name provider version : String) (body : Blob) :
    Guarded H (fun _ _ => True) absent (s.uploadModuleProg ns name provider version body) := by
  unfold uploadModuleProg
  cases firstEmpty [(ns, "namespace not defined"), (name, "name not defined"),
      (provider, "provider not defined"), (version, "version not defined")] with
  | some msg => exact .ret trivial
  | none =>
    refine (s.getModuleProg_guarded ns name provider version).bind fun r absent' h => ?_
    rcases r with err | m
    · have hkey := (h err rfl).resolve_right fun ⟨e, he, h404⟩ => h404 (hH e he)
      rw [hfmt] at hkey
      refine .upload hkey fun x => ?_
      rcases x with _ | ⟨⟩
      · exact .ret trivial
      · exact (s.getModuleProg_guarded ns name provider version).imp fun _ _ _ => trivial
    · exact .ret trivial

theorem uploadProviderReleaseFilesProg_guarded (ns name filename : String) (file : Blob) :
    Guarded H (fun _ _ => True) absent
      (s.uploadProviderReleaseFilesProg ns name filename file) := by
  unfold uploadProviderReleaseFilesProg
  cases firstEmpty [(ns, "namespace argument is empty"), (name, "name argument is empty"),
      (filename, "name argument is empty")] with
  | some msg => exact .ret trivial
  | none =>
    cases providerStoragePrefix s.bucketPrefix internalProviderType "" ns name with
    | error err => exact .ret trivial
    | ok pfx =>
      refine (s.objectExistsProg_guarded _).bind fun r absent' ⟨hfalse, _⟩ => ?_
      rcases r with err | _ | _
      · exact .ret trivial
      · exact .upload (hfalse rfl) fun x => by cases x <;> exact .ret trivial
      · exact .ret trivial

variable (unmarshalSigningKeys : Blob → Except String Core.SigningKeys)

theorem signingKeysProg_guarded (ns : String) :
    Guarded H (fun _ _ => True) absent (s.signingKeysProg unmarshalSigningKeys ns) := by
  unfold signingKeysProg
  cases firstEmpty [(ns, "namespace argument is empty")] with
  | some msg => exact .ret trivial
  | none =>
    refine (s.downloadProg_guarded _).bind fun r _ _ => ?_
    rcases r with _ | raw
    · exact .ret trivial
    · dsimp only
      cases unmarshalSigningKeys raw <;> exact .ret trivial

theorem getProviderProg_guarded (ns name version os arch : String) :
    Guarded H (fun _ _ => True) absent
      (s.getProviderProg unmarshalSigningKeys ns name version os arch) := by
  unfold getProviderProg
  cases internalProviderPath s.bucketPrefix ns name version os arch with
  | error err => exact .ret trivial
  | ok paths =>
    obtain ⟨archivePath, shasumPath, shasumSigPath⟩ := paths
    refine (s.presignedURLProg_guarded _).bind fun r _ ⟨_, hr⟩ => ?_
    subst hr
    refine (s.presignedURLProg_guarded _).bind fun r _ ⟨_, hr⟩ => ?_
    subst hr
    refine (s.presignedURLProg_guarded _).bind fun r _ ⟨_, hr⟩ => ?_
    subst hr
    refine (s.downloadProg_guarded _).bind fun r _ _ => ?_
    rcases r with _ | shasumBytes
    · exact .ret trivial
    · dsimp only
      cases readSHASums shasumBytes (GoPath.base archivePath) with
      | error err => exact .ret trivial
      | ok shasum =>
        refine (s.signingKeysProg_guarded unmarshalSigningKeys ns).bind fun r _ _ => ?_
        cases r <;> exact .ret trivial

theorem listModuleVersionsProg_guarded (ns name provider : String) (paginate : Paginator) :
    Guarded H (fun _ _ => True) absent (s.listModuleVersionsProg ns name provider paginate) := by
  refine Prog.forEachPage_guarded _ (fun modules key absent => ?_) _ _ _
  unfold listModuleVersionsStepProg
  cases moduleFromObject key s.moduleArchiveFormat with
  | error => exact .ret trivial
  | ok m =>
    refine (s.presignedURLProg_guarded _).bind fun r _ _ => ?_
    cases r <;> exact .ret trivial

theorem listProviderVersionsProg_guarded (ns name : String) (paginate : Paginator) :
    Guarded H (fun _ _ => True) absent (s.listProviderVersionsProg ns name paginate) := by
  unfold listProviderVersionsProg
  cases providerStoragePrefix s.bucketPrefix internalProviderType "" ns name with
  | error err => exact .ret trivial
  | ok pfx =>
    refine (Prog.forEachPage_guarded _ (fun collection key absent => ?_) _ _ _).bind
      fun r _ _ => ?_
    · unfold listProviderVersionsStepProg
      cases Core.newProviderFromArchive key <;> exact .ret trivial
    · rcases r with _ | collection
      · exact .ret trivial
      · dsimp only; split <;> exact .ret trivial

end S3Storage

/-- Whether a serving operation is an `UploadModule`. -/
def ServingOp.uploadsModule : ServingOp → Bool
  | .uploadModule .. => true
  | _ => false

/-- Every serving operation is guarded; `UploadModule` needs the default archive format and
HEADs that fail only with 404s. -/
theorem ServingOp.prog_guarded (s : S3Storage)
    (unmarshalSigningKeys : Blob → Except String Core.SigningKeys) (op : ServingOp)
    (hop : op.uploadsModule = true →
      s.moduleArchiveFormat = defaultModuleArchiveFormat ∧ ∀ e, H e → e.status = some 404) :
    Guarded H (fun _ _ => True) absent (op.prog s unmarshalSigningKeys) := by
  cases op with
  | getModule => exact (s.getModuleProg_guarded _ _ _ _).imp fun _ _ _ => trivial
  | listModuleVersions => exact s.listModuleVersionsProg_guarded _ _ _ _
  | uploadModule =>
    obtain ⟨hfmt, hH⟩ := hop rfl
    exact s.uploadModuleProg_guarded hfmt hH _ _ _ _ _
  | getProvider => exact s.getProviderProg_guarded _ _ _ _ _ _
  | listProviderVersions => exact s.listProviderVersionsProg_guarded _ _ _
  | uploadProviderReleaseFiles => exact s.uploadProviderReleaseFilesProg_guarded _ _ _ _
  | signingKeys => exact s.signingKeysProg_guarded _ _

end Guarded

/-! ### No interleaving replaces a stored object -/

namespace World

/-- Every HEAD that the failure pattern fails answers an error of `H`, and never a 404: a 404
only ever comes from a key that holds nothing. -/
def HeadFaults (H : SdkError → Prop) (w : World) : Prop :=
  ∀ bucket key n e, w.fault (.headObject bucket key) n = some e → H e ∧ e.status ≠ some 404

/-- Storing under a key that held nothing in `w₀` keeps every object of `w₀`. -/
theorem Retains.put {w₀ w : World} (h : w₀.Retains w) {key : String} (hkey : w₀.bucket key = none)
    (body : Blob) : w₀.Retains (w.put key body) := by
  refine ⟨fun k v hk => ?_, h.2⟩
  have hne : k ≠ key := by rintro rfl; simp [hkey] at hk
  simp [Function.update_noteq hne, h.1 k v hk]

/-- A key that holds nothing now held nothing in a world whose objects are all still here. -/
theorem Retains.bucket_eq_none {w₀ w : World} (h : w₀.Retains w) {key : String}
    (hkey : w.bucket key = none) : w₀.bucket key = none := by
  rcases hk : w₀.bucket key with _ | v
  · rfl
  · simp [h.1 key v hk] at hkey

end World

section Step

variable {H : SdkError → Prop} {α : Type} {Q : α → (String → Prop) → Prop} {w₀ w : World}
  {absent : String → Prop}

/-- One request of a guarded thread. If every object of `w₀` is still in `w` and the thread's
keys held nothing in `w₀`, the same holds after the request, of the thread's new program and
what it has learned. Other threads may have stored objects since `w₀`, but never under a key
that held one in `w₀`, so a 404 now is a 404 then. -/
theorem Guarded.step (hnf : H SdkError.notFound) (hw₀ : w₀.HeadFaults H) (hret : w₀.Retains w)
    (habsent : ∀ k, absent k → w₀.bucket k = none) {p : Prog α} (hp : Guarded H Q absent p) :
    w₀.Retains (p.step w).2 ∧
      ∃ absent', (∀ k, absent' k → w₀.bucket k = none) ∧ Guarded H Q absent' (p.step w).1 := by
  have hrec : ∀ r, w₀.Retains (w.record r) := fun _ => hret
  cases hp with
  | ret h => exact ⟨hret, absent, habsent, .ret h⟩
  | panic => exact ⟨hret, absent, habsent, .panic⟩
  | @headObject _ bucket key k found failed =>
    have hsend := Request.send_headObject bucket key w
    rcases hf : w.faultOf (.headObject bucket key) with _ | e
    · by_cases hk : (w.bucket key).isSome
      · simp only [hf, hk, if_true] at hsend
        rw [Prog.step_call hsend]
        exact ⟨hrec _, absent, habsent, found⟩
      · simp only [hf, hk, Bool.false_eq_true, if_false] at hsend
        rw [Prog.step_call hsend]
        refine ⟨hrec _, _, ?_, failed _ hnf⟩
        rintro k' (hk' | ⟨rfl, -⟩)
        · exact habsent k' hk'
        · exact hret.bucket_eq_none (by simpa using hk)
    · simp only [hf] at hsend
      rw [Prog.step_call hsend]
      obtain ⟨he, h404⟩ := hw₀ bucket key _ e (by rw [← hret.2]; exact hf)
      refine ⟨hrec _, _, ?_, failed e he⟩
      rintro k' (hk' | ⟨-, h⟩)
      · exact habsent k' hk'
      · exact absurd h h404
  | @presignGetObject _ bucket key expires k next =>
    obtain ⟨x, hsend⟩ := Request.send_presignGetObject bucket key expires w
    rw [Prog.step_call hsend]
    exact ⟨hrec _, absent, habsent, next x⟩
  | @download _ bucket key k next =>
    obtain ⟨x, hsend⟩ := Request.send_download bucket key w
    rw [Prog.step_call hsend]
    exact ⟨hrec _, absent, habsent, next x⟩
  | @upload _ bucket key body k hkey next =>
    have hsend := Request.send_upload bucket key body w
    rcases hf : w.faultOf (.upload bucket key body) with _ | e
    · simp only [hf] at hsend
      rw [Prog.step_call hsend]
      exact ⟨(hrec _).put (habsent key hkey) body, absent, habsent, next _⟩
    · simp only [hf] at hsend
      rw [Prog.step_call hsend]
      exact ⟨hrec _, absent, habsent, next _⟩

end Step

/-- The storage of the bucket `registry`, with the default archive format. -/
def tarRegistry : S3Storage := newS3Storage "registry" [withS3ArchiveFormat "tar.gz"]

/-- An empty bucket in which every HEAD fails with a server error. -/
def serverErrorWorld : World :=
  ⟨fun _ => none, [], fun r _ => if r matches .headObject .. then
    some ⟨some 500, "InternalError"⟩ else none⟩

namespace System

/-- The invariant of every system reachable from a start in `w₀`: every object of `w₀` is still
stored, unchanged, and every thread is guarded by keys that held nothing in `w₀`. -/
def Inv (H : SdkError → Prop) (w₀ : World) (sys : System) : Prop :=
  w₀.Retains sys.world ∧ ∀ t ∈ sys.threads, ∃ absent : String → Prop,
    (∀ k, absent k → w₀.bucket k = none) ∧ Guarded H (fun _ _ => True) absent t.2

variable {H : SdkError → Prop} {w₀ : World}

theorem step_inv (hnf : H SdkError.notFound) (hw₀ : w₀.HeadFaults H) {sys : System}
    (h : sys.Inv H w₀) (i : Nat) : (sys.step i).Inv H w₀ := by
  unfold step
  split
  · rename_i t ht
    obtain ⟨absent, habsent, hg⟩ := h.2 t (List.getElem?_mem ht)
    obtain ⟨hret, absent', habsent', hg'⟩ := hg.step hnf hw₀ h.1 habsent
    refine ⟨hret, fun t' ht' => ?_⟩
    rcases List.mem_or_eq_of_mem_set ht' with ht' | rfl
    · exact h.2 t' ht'
    · exact ⟨absent', habsent', hg'⟩
  · exact h

theorem run_inv (hnf : H SdkError.notFound) (hw₀ : w₀.HeadFaults H) (sched : List Nat) :
    ∀ {sys : System}, sys.Inv H w₀ → (sys.run sched).Inv H w₀ := by
  induction sched with
  | nil => exact id
  | cons i sched ih => exact fun h => ih (step_inv hnf hw₀ h i)

variable (s : S3Storage) (unmarshalSigningKeys : Blob → Except String Core.SigningKeys)

theorem start_inv {ops : List ServingOp}
    (hops : ∀ op ∈ ops, op.uploadsModule = true →
      s.moduleArchiveFormat = defaultModuleArchiveFormat ∧ ∀ e, H e → e.status = some 404) :
    (start s unmarshalSigningKeys ops w₀).Inv H w₀ := by
  refine ⟨refl _, fun t ht => ?_⟩
  obtain ⟨op, hop, rfl⟩ := List.mem_map.mp ht
  exact ⟨fun _ => False, fun _ h => h.elim, op.prog_guarded s unmarshalSigningKeys (hops op hop)⟩

/-- When no HEAD fails and the archive format is `DefaultModuleArchiveFormat`, no interleaving of
any serving operations, called concurrently in any number, replaces or removes an object that
the bucket held when they began: at every step of every schedule, every such object is still
stored with its contents. -/
theorem run_retains (hfmt : s.moduleArchiveFormat = defaultModuleArchiveFormat)
    (ops : List ServingOp) {w₀ : World} (hw : w₀.HeadsSucceed) (sched : List Nat) :
    w₀.Retains ((start s unmarshalSigningKeys ops w₀).run sched).world :=
  (@run_inv (· = SdkError.notFound) w₀ rfl (fun b k n e he => by rw [hw] at he; cases he)
    sched _ (start_inv s unmarshalSigningKeys fun _ _ _ => ⟨hfmt, fun e he => he ▸ rfl⟩)).1

/-- Two uploads of a stored module version, interleaved request by request. -/
theorem run_retains_two_uploads :
    tarRegistry.moduleArchiveFormat = defaultModuleArchiveFormat ∧
    (World.empty.put "modules/acme/tls/aws/1.0.0/tls.tar.gz" "v1").HeadsSucceed ∧
    (World.empty.put "modules/acme/tls/aws/1.0.0/tls.tar.gz" "v1").Retains
      ((start tarRegistry (fun _ => .error "unused")
        [.uploadModule "acme" "tls" "aws" "1.0.0" "v2",
          .uploadModule "acme" "tls" "aws" "1.0.0" "v3"]
        (World.empty.put "modules/acme/tls/aws/1.0.0/tls.tar.gz" "v1")).run [0, 1, 0, 1]).world :=
  ⟨rfl, fun _ _ _ => rfl, run_retains _ _ rfl _ (fun _ _ _ => rfl) _⟩

/-- Without `UploadModule` calls the guarantee survives failing requests: when no HEAD fails
with a 404, the provider uploads and the lookups, interleaved in any order, never replace or
remove an object stored before they began. `UploadProviderReleaseFiles` returns a failed HEAD's
error instead of uploading. -/
theorem run_retains_of_no_module_uploads (ops : List ServingOp)
    (hops : ∀ op ∈ ops, op.uploadsModule = false) {w₀ : World}
    (hw : ∀ bucket key n e, w₀.fault (.headObject bucket key) n = some e → e.status ≠ some 404)
    (sched : List Nat) : w₀.Retains ((start s unmarshalSigningKeys ops w₀).run sched).world :=
  (@run_inv (fun _ => True) w₀ trivial (fun b k n e he => ⟨trivial, hw b k n e he⟩) sched _
    (start_inv s unmarshalSigningKeys fun op hop h => absurd h (by simp [hops op hop]))).1

/-- A provider upload and a signing-keys lookup, interleaved, while every HEAD fails with a
server error. -/
theorem run_retains_of_no_module_uploads_flaky :
    (∀ op ∈ [ServingOp.uploadProviderReleaseFiles "acme" "tls"
        "terraform-provider-tls_1.0.0_SHA256SUMS" "sums", .signingKeys "acme"],
        op.uploadsModule = false) ∧
    (∀ bucket key n e, serverErrorWorld.fault (.headObject bucket key) n = some e →
      e.status ≠ some 404) ∧
    serverErrorWorld.Retains
      ((start (newS3Storage "registry" []) (fun _ => .error "unused")
        [.uploadProviderReleaseFiles "acme" "tls" "terraform-provider-tls_1.0.0_SHA256SUMS" "sums",
          .signingKeys "acme"] serverErrorWorld).run [0, 1, 0, 1]).world :=
  ⟨by decide, fun _ _ _ e he => by cases he; decide,
    run_retains_of_no_module_uploads _ _ _ (by decide) (fun _ _ _ e he => by cases he; decide) _⟩

end System

/-! ### The upload race -/

namespace S3Storage

variable (s : S3Storage) {ns name provider version : String}

theorem faultOf_eq_none {w : World} (hw : w.Reliable) (r : Request) : w.faultOf r = none := hw _ _

/-- In a run where nothing fails, `UploadModule` of an absent module sends the HEAD of the key
`GetModule` reads, which answers 404, then uploads its body to the key built with
`DefaultModuleArchiveFormat`, and then runs `GetModule`. -/
theorem uploadModuleProg_steps_absent
    (hne : firstEmpty [(ns, "namespace not defined"), (name, "name not defined"),
      (provider, "provider not defined"), (version, "version not defined")] = none)
    (body : Blob) : ∃ q,
      (∀ w : World, w.Reliable → w.bucket (s.moduleKey ns name provider version) = none →
        (s.uploadModuleProg ns name provider version body).step w =
          (q, w.record (.headObject s.bucket (s.moduleKey ns name provider version)))) ∧
      ∀ w : World, w.Reliable → q.step w = (s.getModuleProg ns name provider version,
        (w.record (.upload s.bucket (s.uploadKey ns name provider version) body)).put
          (s.uploadKey ns name provider version) body) := by
  have hempty : World.empty.Reliable := fun _ _ => rfl
  have hnone : ∀ k, World.empty.bucket k = none := fun _ => rfl
  refine ⟨((s.uploadModuleProg ns name provider version body).step World.empty).1,
    fun w hw habsent => ?_, fun w hw => ?_⟩
  · simp only [moduleKey] at habsent
    simp only [uploadModuleProg, hne, getModuleProg, objectExistsProg, Prog.headObject,
      Prog.call_bind, Prog.step, Request.send_headObject, faultOf_eq_none hw, habsent,
      faultOf_eq_none hempty, hnone, Option.isSome_none, Bool.false_eq_true, if_false,
      Prog.ret_bind, Prog.pure_eq]
    rfl
  · simp only [uploadModuleProg, hne, getModuleProg, objectExistsProg, Prog.headObject,
      Prog.call_bind, Prog.step, Request.send_headObject, faultOf_eq_none hempty, hnone,
      Option.isSome_none, Bool.false_eq_true, if_false, Prog.ret_bind, Prog.pure_eq,
      SdkError.notFound, if_true, Prog.upload, Request.send_upload, faultOf_eq_none hw]
    rfl

/-- In a run where nothing fails, `GetModule` of a stored module sends its HEAD and then its
presign, and returns the module. -/
theorem getModuleProg_steps_present : ∃ q,
    (∀ w : World, w.Reliable → (w.bucket (s.moduleKey ns name provider version)).isSome →
      (s.getModuleProg ns name provider version).step w =
        (q, w.record (.headObject s.bucket (s.moduleKey ns name provider version)))) ∧
    ∀ w : World, w.Reliable → q.step w =
      (.ret (.ok ⟨ns, name, provider, version,
        presignedGetURL s.bucket (s.moduleKey ns name provider version)⟩),
       w.record (.presignGetObject s.bucket (s.moduleKey ns name provider version)
        s.signedURLExpiry)) := by
  refine ⟨((s.getModuleProg ns name provider version).step
    (World.empty.put (s.moduleKey ns name provider version) "")).1, fun w hw hpresent => ?_,
    fun w hw => ?_⟩
  · simp only [moduleKey] at hpresent
    simp only [getModuleProg, objectExistsProg, Prog.headObject, Prog.call_bind, Prog.step,
      Request.send_headObject, faultOf_eq_none hw, hpresent, if_true, Prog.ret_bind, Prog.pure_eq,
      faultOf_eq_none (fun _ _ => rfl : (World.empty.put _ "").Reliable), World.put_bucket,
      moduleKey, Function.update_same, Option.isSome_some]
  · simp only [getModuleProg, objectExistsProg, Prog.headObject, Prog.call_bind, Prog.step,
      Request.send_headObject, if_true, Prog.ret_bind, Prog.pure_eq,
      faultOf_eq_none (fun _ _ => rfl : (World.empty.put _ "").Reliable), World.put_bucket,
      moduleKey, Function.update_same, Option.isSome_some]
    simp only [presignedURLProg, Prog.presignGetObject, Prog.call_bind, Prog.ret_bind, Prog.step,
      Request.send, Sdk.presignGetObject, faultOf_eq_none hw, Prog.pure_eq]

variable (unmarshalSigningKeys : Blob → Except String Core.SigningKeys)

/-- Two clients that upload the same module version at once can both succeed. In a run where
nothing fails, into a bucket where the version is absent, with the default archive format: both
HEADs are answered before either upload, the first upload stores its body, the second replaces
it, and both calls return the module. `UploadModule`'s check for an existing module is not
atomic with its upload, so a module stored during a run can be replaced within it. -/
theorem uploadModule_race (hfmt : s.moduleArchiveFormat = defaultModuleArchiveFormat)
    (hns : ns ≠ "") (hname : name ≠ "") (hprov : provider ≠ "") (hver : version ≠ "")
    {w : World} (hw : w.Reliable) (habsent : w.bucket (s.moduleKey ns name provider version) = none)
    (body₁ body₂ : Blob) : ∃ sched₁ sched₂,
      ((System.start s unmarshalSigningKeys [.uploadModule ns name provider version body₁,
          .uploadModule ns name provider version body₂] w).run sched₁).world.bucket
        (s.moduleKey ns name provider version) = some body₁ ∧
      (((System.start s unmarshalSigningKeys [.uploadModule ns name provider version body₁,
          .uploadModule ns name provider version body₂] w).run sched₁).run sched₂).world.bucket
        (s.moduleKey ns name provider version) = some body₂ ∧
      (((System.start s unmarshalSigningKeys [.uploadModule ns name provider version body₁,
          .uploadModule ns name provider version body₂] w).run sched₁).run sched₂).threads =
        [⟨.uploadModule ns name provider version body₁, .ret (.ok ⟨ns, name, provider, version,
            presignedGetURL s.bucket (s.moduleKey ns name provider version)⟩)⟩,
         ⟨.uploadModule ns name provider version body₂, .ret (.ok ⟨ns, name, provider, version,
            presignedGetURL s.bucket (s.moduleKey ns name provider version)⟩)⟩] := by
  have hne : firstEmpty [(ns, "namespace not defined"), (name, "name not defined"),
      (provider, "provider not defined"), (version, "version not defined")] = none :=
    firstEmpty_eq_none.mpr (by simp [hns, hname, hprov, hver])
  have hkey : s.uploadKey ns name provider version = s.moduleKey ns name provider version := by
    rw [uploadKey, moduleKey, hfmt]
  obtain ⟨q₁, h₁, h₁'⟩ := s.uploadModuleProg_steps_absent hne body₁
  obtain ⟨q₂, h₂, h₂'⟩ := s.uploadModuleProg_steps_absent hne body₂
  obtain ⟨q, h, h'⟩ := @getModuleProg_steps_present s ns name provider version
  refine ⟨[0, 1, 0], [1, 0, 0, 1, 1], ?_⟩
  simp [System.run, System.step, System.start, ServingOp.prog, h₁, h₂, h₁', h₂', h, h', hw,
    habsent, hkey]

/-- Two uploads of `acme/tls/aws/1.0.0` into an empty bucket, with the contents `v1` and `v2`. -/
def racingUploads : System :=
  System.start tarRegistry (fun _ => .error "unused")
    [.uploadModule "acme" "tls" "aws" "1.0.0" "v1", .uploadModule "acme" "tls" "aws" "1.0.0" "v2"]
    World.empty

/-- The race at the bucket `registry` and the module `acme/tls/aws/1.0.0`. -/
theorem uploadModule_race_registry :
    tarRegistry.moduleArchiveFormat = defaultModuleArchiveFormat ∧ "acme" ≠ "" ∧ "tls" ≠ "" ∧
      "aws" ≠ "" ∧ "1.0.0" ≠ "" ∧ World.empty.Reliable ∧
      World.empty.bucket (tarRegistry.moduleKey "acme" "tls" "aws" "1.0.0") = none ∧
    ∃ sched₁ sched₂,
      (racingUploads.run sched₁).world.bucket (tarRegistry.moduleKey "acme" "tls" "aws" "1.0.0") =
          some "v1" ∧
        ((racingUploads.run sched₁).run sched₂).world.bucket
          (tarRegistry.moduleKey "acme" "tls" "aws" "1.0.0") = some "v2" ∧
        ((racingUploads.run sched₁).run sched₂).threads =
          [⟨.uploadModule "acme" "tls" "aws" "1.0.0" "v1",
              .ret (.ok ⟨"acme", "tls", "aws", "1.0.0",
                presignedGetURL "registry" (tarRegistry.moduleKey "acme" "tls" "aws" "1.0.0")⟩)⟩,
            ⟨.uploadModule "acme" "tls" "aws" "1.0.0" "v2",
              .ret (.ok ⟨"acme", "tls", "aws", "1.0.0",
                presignedGetURL "registry" (tarRegistry.moduleKey "acme" "tls" "aws" "1.0.0")⟩)⟩] :=
  ⟨rfl, by decide, by decide, by decide, by decide, fun _ _ => rfl, rfl,
    uploadModule_race _ _ rfl (by decide) (by decide) (by decide) (by decide) (fun _ _ => rfl) rfl
      _ _⟩

/-- In a run where nothing fails, `UploadProviderReleaseFiles` of an absent file sends the HEAD
of the file's key, which answers 404, then uploads the file there and returns nil. -/
theorem uploadProviderReleaseFilesProg_steps_absent {ns name filename D : String}
    (hne : firstEmpty [(ns, "namespace argument is empty"), (name, "name argument is empty"),
      (filename, "name argument is empty")] = none)
    (hD : providerStoragePrefix s.bucketPrefix internalProviderType "" ns name = .ok D)
    (file : Blob) : ∃ q,
      (∀ w : World, w.Reliable → w.bucket (Filepath.join [D, filename]) = none →
        (s.uploadProviderReleaseFilesProg ns name filename file).step w =
          (q, w.record (.headObject s.bucket (Filepath.join [D, filename])))) ∧
      ∀ w : World, w.Reliable → q.step w = (.ret (.ok ()),
        (w.record (.upload s.bucket (Filepath.join [D, filename]) file)).put
          (Filepath.join [D, filename]) file) := by
  have hempty : World.empty.Reliable := fun _ _ => rfl
  have hnone : ∀ k, World.empty.bucket k = none := fun _ => rfl
  refine ⟨((s.uploadProviderReleaseFilesProg ns name filename file).step World.empty).1,
    fun w hw habsent => ?_, fun w hw => ?_⟩
  · simp only [uploadProviderReleaseFilesProg, hne, hD, objectExistsProg, Prog.headObject,
      Prog.call_bind, Prog.step, Request.send_headObject, faultOf_eq_none hw, habsent,
      faultOf_eq_none hempty, hnone, Option.isSome_none, Bool.false_eq_true, if_false,
      Prog.ret_bind, Prog.pure_eq]
  · simp only [uploadProviderReleaseFilesProg, hne, hD, objectExistsProg, Prog.headObject,
      Prog.call_bind, Prog.step, Request.send_headObject, faultOf_eq_none hempty, hnone,
      Option.isSome_none, Bool.false_eq_true, if_false, Prog.ret_bind, Prog.pure_eq,
      SdkError.notFound, if_true, Prog.upload, Request.send_upload, faultOf_eq_none hw]

/-- Two clients that upload the same provider file at once can both succeed. In a run where
nothing fails, into a bucket where the file's key is absent: both HEADs are answered before
either upload, the first upload stores its file, the second replaces it, and both calls return
nil. As for modules, the check for an existing file is not atomic with the upload. -/
theorem uploadProviderReleaseFiles_race {ns name filename D : String} (hns : ns ≠ "")
    (hname : name ≠ "") (hfile : filename ≠ "")
    (hD : providerStoragePrefix s.bucketPrefix internalProviderType "" ns name = .ok D)
    {w : World} (hw : w.Reliable) (habsent : w.bucket (Filepath.join [D, filename]) = none)
    (file₁ file₂ : Blob) : ∃ sched₁ sched₂,
      ((System.start s unmarshalSigningKeys [.uploadProviderReleaseFiles ns name filename file₁,
          .uploadProviderReleaseFiles ns name filename file₂] w).run sched₁).world.bucket
        (Filepath.join [D, filename]) = some file₁ ∧
      (((System.start s unmarshalSigningKeys [.uploadProviderReleaseFiles ns name filename file₁,
          .uploadProviderReleaseFiles ns name filename file₂] w).run sched₁).run
          sched₂).world.bucket (Filepath.join [D, filename]) = some file₂ ∧
      (((System.start s unmarshalSigningKeys [.uploadProviderReleaseFiles ns name filename file₁,
          .uploadProviderReleaseFiles ns name filename file₂] w).run sched₁).run
          sched₂).threads =
        [⟨.uploadProviderReleaseFiles ns name filename file₁, .ret (.ok ())⟩,
          ⟨.uploadProviderReleaseFiles ns name filename file₂, .ret (.ok ())⟩] := by
  have hne : firstEmpty [(ns, "namespace argument is empty"), (name, "name argument is empty"),
      (filename, "name argument is empty")] = none :=
    firstEmpty_eq_none.mpr (by simp [hns, hname, hfile])
  obtain ⟨q₁, h₁, h₁'⟩ := s.uploadProviderReleaseFilesProg_steps_absent hne hD file₁
  obtain ⟨q₂, h₂, h₂'⟩ := s.uploadProviderReleaseFilesProg_steps_absent hne hD file₂
  refine ⟨[0, 1, 0], [1], ?_⟩
  simp [System.run, System.step, System.start, ServingOp.prog, h₁, h₂, h₁', h₂', hw, habsent]

/-- The race at the bucket `registry` and the manifest of `acme/tls` 1.0.0. -/
theorem uploadProviderReleaseFiles_race_registry :
    "acme" ≠ "" ∧ "tls" ≠ "" ∧ "terraform-provider-tls_1.0.0_SHA256SUMS" ≠ "" ∧
    providerStoragePrefix (newS3Storage "registry" []).bucketPrefix internalProviderType "" "acme"
      "tls" = .ok "providers/acme/tls" ∧ World.empty.Reliable ∧
    World.empty.bucket
      (Filepath.join ["providers/acme/tls", "terraform-provider-tls_1.0.0_SHA256SUMS"]) = none ∧
    ∃ sched₁ sched₂,
      ((System.start (newS3Storage "registry" []) (fun _ => .error "unused")
          [.uploadProviderReleaseFiles "acme" "tls" "terraform-provider-tls_1.0.0_SHA256SUMS" "s1",
            .uploadProviderReleaseFiles "acme" "tls" "terraform-provider-tls_1.0.0_SHA256SUMS"
              "s2"] World.empty).run sched₁).world.bucket
        (Filepath.join ["providers/acme/tls", "terraform-provider-tls_1.0.0_SHA256SUMS"]) =
          some "s1" ∧
      (((System.start (newS3Storage "registry" []) (fun _ => .error "unused")
          [.uploadProviderReleaseFiles "acme" "tls" "terraform-provider-tls_1.0.0_SHA256SUMS" "s1",
            .uploadProviderReleaseFiles "acme" "tls" "terraform-provider-tls_1.0.0_SHA256SUMS"
              "s2"] World.empty).run sched₁).run sched₂).world.bucket
        (Filepath.join ["providers/acme/tls", "terraform-provider-tls_1.0.0_SHA256SUMS"]) =
          some "s2" ∧
      (((System.start (newS3Storage "registry" []) (fun _ => .error "unused")
          [.uploadProviderReleaseFiles "acme" "tls" "terraform-provider-tls_1.0.0_SHA256SUMS" "s1",
            .uploadProviderReleaseFiles "acme" "tls" "terraform-provider-tls_1.0.0_SHA256SUMS"
              "s2"] World.empty).run sched₁).run sched₂).threads =
        [⟨.uploadProviderReleaseFiles "acme" "tls" "terraform-provider-tls_1.0.0_SHA256SUMS" "s1",
            .ret (.ok ())⟩,
          ⟨.uploadProviderReleaseFiles "acme" "tls" "terraform-provider-tls_1.0.0_SHA256SUMS" "s2",
            .ret (.ok ())⟩] :=
  ⟨by decide, by decide, by decide, by decide, fun _ _ => rfl, rfl,
    uploadProviderReleaseFiles_race _ _ (by decide) (by decide) (by decide) (by decide)
      (fun _ _ => rfl) rfl _ _⟩

end S3Storage

end BoringRegistry
