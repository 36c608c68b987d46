import BoringRegistry.Concurrent.Interleavings

/-!
# Operations on different keys do not interfere

S3 serves each request atomically, and `uploadModule_race` shows what that leaves open: two
uploads of one key interleave their check and their write. This module shows that a writer
sharing its key is the only way the single-key operations interfere. Operations whose requests
all read or write one key, run concurrently, where two of them share a key only if both just
read it, behave as if each ran alone on the bucket as it was when the run began: each returns
what it returns alone, and its key ends as that solo run leaves it. Keys that no operation works
on keep their objects. In particular any number of lookups of one module may run at once.

`GetModule`, `UploadModule` with the default archive format, `UploadProviderReleaseFiles` and
`SigningKeys` are such operations: each sends HEADs, downloads and uploads of its own key, and
presigns. `GetModule` and `SigningKeys` only read.

## The argument

`Local key p` says that `p` sends HEADs, downloads and uploads of `key`, and presigns, and
nothing else; `Reads key p` says the same without the uploads. In a world where nothing fails,
one request of a `Local` program depends on the bucket only at `key` and changes it only there
(`Local.step`); one request of a `Reads` program changes nothing (`Reads.step`). `System.Solo`
says that every thread is where the first requests of its program, run alone from the start, take
it, and that its key holds what those requests leave there. A request of one thread changes at
most that thread's key, and does not change it when another thread shares it, so every step
keeps `Solo` (`System.Solo.step`), and so does every schedule (`System.Solo.run`).

## Scope

Failures are excluded: the failure pattern counts the sendings of each request across all
threads, so under failures a thread's answers could depend on how often the others have sent the
same request.

## Main definitions

* `Prog.steps` — the first requests of a program, run alone
* `Local`, `Reads` — programs that work on one key, and those that only read it
* `ServingOp.key?` — the key of a single-key serving operation
* `System.Solo` — the invariant of a run of threads that share keys only to read them

## Main results

* `Local.step` — one request of a program that works on one key reads and writes only that key
* `System.Solo.run` — in every schedule, each thread is where running alone takes it
* `System.run_single_key_ops` — single-key calls that share keys only to read them return, in
  every interleaving, what they return alone, and leave their keys as they leave them alone
-/

namespace BoringRegistry

/-! ### Running a program alone -/

namespace Prog

variable {α : Type}

/-- The first `n` requests of `p`, run alone from `w`. -/
def steps (p : Prog α) (w : World) : Nat → Prog α × World
  | 0 => (p, w)
  | n + 1 => (p.steps w n).1.step (p.steps w n).2

/-- One request does not change what the rest of a run returns, nor where it ends. -/
theorem run_step (p : Prog α) (w : World) : (p.step w).1.run (p.step w).2 = p.run w := by
  cases p with
  | ret a => rfl
  | panic q => rfl
  | call r k =>
    obtain ⟨x, w', h⟩ := r.send_ok w
    simp [step_call h, Go.bind_apply, h]

theorem run_steps (p : Prog α) (w : World) (n : Nat) :
    (p.steps w n).1.run (p.steps w n).2 = p.run w := by
  induction n with
  | zero => rfl
  | succ n ih => rw [steps, run_step, ih]

/-- A program that has returned `a` after some of its requests, run alone, returns `a` and ends
in the world those requests reached. -/
theorem run_of_steps_eq_ret {p : Prog α} {w : World} {n : Nat} {a : α}
    (h : (p.steps w n).1 = .ret a) : p.run w = .ok a (p.steps w n).2 := by
  rw [← run_steps p w n, h]
  rfl

end Prog

/-! ### Programs that work on one key -/

section Local

variable {α β : Type}

/-- `Local key p`: `p` sends HEADs, downloads and uploads of `key`, and presigns, and no other
request. -/
inductive Local (key : String) : Prog α → Prop
  | ret (a : α) : Local key (.ret a)
  | panic (q : Panic) : Local key (.panic q)
  | headObject {bucket : String} {k : Except SdkError Unit → Prog α}
      (next : ∀ x, Local key (k x)) : Local key (.call (.headObject bucket key) k)
  | presignGetObject {bucket key' : String} {expires : Nat}
      {k : Except SdkError PresignedHTTPRequest → Prog α} (next : ∀ x, Local key (k x)) :
      Local key (.call (.presignGetObject bucket key' expires) k)
  | download {bucket : String} {k : Except SdkError Blob → Prog α}
      (next : ∀ x, Local key (k x)) : Local key (.call (.download bucket key) k)
  | upload {bucket : String} {body : Blob} {k : Except SdkError Unit → Prog α}
      (next : ∀ x, Local key (k x)) : Local key (.call (.upload bucket key body) k)

variable {key : String}

theorem Local.bind {x : Prog α} {f : α → Prog β} (hx : Local key x)
    (hf : ∀ a, Local key (f a)) :
    Local key (x >>= f) := by
  induction hx with
  | ret a => exact hf a
  | panic q => exact .panic q
  | headObject _ ih => exact .headObject ih
  | presignGetObject _ ih => exact .presignGetObject ih
  | download _ ih => exact .download ih
  | upload _ ih => exact .upload ih

/-- `Reads key p`: `p` sends HEADs and downloads of `key`, and presigns, and no other request; it
works on `key` without writing it. -/
inductive Reads (key : String) : Prog α → Prop
  | ret (a : α) : Reads key (.ret a)
  | panic (q : Panic) : Reads key (.panic q)
  | headObject {bucket : String} {k : Except SdkError Unit → Prog α}
      (next : ∀ x, Reads key (k x)) : Reads key (.call (.headObject bucket key) k)
  | presignGetObject {bucket key' : String} {expires : Nat}
      {k : Except SdkError PresignedHTTPRequest → Prog α} (next : ∀ x, Reads key (k x)) :
      Reads key (.call (.presignGetObject bucket key' expires) k)
  | download {bucket : String} {k : Except SdkError Blob → Prog α}
      (next : ∀ x, Reads key (k x)) : Reads key (.call (.download bucket key) k)

theorem Reads.local {p : Prog α} (hp : Reads key p) : Local key p := by
  induction hp with
  | ret a => exact .ret a
  | panic q => exact .panic q
  | headObject _ ih => exact .headObject ih
  | presignGetObject _ ih => exact .presignGetObject ih
  | download _ ih => exact .download ih

theorem Reads.bind {x : Prog α} {f : α → Prog β} (hx : Reads key x)
    (hf : ∀ a, Reads key (f a)) : Reads key (x >>= f) := by
  induction hx with
  | ret a => exact hf a
  | panic q => exact .panic q
  | headObject _ ih => exact .headObject ih
  | presignGetObject _ ih => exact .presignGetObject ih
  | download _ ih => exact .download ih

/-- A request of a program that only reads leaves the bucket as it was, whatever S3 answers. -/
theorem Reads.step {p : Prog α} (hp : Reads key p) (w : World) :
    Reads key (p.step w).1 ∧ (p.step w).2.bucket = w.bucket := by
  cases hp with
  | ret a => exact ⟨.ret a, rfl⟩
  | panic q => exact ⟨.panic q, rfl⟩
  | headObject next =>
    rw [Prog.step_call (Request.send_headObject _ _ w)]
    exact ⟨next _, rfl⟩
  | @presignGetObject bucket key' expires _ next =>
    obtain ⟨x, hsend⟩ := Request.send_presignGetObject bucket key' expires w
    rw [Prog.step_call hsend]
    exact ⟨next x, rfl⟩
  | @download bucket _ next =>
    obtain ⟨x, hsend⟩ := Request.send_download bucket key w
    rw [Prog.step_call hsend]
    exact ⟨next x, rfl⟩

theorem Reads.steps {p : Prog α} (hp : Reads key p) (w : World) (n : Nat) :
    Reads key (p.steps w n).1 := by
  induction n with
  | zero => exact hp
  | succ n ih => exact (ih.step _).1

/-- One request of a program that works on `key`, in a world where nothing fails: the rest of the
program and what `key` then holds depend on the bucket only at `key`, the world still has no
failures, and no other key changes. -/
theorem Local.step {p : Prog α} (hp : Local key p) (w : World) :
    ∃ q v, Local key q ∧ ∀ w' : World, w'.Reliable → w'.bucket key = w.bucket key →
      (p.step w').1 = q ∧ (p.step w').2.Reliable ∧
        (p.step w').2.bucket = Function.update w'.bucket key v := by
  cases hp with
  | ret a =>
    exact ⟨_, w.bucket key, .ret a, fun w' hw' hk =>
      ⟨rfl, hw', by rw [← hk, Function.update_eq_self]; rfl⟩⟩
  | panic q =>
    exact ⟨_, w.bucket key, .panic q, fun w' hw' hk =>
      ⟨rfl, hw', by rw [← hk, Function.update_eq_self]; rfl⟩⟩
  | headObject next =>
    refine ⟨_, w.bucket key,
      next (if (w.bucket key).isSome then .ok () else .error SdkError.notFound),
      fun w' hw' hk => ?_⟩
    rw [Prog.step_call (Request.send_headObject _ _ w'), hw'.faultOf, ← hk]
    exact ⟨rfl, hw', (Function.update_eq_self _ _).symm⟩
  | @presignGetObject bucket key' expires _ next =>
    refine ⟨_, w.bucket key, next (.ok ⟨presignedGetURL bucket key'⟩), fun w' hw' hk => ?_⟩
    have hsend : (Request.presignGetObject bucket key' expires).send w' =
        .ok (.ok ⟨presignedGetURL bucket key'⟩)
          (w'.record (.presignGetObject bucket key' expires)) := by
      simp only [Request.send, Sdk.presignGetObject, hw'.faultOf]
    rw [Prog.step_call hsend, ← hk]
    exact ⟨rfl, hw', (Function.update_eq_self _ _).symm⟩
  | @download bucket _ next =>
    refine ⟨_, w.bucket key, next (match w.bucket key with
      | some body => .ok body
      | none => .error SdkError.notFound), fun w' hw' hk => ?_⟩
    have hsend : (Request.download bucket key).send w' = .ok (match w.bucket key with
        | some body => .ok body
        | none => .error SdkError.notFound) (w'.record (.download bucket key)) := by
      cases hb : w.bucket key <;> simp only [Request.send, Sdk.download, hw'.faultOf, hk, hb]
    rw [Prog.step_call hsend, ← hk]
    exact ⟨rfl, hw', (Function.update_eq_self _ _).symm⟩
  | @upload bucket body _ next =>
    refine ⟨_, some body, next (.ok ()), fun w' hw' _ => ?_⟩
    have hsend : (Request.upload bucket key body).send w' =
        .ok (.ok ()) ((w'.record (.upload bucket key body)).put key body) := by
      rw [Request.send_upload, hw'.faultOf]
    rw [Prog.step_call hsend]
    exact ⟨rfl, hw', rfl⟩

/-- Run alone from a world where nothing fails, a program that works on `key` still works on it
after any number of its requests, and the world it reaches has no failures. -/
theorem Local.steps {p : Prog α} (hp : Local key p) {w : World} (hw : w.Reliable) (n : Nat) :
    Local key (p.steps w n).1 ∧ (p.steps w n).2.Reliable := by
  induction n with
  | zero => exact ⟨hp, hw⟩
  | succ n ih =>
    obtain ⟨q, v, hq, hstep⟩ := ih.1.step (p.steps w n).2
    obtain ⟨h₁, h₂, -⟩ := hstep _ ih.2 rfl
    exact ⟨by rw [Prog.steps, h₁]; exact hq, h₂⟩

end Local

/-! ### The single-key operations -/

namespace S3Storage

variable (s : S3Storage) {key : String}

theorem presignedURLProg_reads (key' : String) : Reads key (s.presignedURLProg key') :=
  Reads.bind (.presignGetObject Reads.ret) fun r => by cases r <;> constructor

theorem objectExistsProg_reads : Reads key (s.objectExistsProg key) :=
  Reads.bind (.headObject Reads.ret) fun r => by
    rcases r with err | _
    · dsimp only; split <;> exact .ret _
    · exact .ret _

theorem downloadProg_reads : Reads key (s.downloadProg key) :=
  Reads.bind (.download Reads.ret) fun r => by cases r <;> constructor

theorem getModuleProg_reads (ns name provider version : String) :
    Reads (s.moduleKey ns name provider version) (s.getModuleProg ns name provider version) := by
  refine (s.objectExistsProg_reads).bind fun r => ?_
  rcases r with _ | _ | _
  · exact .ret _
  · exact .ret _
  · exact (s.presignedURLProg_reads _).bind fun r => by cases r <;> exact .ret _

/-- With the default archive format, `UploadModule` uploads to the key its `GetModule` probes. -/
theorem uploadModuleProg_local (hfmt : s.moduleArchiveFormat = defaultModuleArchiveFormat)
    (ns name provider version : String) (body : Blob) :
    Local (s.moduleKey ns name provider version)
      (s.uploadModuleProg ns name provider version body) := by
  have hkey : modulePath s.bucketPrefix ns name provider version defaultModuleArchiveFormat =
      s.moduleKey ns name provider version := by
    rw [moduleKey, hfmt]
  unfold uploadModuleProg
  cases firstEmpty [(ns, "namespace not defined"), (name, "name not defined"),
      (provider, "provider not defined"), (version, "version not defined")] with
  | some msg => exact .ret _
  | none =>
    refine (s.getModuleProg_reads ns name provider version).local.bind fun r => ?_
    rcases r with _ | _
    · rw [hkey]
      refine .upload fun x => ?_
      rcases x with _ | ⟨⟩
      · exact .ret _
      · exact (s.getModuleProg_reads ns name provider version).local
    · exact .ret _

theorem uploadProviderReleaseFilesProg_local {ns name filename pfx : String}
    (hpfx : providerStoragePrefix s.bucketPrefix internalProviderType "" ns name = .ok pfx)
    (file : Blob) :
    Local (Filepath.join [pfx, filename])
      (s.uploadProviderReleaseFilesProg ns name filename file) := by
  unfold uploadProviderReleaseFilesProg
  cases firstEmpty [(ns, "namespace argument is empty"), (name, "name argument is empty"),
      (filename, "name argument is empty")] with
  | some msg => exact .ret _
  | none =>
    rw [hpfx]
    refine (s.objectExistsProg_reads).local.bind fun r => ?_
    rcases r with _ | _ | _
    · exact .ret _
    · exact .upload fun x => by cases x <;> exact .ret _
    · exact .ret _

theorem signingKeysProg_reads (unmarshalSigningKeys : Blob → Except String Core.SigningKeys)
    (ns : String) :
    Reads (signingKeysPath s.bucketPrefix ns) (s.signingKeysProg unmarshalSigningKeys ns) := by
  unfold signingKeysProg
  cases firstEmpty [(ns, "namespace argument is empty")] with
  | some msg => exact .ret _
  | none =>
    refine (s.downloadProg_reads).bind fun r => ?_
    rcases r with _ | raw
    · exact .ret _
    · dsimp only
      cases unmarshalSigningKeys raw <;> exact .ret _

end S3Storage

section Serving

variable (s : S3Storage) (unmarshalSigningKeys : Blob → Except String Core.SigningKeys)

/-- The one key a serving operation works on, when it works on one: the module key of
`GetModule` and `UploadModule`, the release file's key of `UploadProviderReleaseFiles`, and the
namespace's signing keys for `SigningKeys`. The listings read whole directories and `GetProvider`
reads two keys. -/
def ServingOp.key? : ServingOp → Option String
  | .getModule ns name provider version => some (s.moduleKey ns name provider version)
  | .uploadModule ns name provider version _ => some (s.moduleKey ns name provider version)
  | .uploadProviderReleaseFiles ns name filename _ =>
    match providerStoragePrefix s.bucketPrefix internalProviderType "" ns name with
    | .ok pfx => some (Filepath.join [pfx, filename])
    | .error _ => none
  | .signingKeys ns => some (signingKeysPath s.bucketPrefix ns)
  | .listModuleVersions .. => none
  | .getProvider .. => none
  | .listProviderVersions .. => none

/-- Whether a serving operation leaves the bucket as it is: every one but the two uploads. -/
def ServingOp.readOnly : ServingOp → Bool
  | .uploadModule .. => false
  | .uploadProviderReleaseFiles .. => false
  | _ => true

/-- A read-only operation with a key reads that key alone. -/
theorem ServingOp.prog_reads {op : ServingOp} (hro : op.readOnly = true) {key : String}
    (hop : op.key? s = some key) : Reads key (op.prog s unmarshalSigningKeys) := by
  cases op with
  | getModule => cases hop; exact s.getModuleProg_reads _ _ _ _
  | signingKeys => cases hop; exact s.signingKeysProg_reads unmarshalSigningKeys _
  | uploadModule => cases hro
  | uploadProviderReleaseFiles => cases hro
  | listModuleVersions => cases hop
  | getProvider => cases hop
  | listProviderVersions => cases hop

/-- An operation with a key works on that key alone, provided the archive format is the default
one, so that `UploadModule` writes where it looks. -/
theorem ServingOp.prog_local (hfmt : s.moduleArchiveFormat = defaultModuleArchiveFormat)
    {op : ServingOp} {key : String} (hop : op.key? s = some key) :
    Local key (op.prog s unmarshalSigningKeys) := by
  cases op with
  | getModule => cases hop; exact (s.getModuleProg_reads _ _ _ _).local
  | uploadModule => cases hop; exact s.uploadModuleProg_local hfmt _ _ _ _ _
  | uploadProviderReleaseFiles ns name filename file =>
    rcases hpfx : providerStoragePrefix s.bucketPrefix internalProviderType "" ns name with _ | pfx
    · simp [ServingOp.key?, hpfx] at hop
    · simp only [ServingOp.key?, hpfx, Option.some.injEq] at hop
      exact hop ▸ s.uploadProviderReleaseFilesProg_local hpfx file
  | signingKeys => cases hop; exact (s.signingKeysProg_reads unmarshalSigningKeys _).local
  | listModuleVersions => cases hop
  | getProvider => cases hop
  | listProviderVersions => cases hop

end Serving

/-! ### Runs of threads that share keys only to read them -/

theorem pairwise_of_getElem? {α : Type} {R : α → α → Prop} {l : List α} (h : l.Pairwise R)
    {i j : Nat} {a b : α} (ha : l[i]? = some a) (hb : l[j]? = some b) (hij : i < j) : R a b := by
  obtain ⟨hi, rfl⟩ := List.getElem?_eq_some_iff.mp ha
  obtain ⟨hj, rfl⟩ := List.getElem?_eq_some_iff.mp hb
  exact List.pairwise_iff_getElem.mp h i j hi hj hij

namespace System

variable (key : ServingOp → String) (init : List Thread) (w₀ : World)

/-- The invariant of a run of the threads `init` from `w₀`, thread `t` working on the key
`key t.1`: each thread is where its first requests, sent alone from `w₀`, take it, and its key
holds what they leave there; every other key holds what it held in `w₀`; and nothing fails. -/
structure Solo (sys : System) : Prop where
  reliable : sys.world.Reliable
  length : sys.threads.length = init.length
  solo : ∀ (i : Nat) (t : Thread), init[i]? = some t →
    ∃ n, sys.threads[i]? = some ⟨t.1, (t.2.steps w₀ n).1⟩ ∧
    sys.world.bucket (key t.1) = (t.2.steps w₀ n).2.bucket (key t.1)
  frame : ∀ k, (∀ t ∈ init, key t.1 ≠ k) → sys.world.bucket k = w₀.bucket k

variable {key init w₀}

theorem solo_init (hw₀ : w₀.Reliable) : Solo key init w₀ ⟨init, w₀⟩ where
  reliable := hw₀
  length := rfl
  solo _ _ ht := ⟨0, ht, rfl⟩
  frame _ _ := rfl

/-- A thread of the run is a thread of `init`, some requests in. -/
theorem Solo.thread {sys : System} (h : Solo key init w₀ sys) {i : Nat} {t' : Thread}
    (ht' : sys.threads[i]? = some t') : ∃ t n, init[i]? = some t ∧
      t' = ⟨t.1, (t.2.steps w₀ n).1⟩ ∧
      sys.world.bucket (key t.1) = (t.2.steps w₀ n).2.bucket (key t.1) := by
  obtain ⟨hi, -⟩ := List.getElem?_eq_some_iff.mp ht'
  obtain ⟨n, hn, hb⟩ := h.solo i _ (List.getElem?_eq_getElem (h.length ▸ hi))
  exact ⟨_, n, List.getElem?_eq_getElem (h.length ▸ hi), Option.some.inj (ht'.symm.trans hn),
    hb⟩

variable (hw₀ : w₀.Reliable) (hloc : ∀ t ∈ init, Local (key t.1) t.2)
  (hshare : ∀ (i j : Nat) (t u : Thread), init[i]? = some t → init[j]? = some u → i ≠ j →
    key t.1 = key u.1 → Reads (key t.1) t.2)
include hw₀ hloc hshare

/-- One request of any thread keeps `Solo`. The request reads and writes only its thread's key,
which holds what it would hold had the thread run alone. Another thread of the same key only
reads it, and so does this one, so the request leaves the bucket as it is. -/
theorem Solo.step {sys : System} (h : Solo key init w₀ sys) (i : Nat) :
    Solo key init w₀ (sys.step i) := by
  unfold System.step
  split
  · rename_i t' ht'
    obtain ⟨t, n, ht, rfl, hkey⟩ := h.thread ht'
    obtain ⟨hloc', hrel⟩ := (hloc t (List.getElem?_mem ht)).steps hw₀ n
    obtain ⟨q, v, -, hq⟩ := hloc'.step (t.2.steps w₀ n).2
    obtain ⟨hq₁, -, hb₁⟩ := hq _ hrel rfl
    obtain ⟨hq₂, hrel₂, hb₂⟩ := hq _ h.reliable hkey
    refine ⟨hrel₂, by rw [List.length_set, h.length], fun j u hu => ?_, fun k hk => ?_⟩
    · rcases eq_or_ne i j with rfl | hij
      · cases Option.some.inj (ht.symm.trans hu)
        refine ⟨n + 1, ?_, ?_⟩
        · rw [List.getElem?_set_self (List.getElem?_eq_some_iff.mp ht').1, hq₂, Prog.steps,
            hq₁]
        · rw [hb₂, Prog.steps, hb₁, Function.update_same, Function.update_same]
      · obtain ⟨m, hm, hb⟩ := h.solo j u hu
        refine ⟨m, by rw [List.getElem?_set_ne hij, hm], ?_⟩
        rw [← hb]
        by_cases hk : key u.1 = key t.1
        · exact congrFun (((hshare i j t u ht hu hij hk.symm).steps w₀ n).step sys.world).2 _
        · rw [hb₂, Function.update_noteq hk]
    · rw [hb₂, Function.update_noteq (hk t (List.getElem?_mem ht)).symm, h.frame k hk]
  · exact h

theorem Solo.run (sched : List Nat) :
    ∀ {sys : System}, Solo key init w₀ sys → Solo key init w₀ (sys.run sched) := by
  induction sched with
  | nil => exact id
  | cons i sched ih => exact fun h => ih (h.step hw₀ hloc hshare i)

omit hw₀ hloc hshare

variable (s : S3Storage) (unmarshalSigningKeys : Blob → Except String Core.SigningKeys)

theorem start_getElem? {ops : List ServingOp} {w₀ : World} {i : Nat} {t : Thread}
    (ht : (start s unmarshalSigningKeys ops w₀).threads[i]? = some t) :
    ∃ op, ops[i]? = some op ∧ t = ⟨op, op.prog s unmarshalSigningKeys⟩ := by
  simp only [start, List.getElem?_map, Option.map_eq_some'] at ht
  obtain ⟨op, hop, rfl⟩ := ht
  exact ⟨op, hop, rfl⟩

theorem key?_eq_some_getD {op : ServingOp} (h : (op.key? s).isSome) :
    op.key? s = some ((op.key? s).getD "") := by
  obtain ⟨k, hk⟩ := Option.isSome_iff_exists.mp h
  rw [hk]; rfl

/-- Single-key calls that share keys only to read them, started together in a world where
nothing fails, keep `Solo` over every schedule. -/
theorem start_solo (hfmt : s.moduleArchiveFormat = defaultModuleArchiveFormat)
    {ops : List ServingOp} (hops : ∀ op ∈ ops, (op.key? s).isSome)
    (hshare : ops.Pairwise fun a b => a.key? s = b.key? s → a.readOnly ∧ b.readOnly)
    {w₀ : World} (hw₀ : w₀.Reliable) (sched : List Nat) :
    Solo (fun op => (op.key? s).getD "") (start s unmarshalSigningKeys ops w₀).threads w₀
      ((start s unmarshalSigningKeys ops w₀).run sched) := by
  have hkey : ∀ op ∈ ops, op.key? s = some ((op.key? s).getD "") := fun op hop =>
    key?_eq_some_getD s (hops op hop)
  have hloc : ∀ t ∈ (start s unmarshalSigningKeys ops w₀).threads,
      Local ((t.1.key? s).getD "") t.2 := by
    intro t ht
    obtain ⟨op, hop, rfl⟩ := List.mem_map.mp ht
    exact op.prog_local s unmarshalSigningKeys hfmt (hkey op hop)
  refine (solo_init hw₀).run hw₀ hloc (fun i j t u ht hu hij he => ?_) sched
  obtain ⟨a, ha, rfl⟩ := start_getElem? s unmarshalSigningKeys ht
  obtain ⟨b, hb, rfl⟩ := start_getElem? s unmarshalSigningKeys hu
  have hab : a.key? s = b.key? s :=
    (hkey a (List.getElem?_mem ha)).trans ((congrArg some he).trans
      (hkey b (List.getElem?_mem hb)).symm)
  have hro : a.readOnly = true := by
    rcases Nat.lt_or_gt_of_ne hij with hlt | hlt
    · exact (pairwise_of_getElem? hshare ha hb hlt hab).1
    · exact (pairwise_of_getElem? hshare hb ha hlt hab.symm).2
  exact a.prog_reads s unmarshalSigningKeys hro (hkey a (List.getElem?_mem ha))

/-- A call of a run that keeps `Solo` and has returned has returned what it returns alone, and
its key holds what its solo run leaves there. -/
theorem Solo.start_ret {ops : List ServingOp} {w₀ : World} {sys : System}
    (h : Solo (fun op => (op.key? s).getD "") (start s unmarshalSigningKeys ops w₀).threads w₀
      sys) {i : Nat} {op : ServingOp} {r : op.Result}
    (hr : sys.threads[i]? = some ⟨op, .ret r⟩) :
    Go.value? (op.call s unmarshalSigningKeys) w₀ = some r ∧
      sys.world.bucket ((op.key? s).getD "") =
        (Go.after (op.call s unmarshalSigningKeys) w₀).bucket ((op.key? s).getD "") := by
  obtain ⟨t, n, ht, heq, hb⟩ := h.thread hr
  obtain ⟨op', -, rfl⟩ := start_getElem? s unmarshalSigningKeys ht
  obtain ⟨rfl, hp⟩ := Sigma.mk.inj_iff.mp heq
  have hrun := Prog.run_of_steps_eq_ret (eq_of_heq hp).symm
  rw [ServingOp.run_prog] at hrun
  exact ⟨by rw [Go.value?, hrun], by rw [hb, Go.after, hrun]⟩

/-- In a run that keeps `Solo`, a key that no call works on holds what it held. -/
theorem Solo.start_frame {ops : List ServingOp} (hops : ∀ op ∈ ops, (op.key? s).isSome)
    {w₀ : World} {sys : System}
    (h : Solo (fun op => (op.key? s).getD "") (start s unmarshalSigningKeys ops w₀).threads w₀
      sys) (k : String) (hk : ∀ op ∈ ops, op.key? s ≠ some k) :
    sys.world.bucket k = w₀.bucket k :=
  h.frame k fun t ht he => by
    obtain ⟨op, hop, rfl⟩ := List.mem_map.mp ht
    exact hk op hop (he ▸ key?_eq_some_getD s (hops op hop))

/-- Calls of `GetModule`, `UploadModule`, `UploadProviderReleaseFiles` and `SigningKeys` that
share a key only to read it do not interfere. In a run where nothing fails, with the default
archive format, at every point of every interleaving, each call that has returned has returned
what it returns when it runs alone on the bucket as the run began, and its key holds what that
solo run leaves there; every key that no call works on holds what it held. -/
theorem run_single_key_ops (hfmt : s.moduleArchiveFormat = defaultModuleArchiveFormat)
    (ops : List ServingOp) (hops : ∀ op ∈ ops, (op.key? s).isSome)
    (hshare : ops.Pairwise fun a b => a.key? s = b.key? s → a.readOnly ∧ b.readOnly)
    {w₀ : World} (hw₀ : w₀.Reliable) (sched : List Nat) :
    (∀ (i : Nat) (op : ServingOp) (r : op.Result),
      ((start s unmarshalSigningKeys ops w₀).run sched).threads[i]? = some ⟨op, .ret r⟩ →
        Go.value? (op.call s unmarshalSigningKeys) w₀ = some r ∧
        ∀ k, op.key? s = some k →
          ((start s unmarshalSigningKeys ops w₀).run sched).world.bucket k =
            (Go.after (op.call s unmarshalSigningKeys) w₀).bucket k) ∧
    ∀ k, (∀ op ∈ ops, op.key? s ≠ some k) →
      ((start s unmarshalSigningKeys ops w₀).run sched).world.bucket k = w₀.bucket k := by
  have h := start_solo s unmarshalSigningKeys hfmt hops hshare hw₀ sched
  refine ⟨fun i op r hr => ?_, fun k hk => h.start_frame s unmarshalSigningKeys hops k hk⟩
  obtain ⟨hv, hb⟩ := h.start_ret s unmarshalSigningKeys hr
  refine ⟨hv, fun k hk => ?_⟩
  rwa [hk] at hb

end System

/-- Two module uploads, two lookups of a third version and a signing-keys lookup, at the bucket
`registry`. -/
def registryCalls : List ServingOp :=
  [.uploadModule "acme" "tls" "aws" "1.0.0" "v1", .getModule "acme" "tls" "aws" "0.9.0",
    .uploadModule "acme" "tls" "aws" "1.1.0" "v2", .getModule "acme" "tls" "aws" "0.9.0",
    .signingKeys "acme"]

/-- The five calls, interleaved request by request, on an empty bucket. -/
theorem run_single_key_ops_registry :
    tarRegistry.moduleArchiveFormat = defaultModuleArchiveFormat ∧
    (∀ op ∈ registryCalls, (op.key? tarRegistry).isSome) ∧
    registryCalls.Pairwise (fun a b => a.key? tarRegistry = b.key? tarRegistry →
      a.readOnly ∧ b.readOnly) ∧ World.empty.Reliable ∧
    (∀ (i : Nat) (op : ServingOp) (r : op.Result),
      ((System.start tarRegistry (fun _ => .error "unused") registryCalls World.empty).run
          [0, 1, 3, 2, 4, 0, 1, 3, 2, 0, 2]).threads[i]? = some ⟨op, .ret r⟩ →
        Go.value? (op.call tarRegistry fun _ => .error "unused") World.empty = some r ∧
        ∀ k, op.key? tarRegistry = some k →
          ((System.start tarRegistry (fun _ => .error "unused") registryCalls World.empty).run
            [0, 1, 3, 2, 4, 0, 1, 3, 2, 0, 2]).world.bucket k =
            (Go.after (op.call tarRegistry fun _ => .error "unused") World.empty).bucket k) ∧
    ∀ k, (∀ op ∈ registryCalls, op.key? tarRegistry ≠ some k) →
      ((System.start tarRegistry (fun _ => .error "unused") registryCalls World.empty).run
        [0, 1, 3, 2, 4, 0, 1, 3, 2, 0, 2]).world.bucket k = World.empty.bucket k :=
  ⟨rfl, by decide, by decide, fun _ _ => rfl,
    System.run_single_key_ops _ _ rfl _ (by decide) (by decide) (fun _ _ => rfl) _⟩

end BoringRegistry
