import BoringRegistry.Concurrent.Budgets
import BoringRegistry.Concurrent.Independence

/-!
# Every call returns

`presignedURL` reads the URL off the presign result even when the presign failed, and the SDK
returns a nil request along with the error: that dereference is the storage's one way to panic.
No other failure and no answer of S3 makes an operation panic. In a world where no presign fails,
every serving call returns (`ServingOp.call_returns`), and in every interleaving no call ever
panics (`System.run_no_panic`).

Together with the budgets and `System.run_single_key_ops` this says what a fair schedule of
single-key calls comes to: in a world where nothing fails, calls that share keys only to read
them all return, each with what it returns alone (`System.run_single_key_ops_complete`).

## The argument

`Prog.Safe p` says that `p` panics only right after a presign that failed. A safe program keeps
being safe while it runs, and when no presign fails it never reaches a panic (`Prog.Safe.step`).
`System.Safe` says that every thread is safe and that no presign fails; every step keeps it, so
every schedule does (`System.Safe.run`). A thread that has had its budget of turns has finished
(`System.run_done`), and a safe thread that has finished has returned.

## Main definitions

* `World.PresignsSucceed` — runs in which no presign fails
* `Prog.Safe` — programs that panic only right after a failed presign
* `System.Safe` — the invariant of a run in which no presign fails

## Main results

* `ServingOp.prog_safe` — every serving operation panics only after a failed presign
* `ServingOp.call_returns` — when no presign fails, every serving call returns
* `System.run_no_panic` — when no presign fails, no call panics, in every interleaving
* `System.run_single_key_ops_complete` — in a world where nothing fails, single-key calls that
  share keys only to read them, given their budgets of turns, all return what they return alone
-/

namespace BoringRegistry

/-- No request changes the failure pattern. -/
theorem Request.fault_of_send {r : Request} {w w' : World} {x : r.Response}
    (h : r.send w = .ok x w') : w'.fault = w.fault := by
  rcases Request.send_cases h with rfl | ⟨_, _, rfl⟩ <;> rfl

namespace World

/-- No `PresignGetObject` of the run fails. -/
def PresignsSucceed (w : World) : Prop :=
  ∀ bucket key expires n, w.fault (.presignGetObject bucket key expires) n = none

theorem Reliable.presignsSucceed {w : World} (hw : w.Reliable) : w.PresignsSucceed :=
  fun _ _ _ _ => hw _ _

end World

namespace Prog

variable {α β : Type}

/-- `Safe p`: `p` panics only right after a presign that failed. Every other answer of S3 leads
it on to a program that is safe again. -/
inductive Safe : Prog α → Prop
  | ret (a : α) : Safe (.ret a)
  | call {r : Request} {k : r.Response → Prog α} (next : ∀ x, Safe (k x)) : Safe (.call r k)
  | presignGetObject {bucket key : String} {expires : Nat}
      {k : Except SdkError PresignedHTTPRequest → Prog α} (next : ∀ req, Safe (k (.ok req))) :
      Safe (.call (.presignGetObject bucket key expires) k)

/-- A single request, whose answer the program returns. -/
theorem Safe.call_ret (r : Request) : Safe (Prog.call r Prog.ret) :=
  .call fun x => .ret x

theorem Safe.bind {x : Prog α} {f : α → Prog β} (hx : Safe x) (hf : ∀ a, Safe (f a)) :
    Safe (x >>= f) := by
  induction hx with
  | ret a => exact hf a
  | call _ ih => exact .call ih
  | presignGetObject _ ih => exact .presignGetObject ih

/-- A presign, when no presign fails, answers with the URL of its key. -/
theorem send_presignGetObject_of_presignsSucceed {w : World} (hw : w.PresignsSucceed)
    (bucket key : String) (expires : Nat) :
    (Request.presignGetObject bucket key expires).send w =
      .ok (.ok ⟨presignedGetURL bucket key⟩) (w.record (.presignGetObject bucket key expires)) := by
  simp only [Request.send, Sdk.presignGetObject, World.faultOf, hw bucket key expires]

/-- One request of a safe program, when no presign fails, leads to a safe program, and the
failure pattern stays as it is. -/
theorem Safe.step {p : Prog α} (hp : Safe p) {w : World} (hw : w.PresignsSucceed) :
    Safe (p.step w).1 ∧ (p.step w).2.PresignsSucceed := by
  cases hp with
  | ret a => exact ⟨.ret a, hw⟩
  | @call r k next =>
    obtain ⟨x, w', hsend⟩ := r.send_ok w
    rw [step_call hsend]
    exact ⟨next x, by rw [World.PresignsSucceed, Request.fault_of_send hsend]; exact hw⟩
  | presignGetObject next =>
    rw [step_call (send_presignGetObject_of_presignsSucceed hw _ _ _)]
    exact ⟨next _, hw⟩

/-- A safe program is not a panic. -/
theorem Safe.ne_panic {p : Prog α} (hp : Safe p) (q : Panic) : p ≠ .panic q := by
  cases hp <;> exact nofun

/-- A safe program that has finished has returned. -/
theorem Safe.eq_ret {p : Prog α} (hp : Safe p) (hdone : p.Done) : ∃ a, p = .ret a := by
  cases hp with
  | ret a => exact ⟨a, rfl⟩
  | call => exact hdone.elim
  | presignGetObject => exact hdone.elim

/-- Run alone when no presign fails, a safe program returns. -/
theorem Safe.run {p : Prog α} (hp : Safe p) {w : World} (hw : w.PresignsSucceed) :
    ∃ a w', p.run w = .ok a w' := by
  induction hp generalizing w with
  | ret a => exact ⟨a, w, rfl⟩
  | @call r k _ ih =>
    obtain ⟨x, w', hsend⟩ := r.send_ok w
    obtain ⟨a, w'', h⟩ :=
      ih x (by rw [World.PresignsSucceed, Request.fault_of_send hsend]; exact hw)
    exact ⟨a, w'', by simp only [run_call, Go.bind_apply, hsend, h]⟩
  | @presignGetObject bucket key expires _ _ ih =>
    obtain ⟨a, w', h⟩ := ih ⟨presignedGetURL bucket key⟩
      (show (w.record (.presignGetObject bucket key expires)).PresignsSucceed from hw)
    exact ⟨a, w', by simp only [run_call, Go.bind_apply,
      send_presignGetObject_of_presignsSucceed hw, h]⟩

section Loops

variable {σ : Type} (onErr : SdkError → Error) {body : σ → String → Prog (Except Error σ)}

theorem forEachKey_safe (hbody : ∀ acc key, Safe (body acc key)) (keys : List String) (acc : σ) :
    Safe (forEachKey body keys acc) := by
  induction keys generalizing acc with
  | nil => exact .ret _
  | cons key keys ih =>
    refine (hbody acc key).bind fun r => ?_
    rcases r with _ | acc'
    · exact .ret _
    · exact ih acc'

theorem forEachPage_safe (hbody : ∀ acc key, Safe (body acc key)) (pages : List Page)
    (acc : σ) : Safe (forEachPage onErr body pages acc) := by
  induction pages generalizing acc with
  | nil => exact .ret _
  | cons page pages ih =>
    rcases page with e | keys
    · exact .ret _
    · refine (forEachKey_safe hbody keys acc).bind fun r => ?_
      rcases r with _ | acc'
      · exact .ret _
      · exact ih acc'

end Loops

end Prog

/-! ### The serving operations -/

namespace S3Storage

variable (s : S3Storage)

open Prog

theorem presignedURLProg_safe (key : String) : Safe (s.presignedURLProg key) :=
  .presignGetObject fun _ => .ret _

theorem objectExistsProg_safe (key : String) : Safe (s.objectExistsProg key) :=
  (Safe.call_ret _).bind fun r => by
    rcases r with err | _
    · dsimp only; split <;> exact .ret _
    · exact .ret _

theorem downloadProg_safe (key : String) : Safe (s.downloadProg key) :=
  (Safe.call_ret _).bind fun r => by cases r <;> exact .ret _

theorem getModuleProg_safe (ns name provider version : String) :
    Safe (s.getModuleProg ns name provider version) := by
  refine (s.objectExistsProg_safe _).bind fun r => ?_
  rcases r with _ | _ | _
  · exact .ret _
  · exact .ret _
  · exact (s.presignedURLProg_safe _).bind fun r => by cases r <;> exact .ret _

theorem uploadModuleProg_safe (ns name provider version : String) (body : Blob) :
    Safe (s.uploadModuleProg ns name provider version body) := by
  unfold uploadModuleProg
  cases firstEmpty [(ns, "namespace not defined"), (name, "name not defined"),
      (provider, "provider not defined"), (version, "version not defined")] with
  | some msg => exact .ret _
  | none =>
    refine (s.getModuleProg_safe ns name provider version).bind fun r => ?_
    rcases r with _ | _
    · refine .call fun x => ?_
      rcases x with _ | ⟨⟩
      · exact .ret _
      · exact s.getModuleProg_safe ns name provider version
    · exact .ret _

theorem uploadProviderReleaseFilesProg_safe (ns name filename : String) (file : Blob) :
    Safe (s.uploadProviderReleaseFilesProg ns name filename file) := by
  unfold uploadProviderReleaseFilesProg
  cases firstEmpty [(ns, "namespace argument is empty"), (name, "name argument is empty"),
      (filename, "name argument is empty")] with
  | some msg => exact .ret _
  | none =>
    cases providerStoragePrefix s.bucketPrefix internalProviderType "" ns name with
    | error err => exact .ret _
    | ok pfx =>
      refine (s.objectExistsProg_safe _).bind fun r => ?_
      rcases r with _ | _ | _
      · exact .ret _
      · exact .call fun x => by cases x <;> exact .ret _
      · exact .ret _

variable (unmarshalSigningKeys : Blob → Except String Core.SigningKeys)

theorem signingKeysProg_safe (ns : String) :
    Safe (s.signingKeysProg unmarshalSigningKeys ns) := by
  unfold signingKeysProg
  cases firstEmpty [(ns, "namespace argument is empty")] with
  | some msg => exact .ret _
  | none =>
    refine (s.downloadProg_safe _).bind fun r => ?_
    rcases r with _ | raw
    · exact .ret _
    · dsimp only
      cases unmarshalSigningKeys raw <;> exact .ret _

theorem getProviderProg_safe (ns name version os arch : String) :
    Safe (s.getProviderProg unmarshalSigningKeys ns name version os arch) := by
  unfold getProviderProg
  cases internalProviderPath s.bucketPrefix ns name version os arch with
  | error err => exact .ret _
  | ok paths =>
    obtain ⟨archivePath, shasumPath, shasumSigPath⟩ := paths
    refine (s.presignedURLProg_safe _).bind fun r => ?_
    rcases r with _ | zipURL
    · exact .ret _
    refine (s.presignedURLProg_safe _).bind fun r => ?_
    rcases r with _ | shasumsURL
    · exact .ret _
    refine (s.presignedURLProg_safe _).bind fun r => ?_
    rcases r with _ | signatureURL
    · exact .ret _
    refine (s.downloadProg_safe _).bind fun r => ?_
    rcases r with _ | shasumBytes
    · exact .ret _
    · dsimp only
      cases readSHASums shasumBytes (GoPath.base archivePath) with
      | error err => exact .ret _
      | ok shasum =>
        refine (s.signingKeysProg_safe unmarshalSigningKeys ns).bind fun r => ?_
        cases r <;> exact .ret _

theorem listModuleVersionsProg_safe (ns name provider : String) (paginate : Paginator) :
    Safe (s.listModuleVersionsProg ns name provider paginate) := by
  refine forEachPage_safe _ (fun modules key => ?_) _ _
  unfold listModuleVersionsStepProg
  cases moduleFromObject key s.moduleArchiveFormat with
  | error => exact .ret _
  | ok m =>
    refine (s.presignedURLProg_safe _).bind fun r => ?_
    cases r <;> exact .ret _

theorem listProviderVersionsProg_safe (ns name : String) (paginate : Paginator) :
    Safe (s.listProviderVersionsProg ns name paginate) := by
  unfold listProviderVersionsProg
  cases providerStoragePrefix s.bucketPrefix internalProviderType "" ns name with
  | error err => exact .ret _
  | ok pfx =>
    refine (forEachPage_safe _ (fun collection key => ?_) _ _).bind fun r => ?_
    · unfold listProviderVersionsStepProg
      cases Core.newProviderFromArchive key <;> exact .ret _
    · rcases r with _ | collection
      · exact .ret _
      · dsimp only; split <;> exact .ret _

end S3Storage

section Serving

variable (s : S3Storage) (unmarshalSigningKeys : Blob → Except String Core.SigningKeys)

/-- Every serving operation panics only right after a failed presign. -/
theorem ServingOp.prog_safe (op : ServingOp) : Prog.Safe (op.prog s unmarshalSigningKeys) := by
  cases op with
  | getModule => exact s.getModuleProg_safe _ _ _ _
  | listModuleVersions => exact s.listModuleVersionsProg_safe _ _ _ _
  | uploadModule => exact s.uploadModuleProg_safe _ _ _ _ _
  | getProvider => exact s.getProviderProg_safe unmarshalSigningKeys _ _ _ _ _
  | listProviderVersions => exact s.listProviderVersionsProg_safe _ _ _
  | uploadProviderReleaseFiles => exact s.uploadProviderReleaseFilesProg_safe _ _ _ _
  | signingKeys => exact s.signingKeysProg_safe unmarshalSigningKeys _

/-- A serving call panics only when a presign fails: in a world where no presign fails, whatever
else fails and whatever the bucket holds, every serving operation returns. -/
theorem ServingOp.call_returns (op : ServingOp) {w : World} (hw : w.PresignsSucceed) :
    (Go.value? (op.call s unmarshalSigningKeys) w).isSome := by
  obtain ⟨a, w', h⟩ := (op.prog_safe s unmarshalSigningKeys).run hw
  rw [← op.run_prog s unmarshalSigningKeys]
  simp [Go.value?, h]

/-- An upload of a module while every HEAD fails with a server error returns. -/
theorem call_returns_serverError : serverErrorWorld.PresignsSucceed ∧
    (Go.value? ((ServingOp.uploadModule "acme" "tls" "aws" "1.0.0" "v1").call tarRegistry
      fun _ => .error "unused") serverErrorWorld).isSome :=
  ⟨fun _ _ _ _ => rfl, ServingOp.call_returns _ _ _ fun _ _ _ _ => rfl⟩

/-- A call of a single key has a budget. -/
theorem ServingOp.budget_isSome {op : ServingOp} (h : (op.key? s).isSome) :
    ∃ b, op.budget = some b := by
  cases op <;> first | exact ⟨_, rfl⟩ | cases h

end Serving

/-! ### Interleavings -/

namespace System

open Prog

/-- Every thread of the system panics only after a failed presign, and no presign of the run
fails. -/
structure Safe (sys : System) : Prop where
  presigns : sys.world.PresignsSucceed
  threads : ∀ t ∈ sys.threads, t.2.Safe

theorem Safe.step {sys : System} (h : sys.Safe) (i : Nat) : (sys.step i).Safe := by
  unfold System.step
  cases ht : sys.threads[i]? with
  | none => exact h
  | some t =>
    obtain ⟨hp, hw⟩ := (h.threads t (List.getElem?_mem ht)).step h.presigns
    refine ⟨hw, fun u hu => ?_⟩
    rcases List.mem_or_eq_of_mem_set hu with hu | rfl
    · exact h.threads u hu
    · exact hp

theorem Safe.run {sys : System} (h : sys.Safe) (sched : List Nat) : (sys.run sched).Safe := by
  induction sched generalizing sys with
  | nil => exact h
  | cons i sched ih => exact ih (h.step i)

/-- A thread of a safe system that can finish within `b` calls has returned once it has had `b`
turns. -/
theorem Safe.run_ret {sys : System} (h : sys.Safe) {i b : Nat} {t : Thread}
    (ht : sys.threads[i]? = some t) (hb : Within (fun _ _ => True) b t.2) {sched : List Nat}
    (hturns : b ≤ sched.count i) : ∃ r, (sys.run sched).threads[i]? = some ⟨t.1, .ret r⟩ := by
  obtain ⟨p, hp, hdone⟩ := run_done ht hb hturns
  obtain ⟨r, hr⟩ := ((h.run sched).threads _ (List.getElem?_mem hp)).eq_ret hdone
  exact ⟨r, hr ▸ hp⟩

variable (s : S3Storage) (unmarshalSigningKeys : Blob → Except String Core.SigningKeys)

theorem start_safe (ops : List ServingOp) {w₀ : World} (hw₀ : w₀.PresignsSucceed) :
    (start s unmarshalSigningKeys ops w₀).Safe where
  presigns := hw₀
  threads t ht := by
    obtain ⟨op, -, rfl⟩ := List.mem_map.mp ht
    exact op.prog_safe s unmarshalSigningKeys

theorem start_getElem?_of_getElem? {ops : List ServingOp} {w₀ : World} {i : Nat}
    {op : ServingOp} (hop : ops[i]? = some op) :
    (start s unmarshalSigningKeys ops w₀).threads[i]? = some ⟨op, op.prog s unmarshalSigningKeys⟩ :=
  by simp [start, hop]

/-- No serving call panics unless a presign fails, however the calls interleave: after every
schedule of a run where no presign fails, no thread has panicked. -/
theorem run_no_panic (ops : List ServingOp) {w₀ : World} (hw₀ : w₀.PresignsSucceed)
    (sched : List Nat) :
    ∀ t ∈ ((start s unmarshalSigningKeys ops w₀).run sched).threads, ∀ q, t.2 ≠ .panic q :=
  fun t ht => (((start_safe s unmarshalSigningKeys ops hw₀).run sched).threads t ht).ne_panic

/-- An upload and a lookup of one module, interleaved while every HEAD fails with a server
error: neither panics. -/
theorem run_no_panic_serverError : serverErrorWorld.PresignsSucceed ∧
    ∀ t ∈ ((start tarRegistry (fun _ => .error "unused")
        [.uploadModule "acme" "tls" "aws" "1.0.0" "v1", .getModule "acme" "tls" "aws" "1.0.0"]
        serverErrorWorld).run [0, 1, 0, 1, 0, 0]).threads, ∀ q, t.2 ≠ .panic q :=
  ⟨fun _ _ _ _ => rfl, run_no_panic _ _ _ (fun _ _ _ _ => rfl) _⟩

/-- Single-key calls that share keys only to read them, in a run where nothing fails and with the
default archive format, under a schedule that gives each call its budget of turns: every call
returns, and returns what it returns alone on the bucket as the run began; every key a call works
on ends as that call's solo run leaves it, and every other key holds what it held. -/
theorem run_single_key_ops_complete (hfmt : s.moduleArchiveFormat = defaultModuleArchiveFormat)
    (ops : List ServingOp) (hops : ∀ op ∈ ops, (op.key? s).isSome)
    (hshare : ops.Pairwise fun a b => a.key? s = b.key? s → a.readOnly ∧ b.readOnly)
    {w₀ : World} (hw₀ : w₀.Reliable) (sched : List Nat)
    (hfair : ∀ x ∈ ops.enum, ∀ b ∈ x.2.budget, b ≤ sched.count x.1) :
    (∀ (i : Nat) (op : ServingOp), ops[i]? = some op → ∃ r,
      ((start s unmarshalSigningKeys ops w₀).run sched).threads[i]? = some ⟨op, .ret r⟩ ∧
      Go.value? (op.call s unmarshalSigningKeys) w₀ = some r) ∧
    (∀ op ∈ ops, ∀ k, op.key? s = some k →
      ((start s unmarshalSigningKeys ops w₀).run sched).world.bucket k =
        (Go.after (op.call s unmarshalSigningKeys) w₀).bucket k) ∧
    ∀ k, (∀ op ∈ ops, op.key? s ≠ some k) →
      ((start s unmarshalSigningKeys ops w₀).run sched).world.bucket k = w₀.bucket k := by
  have hsolo := start_solo s unmarshalSigningKeys hfmt hops hshare hw₀ sched
  have hret : ∀ (i : Nat) (op : ServingOp), ops[i]? = some op → ∃ r,
      ((start s unmarshalSigningKeys ops w₀).run sched).threads[i]? = some ⟨op, .ret r⟩ :=
    fun i op hop => by
      obtain ⟨b, hb⟩ := ServingOp.budget_isSome s (hops op (List.getElem?_mem hop))
      exact (start_safe s unmarshalSigningKeys ops hw₀.presignsSucceed).run_ret
        (start_getElem?_of_getElem? s unmarshalSigningKeys hop)
        (ServingOp.prog_within s unmarshalSigningKeys hb)
        (hfair (i, op) (List.mem_enum_iff_getElem?.mpr hop) b hb)
  refine ⟨fun i op hop => ?_, fun op hop k hk => ?_, hsolo.start_frame s unmarshalSigningKeys hops⟩
  · obtain ⟨r, hr⟩ := hret i op hop
    exact ⟨r, hr, (hsolo.start_ret s unmarshalSigningKeys hr).1⟩
  · obtain ⟨i, hi⟩ := List.mem_iff_getElem?.mp hop
    obtain ⟨r, hr⟩ := hret i op hi
    have hb := (hsolo.start_ret s unmarshalSigningKeys hr).2
    rwa [hk] at hb

end System

/-- A schedule of `registryCalls` that gives each call its budget of turns. -/
def fairRegistrySchedule : List Nat := [0, 1, 3, 2, 4, 0, 1, 3, 2, 0, 2, 0, 2]

/-- The five calls of `registryCalls`, interleaved on an empty bucket, all return. -/
theorem run_single_key_ops_complete_registry :
    tarRegistry.moduleArchiveFormat = defaultModuleArchiveFormat ∧
    (∀ op ∈ registryCalls, (op.key? tarRegistry).isSome) ∧
    registryCalls.Pairwise (fun a b => a.key? tarRegistry = b.key? tarRegistry →
      a.readOnly ∧ b.readOnly) ∧ World.empty.Reliable ∧
    (∀ x ∈ registryCalls.enum, ∀ b ∈ x.2.budget, b ≤ fairRegistrySchedule.count x.1) ∧
    (∀ (i : Nat) (op : ServingOp), registryCalls[i]? = some op → ∃ r,
      ((System.start tarRegistry (fun _ => .error "unused") registryCalls World.empty).run
          fairRegistrySchedule).threads[i]? = some ⟨op, .ret r⟩ ∧
      Go.value? (op.call tarRegistry fun _ => .error "unused") World.empty = some r) ∧
    (∀ op ∈ registryCalls, ∀ k, op.key? tarRegistry = some k →
      ((System.start tarRegistry (fun _ => .error "unused") registryCalls World.empty).run
          fairRegistrySchedule).world.bucket k =
        (Go.after (op.call tarRegistry fun _ => .error "unused") World.empty).bucket k) ∧
    ∀ k, (∀ op ∈ registryCalls, op.key? tarRegistry ≠ some k) →
      ((System.start tarRegistry (fun _ => .error "unused") registryCalls World.empty).run
        fairRegistrySchedule).world.bucket k = World.empty.bucket k :=
  ⟨rfl, by decide, by decide, fun _ _ => rfl, by decide,
    System.run_single_key_ops_complete _ _ rfl _ (by decide) (by decide) (fun _ _ => rfl) _
      (by decide)⟩

end BoringRegistry
