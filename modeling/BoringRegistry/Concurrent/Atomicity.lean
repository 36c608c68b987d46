import BoringRegistry.Concurrent.Completion

/-!
# Calls answer at one instant

S3 serves each request atomically, but a storage call sends several. Still, in a world where
nothing fails, `GetModule`, `UploadModule`, `UploadProviderReleaseFiles` and `SigningKeys` answer
as if they ran at one instant: however a call interleaves with other calls, racing uploads
included, what it returns is what it returns alone on the bucket as it was at some point of the
run (`System.run_call_atomic`).

The reason is that each of these calls reads the bucket once, and after that read the answers to
its requests are fixed. `GetModule` sends a HEAD and a presign, and `SigningKeys` one download.
`UploadModule` sends `GetModule`'s HEAD, and when that finds nothing it uploads and sends the
HEAD again, of the key it has just written; since no request removes an object, that HEAD finds
the object whatever other calls do meanwhile. `UploadProviderReleaseFiles` sends a HEAD and an
upload. A presign's answer does not depend on the bucket. So each call answers as it does alone
from the instant of its one read.

This is why the race of `uploadModule_race` shows in no single answer: each of the two uploads
returns what it returns alone at its first HEAD. Only the two answers together, with the bucket
they leave, match no order of the calls.

`GetProvider` is not covered: it downloads the checksum manifest and the signing keys in two
requests, and an upload may come between them. Nor are the listings: their pages are a parameter
of the model, fixed before the call and not read from the bucket, so the model cannot say at which
instant a listing reads the bucket.

## The linearization point

`ReadsOnce p` says that `p` sends presigns, then one HEAD or download, and is then `Settled`:
`Settled K p` says that, in a world where nothing fails and every key of `K` holds an object,
the answers to `p`'s requests are fixed. A thread of such a program is in one of two phases
(`System.Atomic`). Before its read, its requests so far take it to where it is from every world
where nothing fails, and leave the bucket as it was. After it, they take it there from the world
just before the read, and the keys it relies on hold objects both in that solo run and in the
run itself. One step keeps the phases (`System.Atomic.step`), and so does a whole schedule
(`System.atomicRun_run`).

## Main definitions

* `World.Stores` — every key of a list holds an object
* `Prog.Settled`, `Prog.ReadsOnce` — programs whose answers are fixed, and those that read the
  bucket once before they are
* `ServingOp.answersAtOnce` — the serving operations that answer at one instant
* `System.Atomic` — where a thread that reads the bucket once stands after a schedule

## Main results

* `Prog.step_congr` — in a world where nothing fails, the answer to a request depends on the
  bucket alone
* `Prog.step_stores` — no request removes an object
* `System.run_call_atomic` — in every interleaving where nothing fails, a call of `GetModule`,
  `UploadModule`, `UploadProviderReleaseFiles` or `SigningKeys` that has returned has returned
  what it returns alone at some point of the run
-/

namespace BoringRegistry

namespace World

/-- Every key of `K` holds an object. -/
def Stores (w : World) (K : List String) : Prop := ∀ key ∈ K, (w.bucket key).isSome

theorem stores_nil (w : World) : w.Stores [] := fun _ h => absurd h (List.not_mem_nil _)

theorem Stores.put {w : World} {K : List String} (h : w.Stores K) (key : String) (body : Blob) :
    (w.put key body).Stores (key :: K) := by
  intro k hk
  by_cases hkey : k = key
  · subst hkey
    simp
  · simp only [put_bucket, Function.update_noteq hkey]
    exact h k ((List.mem_cons.mp hk).resolve_left hkey)

end World

namespace Prog

variable {α β : Type}

/-! ### One request in a world where nothing fails -/

/-- No request changes the failure pattern. -/
theorem step_fault (p : Prog α) (w : World) : (p.step w).2.fault = w.fault := by
  cases p with
  | ret a => rfl
  | panic q => rfl
  | call r k =>
    obtain ⟨x, w', h⟩ := r.send_ok w
    rw [step_call h]
    exact Request.fault_of_send h

theorem step_reliable (p : Prog α) {w : World} (hw : w.Reliable) : (p.step w).2.Reliable := by
  rw [World.Reliable, step_fault]
  exact hw

theorem steps_reliable (p : Prog α) {w : World} (hw : w.Reliable) (n : Nat) :
    (p.steps w n).2.Reliable := by
  induction n with
  | zero => exact hw
  | succ n ih => exact step_reliable _ ih

/-- No request removes an object. -/
theorem step_stores (p : Prog α) {w : World} {K : List String} (h : w.Stores K) :
    (p.step w).2.Stores K := by
  intro k hk
  cases p with
  | ret a => exact h k hk
  | panic q => exact h k hk
  | call r k' =>
    obtain ⟨x, w', hs⟩ := r.send_ok w
    rw [step_call hs]
    rcases Request.send_cases hs with rfl | ⟨key, body, rfl⟩
    · exact h k hk
    · exact World.Stores.put h key body k (List.mem_cons_of_mem _ hk)

/-- In a world where nothing fails, the answer to a request depends on the bucket alone: the
failure pattern says nothing, and the requests sent so far are not read. -/
theorem step_congr (p : Prog α) {w w' : World} (hw : w.Reliable) (hw' : w'.Reliable)
    (hb : w.bucket = w'.bucket) : (p.step w).1 = (p.step w').1 := by
  cases p with
  | ret a => rfl
  | panic q => rfl
  | call r k =>
    cases r with
    | copyObject bucket copySource key =>
      simp only [step, Request.send, Sdk.copyObject, hw.faultOf, hw'.faultOf, hb]
      cases copySourceKey bucket copySource with
      | none => rfl
      | some source => dsimp only; cases w'.bucket source <;> rfl
    | _ => simp only [step, Request.send, Sdk.headObject, Sdk.presignGetObject, Sdk.download,
        Sdk.upload, hw.faultOf, hw'.faultOf, hb]

/-- A presign, in a world where nothing fails, answers with the URL of its key. -/
theorem step_presignGetObject {bucket key : String} {expires : Nat}
    {k : Except SdkError PresignedHTTPRequest → Prog α} {w : World} (hw : w.Reliable) :
    (call (.presignGetObject bucket key expires) k).step w =
      (k (.ok ⟨presignedGetURL bucket key⟩), w.record (.presignGetObject bucket key expires)) :=
  step_call (send_presignGetObject_of_presignsSucceed hw.presignsSucceed _ _ _)

/-- An upload, in a world where nothing fails, stores its body. -/
theorem step_upload {bucket key : String} {body : Blob} {k : Except SdkError Unit → Prog α}
    {w : World} (hw : w.Reliable) :
    (call (.upload bucket key body) k).step w =
      (k (.ok ()), (w.record (.upload bucket key body)).put key body) := by
  have hsend : (Request.upload bucket key body).send w =
      .ok (.ok ()) ((w.record (.upload bucket key body)).put key body) := by
    rw [Request.send_upload, hw.faultOf]
  exact step_call hsend

/-- A HEAD of a key that holds an object, in a world where nothing fails, finds it. -/
theorem step_headObject {bucket key : String} {k : Except SdkError Unit → Prog α} {w : World}
    (hw : w.Reliable) (hkey : (w.bucket key).isSome) :
    (call (.headObject bucket key) k).step w = (k (.ok ()), w.record (.headObject bucket key)) := by
  rw [step_call (Request.send_headObject bucket key w), hw.faultOf]
  simp only [hkey, if_true]

/-! ### Programs whose answers are fixed -/

/-- `Settled K p`: in a world where nothing fails and every key of `K` holds an object, the
answers to `p`'s requests are fixed. `p` sends presigns, uploads, and HEADs of keys of `K` or of
keys it has uploaded, and no other request. -/
inductive Settled : List String → Prog α → Prop
  | ret {K : List String} (a : α) : Settled K (.ret a)
  | panic {K : List String} (q : Panic) : Settled K (.panic q)
  | presignGetObject {K : List String} {bucket key : String} {expires : Nat}
      {k : Except SdkError PresignedHTTPRequest → Prog α} (next : ∀ x, Settled K (k x)) :
      Settled K (.call (.presignGetObject bucket key expires) k)
  | upload {K : List String} {bucket key : String} {body : Blob}
      {k : Except SdkError Unit → Prog α} (next : ∀ x, Settled (key :: K) (k x)) :
      Settled K (.call (.upload bucket key body) k)
  | headObject {K : List String} {bucket key : String} {k : Except SdkError Unit → Prog α}
      (hkey : key ∈ K) (next : ∀ x, Settled K (k x)) :
      Settled K (.call (.headObject bucket key) k)

/-- `ReadsOnce p`: `p` sends presigns, then a HEAD or a download, and is then `Settled`; or it is
`Settled` from the start. -/
inductive ReadsOnce : Prog α → Prop
  | settled {p : Prog α} (h : Settled [] p) : ReadsOnce p
  | presignGetObject {bucket key : String} {expires : Nat}
      {k : Except SdkError PresignedHTTPRequest → Prog α} (next : ∀ x, ReadsOnce (k x)) :
      ReadsOnce (.call (.presignGetObject bucket key expires) k)
  | headObject {bucket key : String} {k : Except SdkError Unit → Prog α}
      (next : ∀ x, Settled [] (k x)) : ReadsOnce (.call (.headObject bucket key) k)
  | download {bucket key : String} {k : Except SdkError Blob → Prog α}
      (next : ∀ x, Settled [] (k x)) : ReadsOnce (.call (.download bucket key) k)

theorem Settled.mono {K K' : List String} {p : Prog α} (hp : Settled K p) (h : K ⊆ K') :
    Settled K' p := by
  induction hp generalizing K' with
  | ret a => exact .ret a
  | panic q => exact .panic q
  | presignGetObject _ ih => exact .presignGetObject fun x => ih x h
  | upload _ ih => exact .upload fun x => ih x (List.cons_subset_cons _ h)
  | headObject hkey _ ih => exact .headObject (h hkey) fun x => ih x h

theorem Settled.bind {K : List String} {x : Prog α} {f : α → Prog β} (hx : Settled K x)
    (hf : ∀ a, Settled K (f a)) : Settled K (x >>= f) := by
  induction hx with
  | ret a => exact hf a
  | panic q => exact .panic q
  | presignGetObject _ ih => exact .presignGetObject fun x => ih x hf
  | upload _ ih =>
    exact .upload fun x => ih x fun a => (hf a).mono (List.subset_cons_self _ _)
  | headObject hkey _ ih => exact .headObject hkey fun x => ih x hf

theorem ReadsOnce.bind {x : Prog α} {f : α → Prog β} (hx : ReadsOnce x)
    (hf : ∀ a, Settled [] (f a)) : ReadsOnce (x >>= f) := by
  induction hx with
  | settled h => exact .settled (h.bind hf)
  | presignGetObject _ ih => exact .presignGetObject ih
  | headObject next => exact .headObject fun x => (next x).bind hf
  | download next => exact .download fun x => (next x).bind hf

/-- One request of a settled program, from two worlds where nothing fails and the keys it relies
on hold objects, leads to the same program, which relies on keys that hold objects in both
worlds after the request. -/
theorem Settled.step {K : List String} {p : Prog α} (hp : Settled K p) {w w' : World}
    (hw : w.Reliable) (hw' : w'.Reliable) (hK : w.Stores K) (hK' : w'.Stores K) :
    (p.step w).1 = (p.step w').1 ∧
      ∃ K', Settled K' (p.step w).1 ∧ (p.step w).2.Stores K' ∧ (p.step w').2.Stores K' := by
  cases hp with
  | ret a => exact ⟨rfl, K, .ret a, hK, hK'⟩
  | panic q => exact ⟨rfl, K, .panic q, hK, hK'⟩
  | presignGetObject next =>
    rw [step_presignGetObject hw, step_presignGetObject hw']
    exact ⟨rfl, K, next _, hK, hK'⟩
  | @upload _ bucket key body _ next =>
    rw [step_upload hw, step_upload hw']
    exact ⟨rfl, key :: K, next _, World.Stores.put hK _ _, World.Stores.put hK' _ _⟩
  | headObject hkey next =>
    rw [step_headObject hw (hK _ hkey), step_headObject hw' (hK' _ hkey)]
    exact ⟨rfl, K, next _, hK, hK'⟩

/-- One request of a program that reads the bucket once: before the read, it leads to the same
program from every world where nothing fails and leaves the bucket as it was; from the read on,
it leads to a settled program, the same from any two such worlds with the same bucket. -/
theorem ReadsOnce.step {p : Prog α} (hp : ReadsOnce p) :
    (∃ q, ReadsOnce q ∧ ∀ w : World, w.Reliable →
      (p.step w).1 = q ∧ (p.step w).2.bucket = w.bucket) ∨
    ∀ w w' : World, w.Reliable → w'.Reliable → w.bucket = w'.bucket →
      (p.step w).1 = (p.step w').1 ∧
        ∃ K, Settled K (p.step w).1 ∧ (p.step w).2.Stores K ∧ (p.step w').2.Stores K := by
  cases hp with
  | settled h =>
    exact .inr fun w w' hw hw' _ => h.step hw hw' (World.stores_nil w) (World.stores_nil w')
  | presignGetObject next =>
    exact .inl ⟨_, next _, fun w hw => by rw [step_presignGetObject hw]; exact ⟨rfl, rfl⟩⟩
  | @headObject bucket key _ next =>
    refine .inr fun w w' hw hw' hb => ⟨step_congr _ hw hw' hb, [], ?_, World.stores_nil _,
      World.stores_nil _⟩
    obtain ⟨x, w'', h⟩ := (Request.headObject bucket key).send_ok w
    rw [step_call h]
    exact next x
  | @download bucket key _ next =>
    refine .inr fun w w' hw hw' hb => ⟨step_congr _ hw hw' hb, [], ?_, World.stores_nil _,
      World.stores_nil _⟩
    obtain ⟨x, w'', h⟩ := (Request.download bucket key).send_ok w
    rw [step_call h]
    exact next x

end Prog

/-! ### The serving operations -/

namespace S3Storage

variable (s : S3Storage)

open Prog

theorem presignedURLProg_settled (K : List String) (key : String) :
    Settled K (s.presignedURLProg key) :=
  .presignGetObject fun x => by cases x <;> first | exact .ret _ | exact .panic _

theorem objectExistsProg_readsOnce (key : String) : ReadsOnce (s.objectExistsProg key) :=
  (ReadsOnce.headObject fun x => .ret x).bind fun r => by
    rcases r with err | _
    · dsimp only; split <;> exact .ret _
    · exact .ret _

/-- A HEAD of a key the program relies on is settled: it finds the object. -/
theorem objectExistsProg_settled {K : List String} {key : String} (hkey : key ∈ K) :
    Settled K (s.objectExistsProg key) :=
  (Settled.headObject hkey fun x => .ret x).bind fun r => by
    rcases r with err | _
    · dsimp only; split <;> exact .ret _
    · exact .ret _

theorem downloadProg_readsOnce (key : String) : ReadsOnce (s.downloadProg key) :=
  (ReadsOnce.download fun x => .ret x).bind fun r => by cases r <;> exact .ret _

theorem getModuleProg_readsOnce (ns name provider version : String) :
    ReadsOnce (s.getModuleProg ns name provider version) := by
  refine (s.objectExistsProg_readsOnce _).bind fun r => ?_
  rcases r with _ | _ | _
  · exact .ret _
  · exact .ret _
  · exact (s.presignedURLProg_settled _ _).bind fun r => by cases r <;> exact .ret _

theorem getModuleProg_settled {K : List String} {ns name provider version : String}
    (hkey : s.moduleKey ns name provider version ∈ K) :
    Settled K (s.getModuleProg ns name provider version) := by
  refine (s.objectExistsProg_settled hkey).bind fun r => ?_
  rcases r with _ | _ | _
  · exact .ret _
  · exact .ret _
  · exact (s.presignedURLProg_settled _ _).bind fun r => by cases r <;> exact .ret _

/-- With the default archive format, `UploadModule`'s second `GetModule` probes the key it has
just written. -/
theorem uploadModuleProg_readsOnce (hfmt : s.moduleArchiveFormat = defaultModuleArchiveFormat)
    (ns name provider version : String) (body : Blob) :
    ReadsOnce (s.uploadModuleProg ns name provider version body) := by
  have hkey : modulePath s.bucketPrefix ns name provider version defaultModuleArchiveFormat =
      s.moduleKey ns name provider version := by
    rw [moduleKey, hfmt]
  unfold uploadModuleProg
  cases firstEmpty [(ns, "namespace not defined"), (name, "name not defined"),
      (provider, "provider not defined"), (version, "version not defined")] with
  | some msg => exact .settled (.ret _)
  | none =>
    refine (s.getModuleProg_readsOnce ns name provider version).bind fun r => ?_
    rcases r with _ | _
    · rw [hkey]
      refine .upload fun x => ?_
      rcases x with _ | ⟨⟩
      · exact .ret _
      · exact s.getModuleProg_settled (List.mem_singleton_self _)
    · exact .ret _

theorem uploadProviderReleaseFilesProg_readsOnce (ns name filename : String) (file : Blob) :
    ReadsOnce (s.uploadProviderReleaseFilesProg ns name filename file) := by
  unfold uploadProviderReleaseFilesProg
  cases firstEmpty [(ns, "namespace argument is empty"), (name, "name argument is empty"),
      (filename, "name argument is empty")] with
  | some msg => exact .settled (.ret _)
  | none =>
    cases providerStoragePrefix s.bucketPrefix internalProviderType "" ns name with
    | error err => exact .settled (.ret _)
    | ok pfx =>
      refine (s.objectExistsProg_readsOnce _).bind fun r => ?_
      rcases r with _ | _ | _
      · exact .ret _
      · exact .upload fun x => by cases x <;> exact .ret _
      · exact .ret _

theorem signingKeysProg_readsOnce (unmarshalSigningKeys : Blob → Except String Core.SigningKeys)
    (ns : String) : ReadsOnce (s.signingKeysProg unmarshalSigningKeys ns) := by
  unfold signingKeysProg
  cases firstEmpty [(ns, "namespace argument is empty")] with
  | some msg => exact .settled (.ret _)
  | none =>
    refine (s.downloadProg_readsOnce _).bind fun r => ?_
    rcases r with _ | raw
    · exact .ret _
    · dsimp only
      cases unmarshalSigningKeys raw <;> exact .ret _

end S3Storage

/-- Whether a serving operation answers at one instant: `GetModule`, `UploadModule`,
`UploadProviderReleaseFiles` and `SigningKeys`. `GetProvider` reads the checksum manifest and the
signing keys in two requests, and the listings read their pages, which the model hands them as a
parameter, from no bucket at all. -/
def ServingOp.answersAtOnce : ServingOp → Bool
  | .getModule .. | .uploadModule .. | .uploadProviderReleaseFiles .. | .signingKeys _ => true
  | .listModuleVersions .. | .getProvider .. | .listProviderVersions .. => false

theorem ServingOp.prog_readsOnce (s : S3Storage)
    (unmarshalSigningKeys : Blob → Except String Core.SigningKeys) {op : ServingOp}
    (hop : op.answersAtOnce = true)
    (hfmt : op.uploadsModule = true → s.moduleArchiveFormat = defaultModuleArchiveFormat) :
    Prog.ReadsOnce (op.prog s unmarshalSigningKeys) := by
  cases op with
  | getModule => exact s.getModuleProg_readsOnce _ _ _ _
  | listModuleVersions => cases hop
  | uploadModule => exact s.uploadModuleProg_readsOnce (hfmt rfl) _ _ _ _ _
  | getProvider => cases hop
  | listProviderVersions => cases hop
  | uploadProviderReleaseFiles => exact s.uploadProviderReleaseFilesProg_readsOnce _ _ _ _
  | signingKeys => exact s.signingKeysProg_readsOnce unmarshalSigningKeys _

/-! ### Interleavings -/

namespace System

open Prog

@[simp] theorem step_length (sys : System) (i : Nat) :
    (sys.step i).threads.length = sys.threads.length := by
  unfold System.step
  split <;> simp

/-- A property of worlds that every request keeps holds after every schedule. -/
theorem run_world {P : World → Prop}
    (hP : ∀ {α : Type} (p : Prog α) (w : World), P w → P (p.step w).2) {sys : System}
    (h : P sys.world) (sched : List Nat) : P (sys.run sched).world := by
  induction sched generalizing sys with
  | nil => exact h
  | cons i sched ih =>
    refine ih ?_
    unfold System.step
    split
    · exact hP _ _ h
    · exact h

theorem run_reliable {sys : System} (h : sys.world.Reliable) (sched : List Nat) :
    (sys.run sched).world.Reliable :=
  @run_world World.Reliable (fun p _ hw => p.step_reliable hw) _ h sched

theorem run_stores {sys : System} {K : List String} (h : sys.world.Stores K) (sched : List Nat) :
    (sys.run sched).world.Stores K :=
  @run_world (fun w => w.Stores K) (fun p _ hK => p.step_stores hK) _ h sched

variable {sys₀ : System} {sched : List Nat} {α : Type} {p q : Prog α}

/-- Where the thread that started as `p` stands at `q`, once `sys₀` has run `sched`. Either it
has not read the bucket yet, and its requests so far take it to `q` from every world where
nothing fails, leaving the bucket as it was; or it has, its requests so far take it to `q` from
the world at some point of the schedule, and the keys `q` relies on hold objects both in that
solo run and now. -/
inductive Atomic (sys₀ : System) (sched : List Nat) (p : Prog α) : Prog α → Prop
  | unread {q : Prog α} (n : Nat) (hq : ReadsOnce q)
      (h : ∀ w : World, w.Reliable → (p.steps w n).1 = q ∧ (p.steps w n).2.bucket = w.bucket) :
      Atomic sys₀ sched p q
  | read {q : Prog α} (m : Nat) (hm : m ≤ sched.length) (n : Nat) (K : List String)
      (hq : Settled K q) (h : (p.steps (sys₀.run (sched.take m)).world n).1 = q)
      (hsolo : (p.steps (sys₀.run (sched.take m)).world n).2.Stores K)
      (hnow : (sys₀.run sched).world.Stores K) : Atomic sys₀ sched p q

/-- Another thread's turn leaves a thread's phase as it was. -/
theorem Atomic.append (h : Atomic sys₀ sched p q) (j : Nat) :
    Atomic sys₀ (sched ++ [j]) p q := by
  cases h with
  | unread n hq h => exact .unread n hq h
  | read m hm n K hq h hsolo hnow =>
    have hm' : m ≤ (sched ++ [j]).length := by simp only [List.length_append]; omega
    refine .read m hm' n K hq ?_ ?_ ?_
    · rwa [List.take_append_of_le_length hm]
    · rwa [List.take_append_of_le_length hm]
    · rw [run_append]
      exact run_stores hnow [j]

/-- The thread's own turn, from the world the schedule has reached, keeps its phase, or ends the
first one at this very point. -/
theorem Atomic.step (hw₀ : sys₀.world.Reliable) (h : Atomic sys₀ sched p q) {j : Nat}
    (hj : (sys₀.run (sched ++ [j])).world = (q.step (sys₀.run sched).world).2) :
    Atomic sys₀ (sched ++ [j]) p (q.step (sys₀.run sched).world).1 := by
  have hw := run_reliable hw₀ sched
  have hlen : sched.length ≤ (sched ++ [j]).length := by simp
  cases h with
  | unread n hq h =>
    rcases hq.step with ⟨q', hq', hstep⟩ | hstep
    · rw [(hstep _ hw).1]
      refine .unread (n + 1) hq' fun w hw' => ?_
      obtain ⟨hn, hb⟩ := h w hw'
      obtain ⟨h₁, h₂⟩ := hstep _ (steps_reliable p hw' n)
      simp only [steps, hn, h₁, h₂, hb, and_self]
    · obtain ⟨hn, hb⟩ := h _ hw
      obtain ⟨heq, K, hK, hsolo, hnow⟩ := hstep _ _ (steps_reliable p hw n) hw hb
      have hsteps : (p.steps (sys₀.run sched).world (n + 1)) =
          q.step (p.steps (sys₀.run sched).world n).2 := by
        rw [steps, hn]
      refine .read sched.length hlen (n + 1) K (heq ▸ hK) ?_ ?_ (hj ▸ hnow) <;>
        rw [List.take_append_of_le_length le_rfl, List.take_length, hsteps]
      · exact heq
      · exact hsolo
  | read m hm n K hq h hsolo hnow =>
    obtain ⟨heq, K', hK', hsolo', hnow'⟩ :=
      hq.step (steps_reliable p (run_reliable hw₀ _) n) hw hsolo hnow
    have hsteps : (p.steps (sys₀.run (sched.take m)).world (n + 1)) =
        q.step (p.steps (sys₀.run (sched.take m)).world n).2 := by
      rw [steps, h]
    refine .read m (hm.trans hlen) (n + 1) K' (heq ▸ hK') ?_ ?_ (hj ▸ hnow') <;>
      rw [List.take_append_of_le_length hm, hsteps]
    · exact heq
    · exact hsolo'

/-- Whichever its phase, a thread stands where its requests, run alone from the world at some
point of the schedule, take it. -/
theorem Atomic.exists_steps (hw₀ : sys₀.world.Reliable) (h : Atomic sys₀ sched p q) :
    ∃ m ≤ sched.length, ∃ n, (p.steps (sys₀.run (sched.take m)).world n).1 = q := by
  cases h with
  | unread n _ h => exact ⟨0, Nat.zero_le _, n, (h _ hw₀).1⟩
  | read m hm n _ _ h => exact ⟨m, hm, n, h⟩

/-- The invariant of a run from `sys₀`: every thread is still there, running the same operation,
and every thread that reads the bucket once stands as `Atomic` says. -/
structure AtomicRun (sys₀ : System) (sched : List Nat) : Prop where
  length : (sys₀.run sched).threads.length = sys₀.threads.length
  atomic : ∀ (i : Nat) (t : Thread), sys₀.threads[i]? = some t →
    ∃ q, (sys₀.run sched).threads[i]? = some ⟨t.1, q⟩ ∧ (ReadsOnce t.2 → Atomic sys₀ sched t.2 q)

theorem atomicRun_nil (sys₀ : System) : AtomicRun sys₀ [] where
  length := rfl
  atomic _ _ ht := ⟨_, ht, fun hq => .unread 0 hq fun _ _ => ⟨rfl, rfl⟩⟩

theorem AtomicRun.append (hw₀ : sys₀.world.Reliable) (h : AtomicRun sys₀ sched) (j : Nat) :
    AtomicRun sys₀ (sched ++ [j]) := by
  have hrun : sys₀.run (sched ++ [j]) = (sys₀.run sched).step j := run_append _ _ _
  refine ⟨by rw [hrun, step_length, h.length], fun i t ht => ?_⟩
  obtain ⟨q, hi, hat⟩ := h.atomic i t ht
  rcases hj : (sys₀.run sched).threads[j]? with _ | u
  · rw [hrun]
    simp only [System.step, hj]
    exact ⟨q, hi, fun hq => (hat hq).append j⟩
  · rcases eq_or_ne j i with rfl | hji
    · cases Option.some.inj (hj.symm.trans hi)
      have hworld : (sys₀.run (sched ++ [j])).world = (q.step (sys₀.run sched).world).2 := by
        rw [hrun]
        simp only [System.step, hj]
      rw [hrun]
      simp only [System.step, hj]
      exact ⟨_, List.getElem?_set_self (List.getElem?_eq_some_iff.mp hi).1,
        fun hq => (hat hq).step hw₀ hworld⟩
    · rw [hrun]
      simp only [System.step, hj]
      exact ⟨q, by rw [List.getElem?_set_ne hji, hi], fun hq => (hat hq).append j⟩

theorem atomicRun_run (hw₀ : sys₀.world.Reliable) (sched : List Nat) : AtomicRun sys₀ sched := by
  induction sched using List.reverseRecOn with
  | nil => exact atomicRun_nil sys₀
  | append_singleton sched j ih => exact ih.append hw₀ j

variable (s : S3Storage) (unmarshalSigningKeys : Blob → Except String Core.SigningKeys)

/-- Calls answer at one instant. In every interleaving of any serving calls, uploads that race
included, in a run where nothing fails, a call of `GetModule`, `UploadModule`,
`UploadProviderReleaseFiles` or `SigningKeys` that has returned has returned what it returns when
it runs alone on the bucket as it was at some point of the run; for `UploadModule`, provided the
archive format is the default one. -/
theorem run_call_atomic (ops : List ServingOp) {w₀ : World} (hw₀ : w₀.Reliable)
    (sched : List Nat) {i : Nat} {op : ServingOp} {r : op.Result}
    (hop : op.answersAtOnce = true)
    (hfmt : op.uploadsModule = true → s.moduleArchiveFormat = defaultModuleArchiveFormat)
    (hr : ((start s unmarshalSigningKeys ops w₀).run sched).threads[i]? = some ⟨op, .ret r⟩) :
    ∃ m ≤ sched.length, Go.value? (op.call s unmarshalSigningKeys)
      ((start s unmarshalSigningKeys ops w₀).run (sched.take m)).world = some r := by
  have h : AtomicRun (start s unmarshalSigningKeys ops w₀) sched := atomicRun_run hw₀ sched
  obtain ⟨hi, -⟩ := List.getElem?_eq_some_iff.mp hr
  obtain ⟨op', hop', -⟩ :=
    start_getElem? s unmarshalSigningKeys (List.getElem?_eq_getElem (h.length ▸ hi))
  obtain ⟨q, hq, hat⟩ := h.atomic i _ (start_getElem?_of_getElem? s unmarshalSigningKeys hop')
  obtain ⟨rfl, hq'⟩ := Sigma.mk.inj_iff.mp (Option.some.inj (hq.symm.trans hr))
  obtain rfl := eq_of_heq hq'
  obtain ⟨m, hm, n, hn⟩ :=
    (hat (op'.prog_readsOnce s unmarshalSigningKeys hop hfmt)).exists_steps hw₀
  have hrun := run_of_steps_eq_ret hn
  rw [ServingOp.run_prog] at hrun
  exact ⟨m, hm, by rw [Go.value?, hrun]⟩

/-- The second of the two racing uploads of `uploadModule_race`, which replaces the first's
object, answers as it does alone at some point of the run. -/
theorem run_call_atomic_race : World.empty.Reliable ∧
    (ServingOp.uploadModule "acme" "tls" "aws" "1.0.0" "v2").answersAtOnce = true ∧
    ((ServingOp.uploadModule "acme" "tls" "aws" "1.0.0" "v2").uploadsModule = true →
      tarRegistry.moduleArchiveFormat = defaultModuleArchiveFormat) ∧
    (S3Storage.racingUploads.run [0, 1, 0, 1, 0, 0, 1, 1]).threads[1]? =
      some ⟨.uploadModule "acme" "tls" "aws" "1.0.0" "v2", .ret (.ok ⟨"acme", "tls", "aws",
        "1.0.0", presignedGetURL "registry" (tarRegistry.moduleKey "acme" "tls" "aws" "1.0.0")⟩)⟩ ∧
    ∃ m ≤ [0, 1, 0, 1, 0, 0, 1, 1].length,
      Go.value? ((ServingOp.uploadModule "acme" "tls" "aws" "1.0.0" "v2").call tarRegistry
        fun _ => .error "unused")
        (S3Storage.racingUploads.run ([0, 1, 0, 1, 0, 0, 1, 1].take m)).world =
        some (.ok ⟨"acme", "tls", "aws", "1.0.0",
          presignedGetURL "registry" (tarRegistry.moduleKey "acme" "tls" "aws" "1.0.0")⟩) :=
  ⟨fun _ _ => rfl, rfl, fun _ => rfl, by rfl,
    @run_call_atomic _ _ _ _ (fun _ _ => rfl) _ 1 _ _ rfl (fun _ => rfl) (by rfl)⟩

end System

end BoringRegistry
