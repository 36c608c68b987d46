import BoringRegistry.Concurrent.Interleavings

/-!
# Every call but a listing finishes within a budget of turns

None of the storage's operations loops on S3's answers or repeats an SDK call: each makes a
bounded number of SDK calls, whatever S3 answers, and then returns or panics. `GetModule` makes at
most a HEAD and a presign, `UploadModule` at most a HEAD, an upload, and `GetModule`'s two calls
(when its first `GetModule` finds the module, it stops after the presign), `GetProvider` three
presigns and two downloads, `UploadProviderReleaseFiles` a HEAD and an upload, and `SigningKeys`
one download.

A thread advances only on its own turns, one SDK call a turn, so these budgets bound every
interleaving: a call that has had as many turns as its budget has finished (`System.run_done`),
whatever fails.

## The argument

`Within Q n p` says that `p` makes at most `n` SDK calls, whatever S3 answers, and that when it
returns `a` with `m` of them unspent, `Q a m` holds. The postcondition passes the unspent budget
on through `>>=` (`Within.bind`), which makes the bounds of sequenced calls exact: `GetModule`
fails only after its HEAD, so that `UploadModule`, which uploads only when `GetModule` fails,
spends at most four calls rather than five.

## What the budgets count

A budget counts SDK calls, the turns of the interleaving model, and not HTTP requests. An SDK call
is one turn however often the SDK retries it, and a presign, which the SDK computes without
contacting S3, is a turn too.

The two listings have no budget. Their page fetches are not calls of the model: a `Paginator`
hands each listing its pages as a parameter, so a count of a listing's calls would say nothing
about the pages it fetches.

## Main definitions

* `Prog.Within` — programs that finish within a number of SDK calls
* `ServingOp.budget` — the budget of each serving operation other than the listings

## Main results

* `ServingOp.prog_within` — each operation with a budget finishes within it
* `System.run_done` — in every interleaving, a thread that has had its budget of turns has
  finished
-/

namespace BoringRegistry

/-- What an SDK call does to the world, whatever S3 answers: it records its request, and an
upload, or a copy that finds its source, stores one object. -/
theorem Request.send_cases {r : Request} {w w' : World} {x : r.Response}
    (h : r.send w = .ok x w') : w' = w.record r ∨ ∃ key body, w' = (w.record r).put key body := by
  cases r <;> simp only [Request.send, Sdk.headObject, Sdk.presignGetObject, Sdk.download,
    Sdk.upload, Sdk.copyObject] at h <;> (repeat' split at h) <;> cases h <;>
    first | exact .inl rfl | exact .inr ⟨_, _, rfl⟩

namespace Prog

variable {α β : Type}

/-- `Within Q n p`: whatever S3 answers, `p` makes at most `n` SDK calls, and when it returns `a`
with `m` of them unspent, `Q a m` holds. -/
inductive Within (Q : α → Nat → Prop) : Nat → Prog α → Prop
  | ret {n : Nat} {a : α} (h : Q a n) : Within Q n (.ret a)
  | panic (n : Nat) (q : Panic) : Within Q n (.panic q)
  | call {n : Nat} {r : Request} {k : r.Response → Prog α} (next : ∀ x, Within Q n (k x)) :
      Within Q (n + 1) (.call r k)

variable {Q R : α → Nat → Prop}

theorem Within.imp {n : Nat} {p : Prog α} (h : Within Q n p) (hQR : ∀ a m, Q a m → R a m) :
    Within R n p := by
  induction h with
  | ret h => exact .ret (hQR _ _ h)
  | panic n q => exact .panic n q
  | call _ ih => exact .call ih

/-- Sequencing passes the unspent budget on: `f a` runs on what `x` left when it returned `a`. -/
theorem Within.bind {S : β → Nat → Prop} {n : Nat} {x : Prog α} {f : α → Prog β}
    (hx : Within Q n x) (hf : ∀ a m, Q a m → Within S m (f a)) : Within S n (x >>= f) := by
  induction hx with
  | ret h => exact hf _ _ h
  | panic n q => exact .panic n q
  | call _ ih => exact .call ih

/-- A single call spends exactly one unit. -/
theorem Within.call_ret (n : Nat) (r : Request) :
    Within (fun _ m => m = n) (n + 1) (Prog.call r Prog.ret) :=
  .call fun _ => .ret rfl

/-- A program with no calls left to spend has finished. -/
theorem Within.done {p : Prog α} (h : Within Q 0 p) : p.Done := by
  cases h <;> trivial

/-- One turn spends one unit of the budget. -/
theorem Within.step {n : Nat} {p : Prog α} (h : Within (fun _ _ => True) n p) (w : World) :
    Within (fun _ _ => True) (n - 1) (p.step w).1 := by
  cases h with
  | ret _ => exact .ret trivial
  | panic n q => exact .panic _ q
  | @call n r k next =>
    obtain ⟨x, w', hsend⟩ := r.send_ok w
    rw [step_call hsend]
    exact next x

end Prog

/-! ### The budget of each operation -/

namespace S3Storage

variable (s : S3Storage)

open Prog

theorem presignedURLProg_within (key : String) (n : Nat) :
    Within (fun r m => m = n ∧ ∃ url, r = .ok url) (n + 1) (s.presignedURLProg key) :=
  (Within.call_ret n _).bind fun r m hm => by
    rcases r with _ | presignResult
    · exact .panic _ _
    · exact .ret ⟨hm, _, rfl⟩

theorem objectExistsProg_within (key : String) (n : Nat) :
    Within (fun _ m => m = n) (n + 1) (s.objectExistsProg key) :=
  (Within.call_ret n _).bind fun r m hm => by
    rcases r with err | _
    · dsimp only; split <;> exact .ret hm
    · exact .ret hm

theorem downloadProg_within (key : String) (n : Nat) :
    Within (fun _ m => m = n) (n + 1) (s.downloadProg key) :=
  (Within.call_ret n _).bind fun r m hm => by cases r <;> exact .ret hm

/-- `GetModule` fails only after its HEAD: the presign that follows a HEAD that found the module
returns a URL or panics. -/
theorem getModuleProg_within (ns name provider version : String) (n : Nat) :
    Within (fun r m => m = if r.isOk then n else n + 1) (n + 2)
      (s.getModuleProg ns name provider version) :=
  (s.objectExistsProg_within _ (n + 1)).bind fun r m hm => by
    subst hm
    rcases r with _ | _ | _
    · exact .ret rfl
    · exact .ret rfl
    · exact (s.presignedURLProg_within _ n).bind fun r m ⟨hm, url, hr⟩ => by
        subst hr; exact .ret hm

theorem uploadModuleProg_within (ns name provider version : String) (body : Blob) :
    Within (fun _ _ => True) 4 (s.uploadModuleProg ns name provider version body) := by
  unfold uploadModuleProg
  cases firstEmpty [(ns, "namespace not defined"), (name, "name not defined"),
      (provider, "provider not defined"), (version, "version not defined")] with
  | some msg => exact .ret trivial
  | none =>
    refine (s.getModuleProg_within ns name provider version 2).bind fun r m hm => ?_
    rcases r with _ | _
    · subst hm
      refine .call fun x => ?_
      rcases x with _ | ⟨⟩
      · exact .ret trivial
      · exact (s.getModuleProg_within ns name provider version 0).imp fun _ _ _ => trivial
    · exact .ret trivial

theorem uploadProviderReleaseFilesProg_within (ns name filename : String) (file : Blob) :
    Within (fun _ _ => True) 2 (s.uploadProviderReleaseFilesProg ns name filename file) := by
  unfold uploadProviderReleaseFilesProg
  cases firstEmpty [(ns, "namespace argument is empty"), (name, "name argument is empty"),
      (filename, "name argument is empty")] with
  | some msg => exact .ret trivial
  | none =>
    cases providerStoragePrefix s.bucketPrefix internalProviderType "" ns name with
    | error err => exact .ret trivial
    | ok pfx =>
      refine (s.objectExistsProg_within _ 1).bind fun r m hm => ?_
      subst hm
      rcases r with _ | _ | _
      · exact .ret trivial
      · exact .call fun x => by cases x <;> exact .ret trivial
      · exact .ret trivial

variable (unmarshalSigningKeys : Blob → Except String Core.SigningKeys)

theorem signingKeysProg_within (ns : String) :
    Within (fun _ _ => True) 1 (s.signingKeysProg unmarshalSigningKeys ns) := by
  unfold signingKeysProg
  cases firstEmpty [(ns, "namespace argument is empty")] with
  | some msg => exact .ret trivial
  | none =>
    refine (s.downloadProg_within _ 0).bind fun r _ _ => ?_
    rcases r with _ | raw
    · exact .ret trivial
    · dsimp only
      cases unmarshalSigningKeys raw <;> exact .ret trivial

theorem getProviderProg_within (ns name version os arch : String) :
    Within (fun _ _ => True) 5
      (s.getProviderProg unmarshalSigningKeys ns name version os arch) := by
  unfold getProviderProg
  cases internalProviderPath s.bucketPrefix ns name version os arch with
  | error err => exact .ret trivial
  | ok paths =>
    obtain ⟨archivePath, shasumPath, shasumSigPath⟩ := paths
    refine (s.presignedURLProg_within _ 4).bind fun r m ⟨hm, _, hr⟩ => ?_
    subst hm hr
    refine (s.presignedURLProg_within _ 3).bind fun r m ⟨hm, _, hr⟩ => ?_
    subst hm hr
    refine (s.presignedURLProg_within _ 2).bind fun r m ⟨hm, _, hr⟩ => ?_
    subst hm hr
    refine (s.downloadProg_within _ 1).bind fun r m hm => ?_
    subst hm
    rcases r with _ | shasumBytes
    · exact .ret trivial
    · dsimp only
      cases readSHASums shasumBytes (GoPath.base archivePath) with
      | error err => exact .ret trivial
      | ok shasum =>
        refine (s.signingKeysProg_within unmarshalSigningKeys ns).bind fun r _ _ => ?_
        cases r <;> exact .ret trivial

end S3Storage

section Serving

variable (s : S3Storage) (unmarshalSigningKeys : Blob → Except String Core.SigningKeys)

/-- The most SDK calls each serving operation other than a listing makes: its own calls, with
`GetModule`'s two counted once more in `UploadModule`. The listings have none. -/
def ServingOp.budget : ServingOp → Option Nat
  | .getModule .. => some 2
  | .listModuleVersions .. => none
  | .uploadModule .. => some 4
  | .getProvider .. => some 5
  | .listProviderVersions .. => none
  | .uploadProviderReleaseFiles .. => some 2
  | .signingKeys _ => some 1

theorem ServingOp.prog_within {op : ServingOp} {b : Nat} (hb : op.budget = some b) :
    Prog.Within (fun _ _ => True) b (op.prog s unmarshalSigningKeys) := by
  cases op with
  | getModule => cases hb; exact (s.getModuleProg_within _ _ _ _ 0).imp fun _ _ _ => trivial
  | listModuleVersions => cases hb
  | uploadModule => cases hb; exact s.uploadModuleProg_within _ _ _ _ _
  | getProvider => cases hb; exact s.getProviderProg_within unmarshalSigningKeys _ _ _ _ _
  | listProviderVersions => cases hb
  | uploadProviderReleaseFiles => cases hb; exact s.uploadProviderReleaseFilesProg_within _ _ _ _
  | signingKeys => cases hb; exact s.signingKeysProg_within unmarshalSigningKeys _

end Serving

/-! ### Budgets bound every interleaving -/

namespace System

open Prog

/-- One turn of thread `j` spends one unit of thread `i`'s budget when `j = i`, and none
otherwise; the thread keeps its operation. -/
theorem step_within {sys : System} {i b : Nat} {t : Thread} (ht : sys.threads[i]? = some t)
    (hb : Within (fun _ _ => True) b t.2) (j : Nat) :
    ∃ t', (sys.step j).threads[i]? = some t' ∧ t'.1 = t.1 ∧
      Within (fun _ _ => True) (b - if j = i then 1 else 0) t'.2 := by
  unfold System.step
  split
  · rename_i u hu
    rcases eq_or_ne j i with rfl | hji
    · cases Option.some.inj (hu.symm.trans ht)
      refine ⟨_, List.getElem?_set_self (List.getElem?_eq_some_iff.mp ht).1, rfl, ?_⟩
      simpa using hb.step sys.world
    · exact ⟨t, by rw [List.getElem?_set_ne hji, ht], rfl, by simpa [hji] using hb⟩
  · rcases eq_or_ne j i with rfl | hji
    · simp_all
    · exact ⟨t, ht, rfl, by simpa [hji] using hb⟩

/-- After any schedule, thread `i` has spent a unit of its budget on each of its turns. -/
theorem run_within {i b : Nat} (sched : List Nat) : ∀ {sys : System} {t : Thread},
    sys.threads[i]? = some t → Within (fun _ _ => True) b t.2 →
      ∃ t', (sys.run sched).threads[i]? = some t' ∧ t'.1 = t.1 ∧
        Within (fun _ _ => True) (b - sched.count i) t'.2 := by
  induction sched generalizing b with
  | nil => exact fun ht hb => ⟨_, ht, rfl, hb⟩
  | cons j sched ih =>
    intro sys t ht hb
    obtain ⟨t₁, ht₁, he₁, hb₁⟩ := step_within ht hb j
    obtain ⟨t', ht', he', hb'⟩ := ih ht₁ hb₁
    refine ⟨t', ht', he'.trans he₁, ?_⟩
    simp only [List.count_cons, beq_iff_eq]
    rwa [Nat.add_comm, ← Nat.sub_sub]

/-- A thread that can finish within `b` calls has finished once it has had `b` turns. -/
theorem run_done {sys : System} {i b : Nat} {t : Thread} (ht : sys.threads[i]? = some t)
    (hb : Within (fun _ _ => True) b t.2) {sched : List Nat} (hturns : b ≤ sched.count i) :
    ∃ p, (sys.run sched).threads[i]? = some ⟨t.1, p⟩ ∧ p.Done := by
  obtain ⟨⟨op', p⟩, ht', rfl, hp⟩ := run_within sched ht hb
  rw [Nat.sub_eq_zero_of_le hturns] at hp
  exact ⟨p, ht', hp.done⟩

end System

end BoringRegistry
