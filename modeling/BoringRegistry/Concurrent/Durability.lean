import BoringRegistry.Concurrent.Atomicity

/-!
# A module once returned stays stored

`GetModule` returns a module only after its HEAD of the module's key has found an object, and
`UploadModule` returns one only through its second `GetModule`. No request removes an object. So
once either call has returned a module, in any interleaving and whatever fails, the module's key
holds an object at every later point of the run (`System.run_returned_module_stored`). An upload
that has acknowledged its module is never lost.

Unlike `System.run_call_atomic`, this needs no assumption on failures: a HEAD answers without an
error only when the key holds an object, whatever else fails.

## The argument

`Finds key Q seen p` says that `p` returns only values `a` with `Q a seen'`, where `seen'` says
whether one of its HEADs of `key` has found an object by then, starting from `seen`. The thread
invariant `System.FindsAt` adds that if one has, the key still holds an object. One step of the
thread keeps it (`Prog.Finds.step`), and so does a step of another thread, since no request
removes an object.

## Main definitions

* `Prog.Finds` — programs whose return values record whether a HEAD of a key has found an object
* `System.FindsAt` — the invariant of one thread of a run

## Main results

* `System.run_returned_module_stored` — once `GetModule` or `UploadModule` has returned a module,
  in any interleaving and whatever fails, its key holds an object from then on
-/

namespace BoringRegistry

theorem World.stores_singleton {w : World} {key : String} :
    w.Stores [key] ↔ (w.bucket key).isSome := by
  simp [World.Stores]

namespace Prog

variable {α β : Type} {key : String}

/-- `Finds key Q seen p`: whatever S3 answers, `p` returns only values `a` with `Q a seen'`,
where `seen'` says whether `seen` held or one of `p`'s HEADs of `key` has found an object. -/
inductive Finds (key : String) (Q : α → Bool → Prop) : Bool → Prog α → Prop
  | ret {seen : Bool} {a : α} (h : Q a seen) : Finds key Q seen (.ret a)
  | panic {seen : Bool} (q : Panic) : Finds key Q seen (.panic q)
  | headObject {seen : Bool} {bucket : String} {k : Except SdkError Unit → Prog α}
      (next : ∀ x, Finds key Q (seen || x.isOk) (k x)) :
      Finds key Q seen (.call (.headObject bucket key) k)
  | call {seen : Bool} {r : Request} {k : r.Response → Prog α}
      (next : ∀ x, Finds key Q seen (k x)) : Finds key Q seen (.call r k)

variable {Q : α → Bool → Prop}

theorem Finds.bind {R : β → Bool → Prop} {seen : Bool} {x : Prog α} {f : α → Prog β}
    (hx : Finds key Q seen x) (hf : ∀ a seen', Q a seen' → Finds key R seen' (f a)) :
    Finds key R seen (x >>= f) := by
  induction hx with
  | ret h => exact hf _ _ h
  | panic q => exact .panic q
  | headObject _ ih => exact .headObject ih
  | call _ ih => exact .call ih

/-- A HEAD of `key` that returns its answer records whether it found an object. -/
theorem Finds.headObject_ret {seen : Bool} (bucket : String) :
    Finds key (fun (x : Except SdkError Unit) seen' => x.isOk = true → seen' = true) seen
      (.call (.headObject bucket key) Prog.ret) :=
  .headObject fun _ => .ret fun h => by simp [h]

/-- A HEAD answers without an error only when its key holds an object, whatever fails. -/
theorem isOk_of_send_headObject {bucket : String} {w w' : World} {x : Except SdkError Unit}
    (h : (Request.headObject bucket key).send w = .ok x w') (hx : x.isOk = true) :
    (w.bucket key).isSome := by
  rw [Request.send_headObject] at h
  cases h
  revert hx
  cases w.faultOf (.headObject bucket key) with
  | some e => exact nofun
  | none => cases hb : (w.bucket key).isSome <;> simp [hb, Except.isOk, Except.toBool]

/-- One request of a program that records its HEADs of `key`: if one has found an object, the
key still holds one after the request. -/
theorem Finds.step {seen : Bool} {p : Prog α} (hp : Finds key Q seen p) {w : World}
    (hw : seen = true → w.Stores [key]) :
    ∃ seen', Finds key Q seen' (p.step w).1 ∧ (seen' = true → (p.step w).2.Stores [key]) := by
  cases hp with
  | ret h => exact ⟨seen, .ret h, hw⟩
  | panic q => exact ⟨seen, .panic q, hw⟩
  | @headObject _ bucket k next =>
    have hsend := Request.send_headObject bucket key w
    rw [step_call hsend]
    refine ⟨_, next _, fun hs => ?_⟩
    rcases Bool.or_eq_true_iff.mp hs with hs | hs
    · exact hw hs
    · have hsome := isOk_of_send_headObject hsend hs
      exact World.stores_singleton.mpr hsome
  | @call _ r k next =>
    obtain ⟨x, w', h⟩ := r.send_ok w
    refine ⟨seen, ?_, fun hs => ?_⟩
    · rw [step_call h]
      exact next x
    · exact step_stores _ (hw hs)

end Prog

/-! ### The operations that return modules -/

namespace S3Storage

variable (s : S3Storage)

open Prog

/-- What `objectExists` returns: it answers `true` only after its HEAD has found an object. -/
def FoundIfTrue (r : Except Error Bool) (seen : Bool) : Prop := r = .ok true → seen = true

/-- What `GetModule` and `UploadModule` return: a module only after a HEAD has found an object. -/
def FoundIfModule (r : Except Error Core.Module) (seen : Bool) : Prop :=
  r.isOk = true → seen = true

theorem objectExistsProg_finds (key : String) (seen : Bool) :
    Finds key FoundIfTrue seen (s.objectExistsProg key) :=
  (Finds.headObject_ret _).bind fun r seen' hr => by
    rcases r with err | _
    · dsimp only
      split <;> exact .ret nofun
    · exact .ret fun _ => hr rfl

theorem getModuleProg_finds (ns name provider version : String) (seen : Bool) :
    Finds (s.moduleKey ns name provider version) FoundIfModule seen
      (s.getModuleProg ns name provider version) := by
  refine (s.objectExistsProg_finds _ seen).bind fun r seen' hr => ?_
  rcases r with _ | _ | _
  · exact .ret nofun
  · exact .ret nofun
  · refine .call fun x => ?_
    rcases x with _ | _
    · exact .panic _
    · exact .ret fun _ => hr rfl

theorem uploadModuleProg_finds (ns name provider version : String) (body : Blob) :
    Finds (s.moduleKey ns name provider version) FoundIfModule false
      (s.uploadModuleProg ns name provider version body) := by
  unfold uploadModuleProg
  cases firstEmpty [(ns, "namespace not defined"), (name, "name not defined"),
      (provider, "provider not defined"), (version, "version not defined")] with
  | some msg => exact .ret nofun
  | none =>
    refine (s.getModuleProg_finds ns name provider version false).bind fun r seen _ => ?_
    rcases r with _ | _
    · refine .call fun x => ?_
      rcases x with _ | ⟨⟩
      · exact .ret nofun
      · exact s.getModuleProg_finds ns name provider version seen
    · exact .ret nofun

end S3Storage

/-! ### Interleavings -/

namespace System

open Prog

/-- Thread `i` runs `op` and stands at a program that records its HEADs of `key`; if one has
found an object, `key` holds one. -/
def FindsAt (key : String) (i : Nat) (op : ServingOp) (Q : op.Result → Bool → Prop)
    (sys : System) : Prop :=
  ∃ q seen, sys.threads[i]? = some ⟨op, q⟩ ∧ Finds key Q seen q ∧
    (seen = true → sys.world.Stores [key])

variable {key : String} {i : Nat} {op : ServingOp} {Q : op.Result → Bool → Prop}

theorem FindsAt.step {sys : System} (h : FindsAt key i op Q sys) (j : Nat) :
    FindsAt key i op Q (sys.step j) := by
  obtain ⟨q, seen, hi, hq, hw⟩ := h
  unfold System.step
  split
  · rename_i u hu
    rcases eq_or_ne j i with rfl | hji
    · cases Option.some.inj (hu.symm.trans hi)
      obtain ⟨seen', hq', hw'⟩ := hq.step hw
      exact ⟨_, seen', List.getElem?_set_self (List.getElem?_eq_some_iff.mp hi).1, hq', hw'⟩
    · exact ⟨q, seen, by rw [List.getElem?_set_ne hji, hi], hq,
        fun hs => step_stores _ (hw hs)⟩
  · exact ⟨q, seen, hi, hq, hw⟩

theorem FindsAt.run {sys : System} (h : FindsAt key i op Q sys) (sched : List Nat) :
    FindsAt key i op Q (sys.run sched) := by
  induction sched generalizing sys with
  | nil => exact h
  | cons j sched ih => exact ih (h.step j)

/-- Every turn leaves each thread running its operation. -/
theorem step_op {sys : System} {t : Thread} (ht : sys.threads[i]? = some t) (j : Nat) :
    ∃ q, (sys.step j).threads[i]? = some ⟨t.1, q⟩ := by
  unfold System.step
  split
  · rename_i u hu
    rcases eq_or_ne j i with rfl | hji
    · cases Option.some.inj (hu.symm.trans ht)
      exact ⟨_, List.getElem?_set_self (List.getElem?_eq_some_iff.mp ht).1⟩
    · exact ⟨t.2, by rw [List.getElem?_set_ne hji, ht]⟩
  · exact ⟨t.2, ht⟩

theorem run_op {sys : System} {t : Thread} (ht : sys.threads[i]? = some t) (sched : List Nat) :
    ∃ q, (sys.run sched).threads[i]? = some ⟨t.1, q⟩ := by
  induction sched generalizing sys t with
  | nil => exact ⟨t.2, ht⟩
  | cons j sched ih =>
    obtain ⟨q, hq⟩ := step_op ht j
    obtain ⟨q', hq'⟩ := ih hq
    exact ⟨q', hq'⟩

@[simp] theorem run_length (sys : System) (sched : List Nat) :
    (sys.run sched).threads.length = sys.threads.length := by
  induction sched generalizing sys with
  | nil => rfl
  | cons j sched ih => rw [run_cons, ih, step_length]

variable (s : S3Storage) (unmarshalSigningKeys : Blob → Except String Core.SigningKeys)

/-- The thread at index `i` of a run of `start` runs the `i`-th operation. -/
theorem getElem?_ops_of_run {ops : List ServingOp} {w₀ : World} {sched : List Nat}
    {t : Thread} (ht : ((start s unmarshalSigningKeys ops w₀).run sched).threads[i]? = some t) :
    ops[i]? = some t.1 := by
  obtain ⟨hi, -⟩ := List.getElem?_eq_some_iff.mp ht
  rw [run_length] at hi
  obtain ⟨op, hop, -⟩ := start_getElem? s unmarshalSigningKeys (List.getElem?_eq_getElem hi)
  obtain ⟨q, hq⟩ := run_op (start_getElem?_of_getElem? s unmarshalSigningKeys hop) sched
  rw [← Option.some.inj (hq.symm.trans ht)]
  exact hop

/-- A call that records its HEADs of `key` and has returned a value that needs one of them to
have found an object leaves `key` holding an object for the rest of the run. -/
theorem stored_of_ret {ops : List ServingOp} {w₀ : World} {sched : List Nat} {r : op.Result}
    (hfinds : Finds key Q false (op.prog s unmarshalSigningKeys))
    (hr : ((start s unmarshalSigningKeys ops w₀).run sched).threads[i]? = some ⟨op, .ret r⟩)
    (hQ : ∀ seen, Q r seen → seen = true) (sched' : List Nat) :
    (((start s unmarshalSigningKeys ops w₀).run (sched ++ sched')).world.bucket key).isSome := by
  have h₀ : FindsAt key i op Q (start s unmarshalSigningKeys ops w₀) :=
    ⟨_, false, start_getElem?_of_getElem? s unmarshalSigningKeys
      (getElem?_ops_of_run s unmarshalSigningKeys hr), hfinds, nofun⟩
  obtain ⟨q, seen, hi, hq, hw⟩ := h₀.run sched
  obtain ⟨-, hq'⟩ := Sigma.mk.inj_iff.mp (Option.some.inj (hi.symm.trans hr))
  cases eq_of_heq hq'
  cases hq with
  | ret hQr =>
    rw [run_append, ← World.stores_singleton]
    exact run_stores (hw (hQ _ hQr)) sched'

/-- A module once returned stays stored. In any interleaving of any serving calls and whatever
fails, once a `GetModule` or an `UploadModule` call has returned a module, the module's key holds
an object at every later point of the run. -/
theorem run_returned_module_stored (ops : List ServingOp) (w₀ : World) (sched sched' : List Nat)
    {i : Nat} {ns name provider version : String} {m : Core.Module}
    (hr : (∃ body, ((start s unmarshalSigningKeys ops w₀).run sched).threads[i]? =
        some ⟨.uploadModule ns name provider version body, .ret (.ok m)⟩) ∨
      ((start s unmarshalSigningKeys ops w₀).run sched).threads[i]? =
        some ⟨.getModule ns name provider version, .ret (.ok m)⟩) :
    (((start s unmarshalSigningKeys ops w₀).run (sched ++ sched')).world.bucket
      (s.moduleKey ns name provider version)).isSome := by
  have hQ : ∀ seen, S3Storage.FoundIfModule (.ok m) seen → seen = true := fun _ h => h rfl
  rcases hr with ⟨body, hr⟩ | hr
  · exact stored_of_ret s unmarshalSigningKeys
      (s.uploadModuleProg_finds ns name provider version body) hr hQ sched'
  · exact stored_of_ret s unmarshalSigningKeys
      (s.getModuleProg_finds ns name provider version false) hr hQ sched'

/-- The first of the two racing uploads of `uploadModule_race` has returned its module, and the
module's key holds an object from then on, although the second upload replaced the object. -/
theorem run_returned_module_stored_race :
    ((∃ body, (S3Storage.racingUploads.run [0, 1, 0, 1, 0, 0, 1, 1]).threads[0]? =
        some ⟨.uploadModule "acme" "tls" "aws" "1.0.0" body, .ret (.ok ⟨"acme", "tls", "aws",
          "1.0.0",
          presignedGetURL "registry" (tarRegistry.moduleKey "acme" "tls" "aws" "1.0.0")⟩)⟩) ∨
      (S3Storage.racingUploads.run [0, 1, 0, 1, 0, 0, 1, 1]).threads[0]? =
        some ⟨.getModule "acme" "tls" "aws" "1.0.0", .ret (.ok ⟨"acme", "tls", "aws", "1.0.0",
          presignedGetURL "registry" (tarRegistry.moduleKey "acme" "tls" "aws" "1.0.0")⟩)⟩) ∧
    ((S3Storage.racingUploads.run ([0, 1, 0, 1, 0, 0, 1, 1] ++ [1])).world.bucket
      (tarRegistry.moduleKey "acme" "tls" "aws" "1.0.0")).isSome :=
  ⟨.inl ⟨"v1", by rfl⟩,
    @run_returned_module_stored _ _ _ _ _ [1] 0 _ _ _ _ _ (.inl ⟨"v1", by rfl⟩)⟩

end System

end BoringRegistry
