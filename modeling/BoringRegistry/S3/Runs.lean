import BoringRegistry.S3.Client
import Mathlib.Order.Defs.Unbundled

/-!
# Runs of Go computations

Two tools for reasoning about whole runs of the storage's operations rather than one call.

* `Go.Keeps R x`: however `x` ends, the world after it is related to the world before by `R`.
  For a preorder `R` this composes through `>>=`, so a property such as "no object is replaced"
  is proved once per SDK call and then follows for every operation built from those calls.
* The paginated loop `forEachPage` equals `forEachKey` over the keys of the pages before the
  first failing one, followed by that failure: how the keys are split into pages does not matter.

## Main results

* `Go.Keeps.bind` — frame properties compose
* `forEachKey_append`, `forEachPage_eq` — the paginated loop is one loop over all keys
* `forEachKey_pure` — a loop whose body never calls S3 is a fold
-/

namespace BoringRegistry

/-! ### Relations between worlds -/

namespace World

/-- `w'` holds exactly the objects of `w`. Like every relation between the worlds of one run, it
keeps the failure pattern, which is fixed for the run. -/
def SameBucket (w w' : World) : Prop := w'.bucket = w.bucket ∧ w'.fault = w.fault

/-- Every object of `w` is still in `w'`, with the same contents: nothing was replaced or
deleted, though objects may have been added. -/
def Retains (w w' : World) : Prop :=
  (∀ k v, w.bucket k = some v → w'.bucket k = some v) ∧ w'.fault = w.fault

instance : IsPreorder World SameBucket where
  refl _ := ⟨rfl, rfl⟩
  trans _ _ _ h₁ h₂ := ⟨h₂.1.trans h₁.1, h₂.2.trans h₁.2⟩

instance : IsPreorder World Retains where
  refl _ := ⟨fun _ _ h => h, rfl⟩
  trans _ _ _ h₁ h₂ := ⟨fun k v h => h₂.1 k v (h₁.1 k v h), h₂.2.trans h₁.2⟩

theorem SameBucket.retains {w w' : World} (h : w.SameBucket w') : w.Retains w' :=
  ⟨fun _ _ hk => h.1 ▸ hk, h.2⟩

@[simp] theorem sameBucket_record (w : World) (r : Request) : w.SameBucket (w.record r) :=
  ⟨rfl, rfl⟩

end World

/-! ### Frame properties of computations -/

namespace Go

variable {α β : Type} (R : World → World → Prop)

/-- However `x` ends, returning or panicking, it moves the world only along `R`. -/
def Keeps (x : Go α) : Prop := ∀ w, R w (after x w)

variable {R} [IsPreorder World R]

theorem Keeps.pure (a : α) : Keeps R (Pure.pure a : Go α) := fun w => refl_of R w

theorem Keeps.throw (p : Panic) : Keeps R (throw p : Go α) := fun w => refl_of R w

theorem Keeps.bind {x : Go α} {f : α → Go β} (hx : Keeps R x) (hf : ∀ a, Keeps R (f a)) :
    Keeps R (x >>= f) := by
  intro w
  have h := hx w
  simp only [after, bind_apply] at h ⊢
  split at h
  · exact trans_of R h (hf _ _)
  · exact h

end Go

/-! ### Frame properties of the SDK calls -/

namespace Sdk

theorem presignGetObject_keeps (bucket key : String) (expires : Nat) :
    Go.Keeps World.SameBucket (presignGetObject bucket key expires) := fun _ => ⟨rfl, rfl⟩

theorem download_keeps (bucket key : String) :
    Go.Keeps World.SameBucket (download bucket key) := fun _ => ⟨rfl, rfl⟩

end Sdk

/-! ### The paginated loop -/

section Loops

variable {σ : Type} (onErr : SdkError → Error) (body : σ → String → Go (Except Error σ))

theorem forEachKey_append (l₁ l₂ : List String) (acc : σ) :
    forEachKey body (l₁ ++ l₂) acc = (do
      match ← forEachKey body l₁ acc with
      | .error err => return .error err
      | .ok acc => forEachKey body l₂ acc) := by
  induction l₁ generalizing acc with
  | nil => simp [forEachKey]
  | cons k l₁ ih =>
    simp only [List.cons_append, forEachKey, bind_assoc]
    congr 1; funext r; cases r <;> simp [ih]

/-- The paginated loop runs the body over the keys of every page before the first failing one,
then returns that page's error. -/
theorem forEachPage_eq (pages : List Page) (acc : σ) :
    forEachPage onErr body pages acc = (do
      match ← forEachKey body (Pages.split pages).1 acc with
      | .error err => return .error err
      | .ok acc => return match (Pages.split pages).2 with
        | some e => .error (onErr e)
        | none => .ok acc) := by
  induction pages generalizing acc with
  | nil => simp [forEachPage, forEachKey]
  | cons p pages ih =>
    cases p with
    | error e => simp [forEachPage, forEachKey]
    | ok keys =>
      simp only [forEachPage, ih, Pages.split_ok, forEachKey_append, bind_assoc]
      congr 1; funext r; cases r <;> simp

/-- A loop whose body never calls S3 and never returns is a left fold. -/
theorem forEachKey_pure (f : σ → String → σ) (keys : List String) (acc : σ) :
    forEachKey (fun acc key => Pure.pure (.ok (f acc key))) keys acc =
      Pure.pure (.ok (keys.foldl f acc)) := by
  induction keys generalizing acc with
  | nil => rfl
  | cons k keys ih => simp [forEachKey, ih]

variable {R : World → World → Prop} [IsPreorder World R]

theorem forEachKey_keeps (hbody : ∀ acc key, Go.Keeps R (body acc key)) (keys : List String)
    (acc : σ) : Go.Keeps R (forEachKey body keys acc) := by
  induction keys generalizing acc with
  | nil => exact Go.Keeps.pure _
  | cons k keys ih =>
    refine Go.Keeps.bind (hbody acc k) fun r => ?_
    cases r
    · exact Go.Keeps.pure _
    · exact ih _

theorem forEachPage_keeps (hbody : ∀ acc key, Go.Keeps R (body acc key)) (pages : List Page)
    (acc : σ) : Go.Keeps R (forEachPage onErr body pages acc) := by
  rw [forEachPage_eq]
  refine Go.Keeps.bind (forEachKey_keeps body hbody _ acc) fun r => ?_
  cases r <;> exact Go.Keeps.pure _

end Loops

end BoringRegistry
