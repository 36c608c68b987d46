import Mathlib.Data.List.Basic

/-!
# Errors as package `storage` builds them

The storage returns Go `error` values of four shapes: the package's sentinels
(`ErrModuleNotFound`, ...), errors handed up unchanged from the AWS SDK, fresh errors made by
`errors.New` or by `fmt.Errorf` without `%w`, and wrappers made by `errors.Wrap`, `errors.Wrapf`
or `fmt.Errorf` with `%w`. A caller tells them apart with `errors.Is`, which compares against a
sentinel along the chain of wrapped causes. `Error.is` is that comparison.

## Main definitions

* `SdkError` — an error from the AWS SDK, with the HTTP status when it is a response error
* `Sentinel`, `Error`, `Error.is` — the error values and `errors.Is`
-/

namespace BoringRegistry

/-- Results of fallible functions are compared, so `Except` gets decidable equality. -/
instance decEqExcept {ε α : Type} [DecidableEq ε] [DecidableEq α] : DecidableEq (Except ε α)
  | .error e, .error e' =>
    if h : e = e' then isTrue (h ▸ rfl) else isFalse fun h' => h (Except.error.inj h')
  | .ok a, .ok a' => if h : a = a' then isTrue (h ▸ rfl) else isFalse fun h' => h (Except.ok.inj h')
  | .error _, .ok _ => isFalse Except.noConfusion
  | .ok _, .error _ => isFalse Except.noConfusion

/-- An error returned by the AWS SDK. `status` is the HTTP status code when the error is an
`*awshttp.ResponseError`, the type `objectExists` looks for with `errors.As`. -/
structure SdkError where
  status : Option Nat
  message : String
  deriving DecidableEq, Repr

/-- The answer S3 gives for a key that holds no object. -/
def SdkError.notFound : SdkError := ⟨some 404, "NotFound"⟩

/-- The answer S3 gives for a copy from a bucket it does not hold. -/
def SdkError.noSuchBucket : SdkError := ⟨some 404, "NoSuchBucket"⟩

/-- The sentinel errors of package `storage`. -/
inductive Sentinel
  | moduleNotFound
  | moduleUploadFailed
  | moduleAlreadyExists
  | moduleListFailed
  | providerNotFound
  | providerUploadFailed
  | providerAlreadyExists
  | providerListFailed
  deriving DecidableEq, Repr

/-- A Go `error` as the storage builds one. -/
inductive Error
  /-- One of the package's sentinels, returned as it is. -/
  | sentinel (s : Sentinel)
  /-- An error of the AWS SDK, returned as it is. -/
  | sdk (e : SdkError)
  /-- `errors.New(msg)`, or `fmt.Errorf` without `%w`: it wraps nothing. -/
  | new (msg : String)
  /-- `errors.Wrap(cause, msg)`, `errors.Wrapf`, or `fmt.Errorf("msg: %w", cause)`. -/
  | wrap (msg : String) (cause : Error)
  deriving DecidableEq, Repr

namespace Error

/-- `errors.Is(err, target)` for a sentinel `target`: the sentinel is `err` or one of its
wrapped causes. -/
def is : Error → Sentinel → Bool
  | sentinel s, t => s == t
  | wrap _ cause, t => cause.is t
  | sdk _, _ => false
  | new _, _ => false

@[simp] theorem is_sentinel (s t : Sentinel) : (sentinel s).is t = (s == t) := rfl
@[simp] theorem is_wrap (msg : String) (cause : Error) (t : Sentinel) :
    (wrap msg cause).is t = cause.is t := rfl
@[simp] theorem is_sdk (e : SdkError) (t : Sentinel) : (sdk e).is t = false := rfl
@[simp] theorem is_new (msg : String) (t : Sentinel) : (new msg).is t = false := rfl

end Error

end BoringRegistry
