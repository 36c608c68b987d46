import BoringRegistry.Go.Errors
import Mathlib.Logic.Function.Basic
import Mathlib.Data.List.Sort
import Mathlib.Data.List.Lex
import Mathlib.Data.Char

/-!
# S3 as the storage sees it

The storage talks to S3 through four SDK objects: the client (`HeadObject`, `ListObjectsV2`,
`CopyObject`), the presign client, the uploader and the downloader. This module models one run of
the storage against one bucket: a `World` holds the bucket, every request sent so far, and a
failure pattern saying which requests fail.

## The failure pattern

A request can fail for reasons the bucket does not explain: credentials, the network, throttling.
`World.fault r n` is the error with which the `n`-th sending of request `r` fails, if it does.
Counting sendings of the same request, rather than positions in the whole run, makes the pattern
independent of unrelated requests, and still assigns an outcome to every call of a deterministic
run, so quantifying over `fault` quantifies over every failure pattern.

Listings are the exception: what `ListObjectsV2Paginator` yields for a prefix, page by page and
with any page failing, is a `Paginator` that the listing operations take as an argument.

## Go computations

`Go` is `EStateM Panic World`: a Go call returns a value or panics, and in both cases the world
has moved on. The storage's functions return `(value, error)` pairs, modelled as
`Go (Except Error α)`; a panic is not an error value and no caller sees it.

## Main definitions

* `World`, `Request`, `Go` — the bucket, the requests, the computations
* `Sdk.headObject`, `Sdk.presignGetObject`, `Sdk.download`, `Sdk.upload`, `Sdk.copyObject` —
  one request each
* `Paginator`, `Page`, `Pages.split` — listings and what their pages come to
* `forEachPage`, `forEachKey` — the paginated loop every listing operation runs
* `KeyLt`, `Lists` — S3's key order, and a complete listing of a prefix
-/

namespace BoringRegistry

/-- The contents of an object. -/
abbrev Blob := String

/-- A request the storage sends to S3, with the fields of its input the storage sets. A copy
carries its source as S3 reads it, after percent-decoding: `url.PathEscape` only protects it in
transit. -/
inductive Request
  | headObject (bucket key : String)
  | presignGetObject (bucket key : String) (expires : Nat)
  | download (bucket key : String)
  | upload (bucket key : String) (body : Blob)
  | copyObject (bucket copySource key : String)
  deriving DecidableEq, Repr

/-- S3 as one run of the storage sees it. Every request of a storage names its one configured
bucket, and `bucket` holds that bucket's objects. -/
structure World where
  /-- The bucket: the object stored under each key, if any. -/
  bucket : String → Option Blob
  /-- Every request sent so far, oldest first. -/
  sent : List Request
  /-- The failure pattern: the error the `n`-th sending of `r`, counting from `0`, fails with. -/
  fault : Request → Nat → Option SdkError

namespace World

/-- Record `r` as sent. -/
def record (w : World) (r : Request) : World := { w with sent := w.sent ++ [r] }

/-- The error the next sending of `r` fails with, if it fails. -/
def faultOf (w : World) (r : Request) : Option SdkError := w.fault r (w.sent.count r)

/-- Store `body` under `key`. -/
def put (w : World) (key : String) (body : Blob) : World :=
  { w with bucket := Function.update w.bucket key (some body) }

@[simp] theorem record_bucket (w : World) (r : Request) : (w.record r).bucket = w.bucket := rfl
@[simp] theorem record_fault (w : World) (r : Request) : (w.record r).fault = w.fault := rfl
@[simp] theorem record_sent (w : World) (r : Request) : (w.record r).sent = w.sent ++ [r] := rfl
@[simp] theorem put_bucket (w : World) (key : String) (body : Blob) :
    (w.put key body).bucket = Function.update w.bucket key (some body) := rfl
@[simp] theorem put_sent (w : World) (key : String) (body : Blob) :
    (w.put key body).sent = w.sent := rfl
@[simp] theorem put_fault (w : World) (key : String) (body : Blob) :
    (w.put key body).fault = w.fault := rfl

/-- An empty bucket, before any request, in a run where no request fails. -/
def empty : World := ⟨fun _ => none, [], fun _ _ => none⟩

/-- No request of the run fails. -/
def Reliable (w : World) : Prop := ∀ r n, w.fault r n = none

/-- Every failure of the run is something other than an HTTP 404: a 404 only ever comes from a
key that holds no object. -/
def No404Faults (w : World) : Prop := ∀ r n e, w.fault r n = some e → e.status ≠ some 404

theorem Reliable.faultOf {w : World} (h : w.Reliable) (r : Request) : w.faultOf r = none := h _ _

@[simp] theorem reliable_record {w : World} {r : Request} : (w.record r).Reliable ↔ w.Reliable :=
  Iff.rfl

@[simp] theorem reliable_put {w : World} {key : String} {body : Blob} :
    (w.put key body).Reliable ↔ w.Reliable := Iff.rfl

@[simp] theorem no404Faults_record {w : World} {r : Request} :
    (w.record r).No404Faults ↔ w.No404Faults := Iff.rfl

@[simp] theorem no404Faults_put {w : World} {key : String} {body : Blob} :
    (w.put key body).No404Faults ↔ w.No404Faults := Iff.rfl

end World

/-- A Go goroutine's panic. -/
structure Panic where
  msg : String

/-- A Go computation against S3. -/
abbrev Go := EStateM Panic World

namespace Go

/-- The world after running `x` from `w`, whether `x` returned or panicked. -/
def after {α : Type} (x : Go α) (w : World) : World :=
  match x w with
  | .ok _ w' => w'
  | .error _ w' => w'

/-- What `x` returns from `w`; `none` if it panics. -/
def value? {α : Type} (x : Go α) (w : World) : Option α :=
  match x w with
  | .ok a _ => some a
  | .error _ _ => none

variable {α β : Type}

@[simp] theorem bind_apply (x : Go α) (f : α → Go β) (w : World) :
    (x >>= f) w = match x w with
      | .ok a w' => f a w'
      | .error e w' => .error e w' := by
  simp only [bind, EStateM.bind]
  cases x w <;> rfl

@[simp] theorem pure_apply (a : α) (w : World) : (pure a : Go α) w = .ok a w := rfl

@[simp] theorem throw_apply (p : Panic) (w : World) : (throw p : Go α) w = .error p w := rfl

@[simp] theorem after_ok {x : Go α} {w w' : World} {a : α} (h : x w = .ok a w') :
    after x w = w' := by simp [after, h]

@[simp] theorem after_error {x : Go α} {w w' : World} {p : Panic} (h : x w = .error p w') :
    after x w = w' := by simp [after, h]

@[simp] theorem value?_ok {x : Go α} {w w' : World} {a : α} (h : x w = .ok a w') :
    value? x w = some a := by simp [value?, h]

theorem value?_eq_some {x : Go α} {w : World} {a : α} :
    value? x w = some a ↔ ∃ w', x w = .ok a w' := by
  unfold value?
  split <;> simp [*]

/-- A bind that returns ran a first step that returned. -/
theorem bind_eq_ok {x : Go α} {f : α → Go β} {w w' : World} {b : β}
    (h : (x >>= f) w = .ok b w') : ∃ a w₁, x w = .ok a w₁ ∧ f a w₁ = .ok b w' := by
  rw [bind_apply] at h
  split at h
  · rename_i a w₁ hx
    exact ⟨a, w₁, hx, h⟩
  · cases h

end Go

/-! ### The requests -/

/-- `presignResult.URL` for a presigned `GetObject`. The signature's query parameters are not
modelled: they do not change which object the URL reads. -/
def presignedGetURL (bucket key : String) : String :=
  "https://" ++ bucket ++ ".s3.amazonaws.com/" ++ key

/-- The `*v4.PresignedHTTPRequest` of a presign; the storage reads only its `URL`. -/
structure PresignedHTTPRequest where
  URL : String

/-- The key in `bucket` that a copy source names: the part after its first `/`, provided the
part before it is `bucket`. -/
def copySourceKey (bucket copySource : String) : Option String :=
  match copySource.data.span (· != '/') with
  | (b, '/' :: key) => if String.mk b = bucket then some (String.mk key) else none
  | _ => none

/-- A copy source names a key of `bucket` exactly when it is the bucket's name, which has no
`/`, then `/` and the key. -/
theorem copySourceKey_eq_some {bucket copySource key : String} :
    copySourceKey bucket copySource = some key ↔
      '/' ∉ bucket.data ∧ copySource = bucket ++ "/" ++ key := by
  constructor
  · intro h
    unfold copySourceKey at h
    split at h
    · rename_i b rest hspan
      split_ifs at h with hb
      cases h; subst hb
      rw [List.span_eq_take_drop, Prod.mk.injEq] at hspan
      refine ⟨fun hs => ?_, String.ext ?_⟩
      · have := List.mem_takeWhile_imp (hspan.1 ▸ hs); simp at this
      · rw [← List.takeWhile_append_dropWhile (· != '/') copySource.data, hspan.1, hspan.2]
        simp
    · cases h
  · rintro ⟨hb, rfl⟩
    have hall : ∀ c ∈ bucket.data, (c != '/') = true := fun c hc => by
      simpa using fun e : c = '/' => hb (e ▸ hc)
    have hdata : (bucket ++ "/" ++ key).data = bucket.data ++ '/' :: key.data := by simp
    simp only [copySourceKey, hdata, List.span_eq_take_drop, List.takeWhile_append_of_pos hall,
      List.dropWhile_append_of_pos hall]
    simp

namespace Sdk

/-- `HeadObject`: whether `key` holds an object, or S3's 404 when it does not. -/
def headObject (bucket key : String) : Go (Except SdkError Unit) := fun w =>
  let r := Request.headObject bucket key
  .ok (match w.faultOf r with
    | some e => .error e
    | none => if (w.bucket key).isSome then .ok () else .error SdkError.notFound) (w.record r)

/-- `PresignGetObject`: a URL reading `key` for `expires` nanoseconds. On failure the SDK returns
a nil request along with the error. -/
def presignGetObject (bucket key : String) (expires : Nat) :
    Go (Except SdkError PresignedHTTPRequest) := fun w =>
  let r := Request.presignGetObject bucket key expires
  .ok (match w.faultOf r with
    | some e => .error e
    | none => .ok ⟨presignedGetURL bucket key⟩) (w.record r)

/-- The downloader's `Download`: the object under `key`. -/
def download (bucket key : String) : Go (Except SdkError Blob) := fun w =>
  let r := Request.download bucket key
  .ok (match w.faultOf r with
    | some e => .error e
    | none => match w.bucket key with
      | some body => .ok body
      | none => .error SdkError.notFound) (w.record r)

/-- The uploader's `Upload`: store `body` under `key`, replacing what is there. -/
def upload (bucket key : String) (body : Blob) : Go (Except SdkError Unit) := fun w =>
  let r := Request.upload bucket key body
  match w.faultOf r with
  | some e => .ok (.error e) (w.record r)
  | none => .ok (.ok ()) ((w.record r).put key body)

/-- `CopyObject`: store under `key` the object the copy source names. -/
def copyObject (bucket copySource key : String) : Go (Except SdkError Unit) := fun w =>
  let r := Request.copyObject bucket copySource key
  match w.faultOf r with
  | some e => .ok (.error e) (w.record r)
  | none =>
    match copySourceKey bucket copySource with
    | none => .ok (.error SdkError.noSuchBucket) (w.record r)
    | some source =>
      match w.bucket source with
      | none => .ok (.error SdkError.notFound) (w.record r)
      | some body => .ok (.ok ()) ((w.record r).put key body)

end Sdk

/-! ### Listings -/

/-- The outcome of one `paginator.NextPage`: the keys of the page, or the error. -/
abbrev Page := Except SdkError (List String)

/-- What `s3.NewListObjectsV2Paginator` yields for a listing of each prefix: the outcome of each
`NextPage`, in order, until `HasMorePages` turns false. The pages are a parameter of a listing,
fixed before the call: they are not read from the modelled bucket, and fetching one is not a
request of the model. -/
abbrev Paginator := String → List Page

/-- The keys of the pages before the first failing one, and that failure. -/
def Pages.split : List Page → List String × Option SdkError
  | [] => ([], none)
  | .error e :: _ => ([], some e)
  | .ok keys :: rest => (keys ++ (Pages.split rest).1, (Pages.split rest).2)

@[simp] theorem Pages.split_nil : Pages.split [] = ([], none) := rfl
@[simp] theorem Pages.split_error (e : SdkError) (rest : List Page) :
    Pages.split (.error e :: rest) = ([], some e) := rfl
@[simp] theorem Pages.split_ok (keys : List String) (rest : List Page) :
    Pages.split (.ok keys :: rest) = (keys ++ (Pages.split rest).1, (Pages.split rest).2) := rfl

/-- Go's `for _, obj := range resp.Contents { body }` over the keys of one page: `body` either
continues with an updated accumulator or returns from the enclosing function. -/
def forEachKey {σ : Type} (body : σ → String → Go (Except Error σ)) :
    List String → σ → Go (Except Error σ)
  | [], acc => return .ok acc
  | key :: keys, acc => do
    match ← body acc key with
    | .error err => return .error err
    | .ok acc => forEachKey body keys acc

/-- Go's paginated loop, the shape of every listing in `s3.go`:
`for paginator.HasMorePages() { resp, err := paginator.NextPage(ctx); if err != nil { return … };
for _, obj := range resp.Contents { body } }`. `onErr` builds the error a failed page returns. -/
def forEachPage {σ : Type} (onErr : SdkError → Error) (body : σ → String → Go (Except Error σ)) :
    List Page → σ → Go (Except Error σ)
  | [], acc => return .ok acc
  | .error err :: _, _ => return .error (onErr err)
  | .ok keys :: pages, acc => do
    match ← forEachKey body keys acc with
    | .error err => return .error err
    | .ok acc => forEachPage onErr body pages acc

/-- The order S3 lists keys in: ascending UTF-8 bytes, which for strings is the lexicographic
order of their characters. It is spelled out on the characters so that it means the same whatever
order on strings is in scope. -/
def KeyLt (a b : String) : Prop := List.lt a.data b.data

instance : DecidableRel KeyLt := fun a b => List.hasDecidableLt a.data b.data

instance : IsIrrefl String KeyLt :=
  ⟨fun a => List.lt_irrefl (fun c => Nat.lt_irrefl c.val.toNat) a.data⟩

/-- A strict order, so a sorted listing is determined by its keys. -/
instance : IsAsymm String KeyLt where
  asymm _ _ hab hba := (@List.Lex.isAsymm Char (· < ·) _).asymm _ _
    ((List.lt_iff_lex_lt _ _).mp hab) ((List.lt_iff_lex_lt _ _).mp hba)

/-- `pages` is a complete listing of the keys of `bucket` under `pfx`, in S3's ascending order. -/
def Lists (bucket : String → Option Blob) (pfx : String) (pages : List Page) : Prop :=
  (Pages.split pages).2 = none ∧ ((Pages.split pages).1).Sorted KeyLt ∧
    ∀ k, k ∈ (Pages.split pages).1 ↔ pfx.data <+: k.data ∧ (bucket k).isSome

/-- One page holding, in ascending order, exactly the keys of `bucket`, all of them under `pfx`,
is a complete listing of `pfx`. -/
theorem lists_singleton {bucket : String → Option Blob} {pfx : String} {keys : List String}
    (hs : keys.Sorted KeyLt) (hp : ∀ k ∈ keys, pfx.data <+: k.data)
    (hk : ∀ k, (bucket k).isSome ↔ k ∈ keys) : Lists bucket pfx [.ok keys] := by
  refine ⟨rfl, by simpa using hs, fun k => ?_⟩
  simp only [Pages.split_ok, Pages.split_nil, List.append_nil, hk]
  exact ⟨fun h => ⟨hp k h, h⟩, And.right⟩

end BoringRegistry
