import BoringRegistry.S3.Client
import BoringRegistry.Go.Path
import BoringRegistry.Go.Url

/-!
# Copy sources on the wire

`CopyObject` names the object it copies in its `CopySource` field, which the SDK sends as the
`x-amz-copy-source` header, and the migrations set that field to
`url.PathEscape(path.Join(bucket, key))`. `Request.copyObject` records the source unescaped, and
`Sdk.copyObject` reads the source key out of it with `copySourceKey`. This module checks that
abstraction against the bytes S3 receives: S3 percent-decodes the header and splits it at its first
`/`, and that split names a bucket and a key exactly when `copySourceKey` does.

It then asks which keys survive `path.Join`. Joining cleans the path, so `path.Join(bucket, k)`
names `k` only when cleaning leaves `k` as it is, that is when every segment of `k` is a plain
name. A key with an empty segment (a trailing or doubled `/`), a `.` or a `..` names another
object.

## Main definitions

* `readCopySource` — S3's reading of a copy-source header, as bytes

## Main results

* `readCopySource_pathEscape` — S3 reads bucket `b` and key `k` from an escaped source exactly
  when `copySourceKey b` reads `k` from it
* `GoPath.copySourceKey_join` — `path.Join(bucket, k)` names key `k` of the bucket exactly when
  every segment of `k` is a plain name
* `readCopySource_join` — so the header `url.PathEscape(path.Join(bucket, k))` reads back as the
  bytes of `bucket` and `k` exactly for those keys
-/

namespace BoringRegistry

open GoPath GoUrl

/-- How S3 reads the `x-amz-copy-source` header of a `CopyObject`: percent-decoded, then split at
its first `/` into the bytes of the source bucket and of the source key. -/
def readCopySource (header : List UInt8) : Option (List UInt8 × List UInt8) :=
  (percentDecode header).bind splitAtSlash

/-- S3 reads bucket `bucket` and key `key` from the escaped copy source exactly when
`copySourceKey bucket` reads `key` from the source itself. Recording a copy by its unescaped
source, as `Request.copyObject` does, loses nothing. -/
theorem readCopySource_pathEscape {bucket source key : String} :
    readCopySource (pathEscape (utf8 source)) = some (utf8 bucket, utf8 key) ↔
      copySourceKey bucket source = some key := by
  rw [readCopySource, percentDecode_pathEscape, Option.some_bind, splitAtSlash_utf8_eq_some,
    copySourceKey_eq_some]

/-! ### Which keys survive `path.Join` -/

namespace GoPath

theorem rooted_of_isName {b : String} (hb : IsName b) : rooted b = false := by
  simpa using rooted_joinSlash_cons hb.1 hb.2.2.2 []

theorem clean_of_isName {b : String} (hb : IsName b) : clean b = b := by
  simp [clean, stack_name hb, rooted_of_isName hb, render]

/-- Joining a plain name and a path of plain names only puts a `/` between them. -/
theorem join_of_names {b k : String} (hb : IsName b) (hk : ∀ s ∈ segments k, IsName s) :
    join [b, k] = b ++ "/" ++ k := by
  have hk0 : k ≠ "" := by
    rintro rfl
    exact (hk "" (by decide)).1 rfl
  have hstk : stack b ≠ [] := by rw [stack_name hb]; exact List.cons_ne_nil _ _
  rw [join_two hb.1 hk0, ← joinSlash_segments k, clean_append_names hstk hk (segments_ne_nil k),
    clean_of_isName hb]

/-- `path.Join(bucket, k)`, for a bucket named by a plain name, names key `k` of the bucket
exactly when every segment of `k` is a plain name. Otherwise cleaning changes the key. -/
theorem copySourceKey_join {b : String} (hb : IsName b) (k : String) :
    copySourceKey b (join [b, k]) = some k ↔ ∀ s ∈ segments k, IsName s := by
  refine ⟨fun h => ?_, fun hk => copySourceKey_eq_some.mpr ⟨hb.2.2.2, join_of_names hb hk⟩⟩
  -- The path `b/k` is its own cleaning, and it is relative.
  have hclean : clean (b ++ "/" ++ k) = b ++ "/" ++ k := by
    rw [← (copySourceKey_eq_some.mp h).2]
    exact clean_join (by simp [hb.1])
  have hrooted : rooted (b ++ "/" ++ k) = false := by
    rw [String.append_assoc, rooted_append hb.1, rooted_of_isName hb]
  have hstk : stack (b ++ "/" ++ k) ≠ [] := by
    refine stack_ne_nil_of_clean_eq hclean (fun hdot => ?_) (fun hroot => ?_)
    · have hslash : '/' ∈ (b ++ "/" ++ k).data := by simp
      rw [hdot] at hslash
      exact absurd hslash (by decide)
    · rw [hroot] at hrooted
      cases hrooted
  -- So its segments are its stack: `b`, then the segments of `k`, are the `..`s then the names.
  obtain ⟨names, dots, hnd, hn, hd, -⟩ := normal_stack (b ++ "/" ++ k)
  have hseg : b :: segments k = dots.reverse ++ names.reverse := by
    have h1 : segments (clean (b ++ "/" ++ k)) = (stack (b ++ "/" ++ k)).reverse := by
      simp only [clean, hrooted, render, if_neg hstk, Bool.false_eq_true, if_false]
      exact segments_joinSlash (fun s hs => slash_not_mem_of_mem_stack (List.mem_reverse.mp hs))
        (List.reverse_ne_nil_iff.mpr hstk)
    rwa [hclean, hnd, List.reverse_append, segments_append_slash,
      segments_of_slash_not_mem hb.2.2.2] at h1
  intro s hs
  rcases List.mem_append.mp (hseg ▸ List.mem_cons_of_mem b hs) with hsd | hsn
  · -- A `..` would come first, where `b` is.
    obtain ⟨d, ds, hds⟩ := List.exists_cons_of_ne_nil (List.ne_nil_of_mem hsd)
    have hdd : d = ".." := hd d (List.mem_reverse.mp (by rw [hds]; exact List.mem_cons_self d ds))
    rw [hds, List.cons_append, List.cons.injEq] at hseg
    exact absurd (hseg.1.trans hdd) hb.2.2.1
  · exact hn s (List.mem_reverse.mp hsn)

end GoPath

/-- For a bucket named by a plain name, the copy source `url.PathEscape(path.Join(bucket, k))`
reads back, once percent-decoded and split at its first `/`, as the bytes of `bucket` and of `k`
exactly when every segment of `k` is a plain name. -/
theorem readCopySource_join {bucket : String} (hb : IsName bucket) (k : String) :
    readCopySource (pathEscape (utf8 (GoPath.join [bucket, k]))) =
        some (utf8 bucket, utf8 k) ↔ ∀ s ∈ segments k, IsName s := by
  rw [readCopySource_pathEscape]
  exact GoPath.copySourceKey_join hb k

/-- The bucket `registry` and a provider folder marker, whose last segment is empty. -/
theorem readCopySource_join_registry : IsName "registry" ∧
    (readCopySource (pathEscape (utf8 (GoPath.join ["registry",
        "providers/namespace=acme/name=tls/"]))) =
        some (utf8 "registry", utf8 "providers/namespace=acme/name=tls/") ↔
      ∀ s ∈ segments "providers/namespace=acme/name=tls/", IsName s) :=
  ⟨by decide, readCopySource_join (by decide) _⟩

end BoringRegistry
