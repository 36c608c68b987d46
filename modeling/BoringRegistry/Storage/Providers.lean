import BoringRegistry.Core
import Mathlib.Data.List.Nodup

/-!
# Provider versions and checksum manifests

Two helpers of package `storage` that `s3.go` calls but that are not in the available source,
modelled from the specification:

* the Provider Version Collection, which turns the provider archives found by a listing into
  `ProviderVersion` records: grouped by version, platforms deduplicated by `(os, arch)`, versions
  ascending by their numeric components with malformed versions last, platforms ascending;
* `readSHASums`, which reads the digest of one file out of a `SHA256SUMS` manifest whose lines
  are `<digest>␠␠<filename>`.

## Main results

* `Collection.list_eq_nil_iff` — the collection lists nothing exactly when nothing was added
* `Collection.NoDupPlatforms` — adding keeps every version's platforms free of duplicates
-/

namespace BoringRegistry

/-! ### The version collection -/

/-- The numeric components of a version such as `1.2.0`, if every dot-separated component is a
non-empty run of decimal digits. -/
def versionComponents (v : String) : Option (List Nat) :=
  (v.data.splitOn '.').mapM fun c =>
    if c ≠ [] ∧ c.all Char.isDigit then
      some (c.foldl (fun n d => 10 * n + (d.toNat - '0'.toNat)) 0)
    else none

/-- Lexicographic `<` on lists of numbers. -/
def lexLt : List Nat → List Nat → Bool
  | [], [] => false
  | [], _ :: _ => true
  | _ :: _, [] => false
  | a :: as, b :: bs => decide (a < b) || (decide (a = b) && lexLt as bs)

/-- Go's `<` on strings, compared on their characters' code points. -/
def textLt (a b : String) : Bool := lexLt (a.data.map Char.toNat) (b.data.map Char.toNat)

/-- The specification's version order: valid versions ascending by their numeric components,
then malformed versions; ties are broken by the version text, so the order is deterministic. -/
def versionLE (a b : String) : Bool :=
  match versionComponents a, versionComponents b with
  | some x, some y => lexLt x y || (x == y && !textLt b a)
  | some _, none => true
  | none, some _ => false
  | none, none => !textLt b a

/-- Platforms in ascending `(os, arch)` order. -/
def platformLE (p q : Core.Platform) : Bool :=
  textLt p.OS q.OS || (p.OS == q.OS && !textLt q.Arch p.Arch)

/-- Modelled from the spec: the Provider Version Collection of package `storage`, whose source is
not available. It maps each version, in the order versions were first seen, to the set of its
platforms. -/
structure Collection where
  versions : List (String × List Core.Platform)

/-- Modelled from the spec: `NewCollection`, the empty collection. -/
def newCollection : Collection := ⟨[]⟩

namespace Collection

/-- Modelled from the spec: `Collection.Add`, which groups by version; adding a platform a version
already has changes nothing. -/
def add (c : Collection) (p : Core.Provider) : Collection :=
  let platform : Core.Platform := ⟨p.OS, p.Arch⟩
  if c.versions.any (·.1 == p.Version) then
    ⟨c.versions.map fun vp =>
      if vp.1 = p.Version ∧ platform ∉ vp.2 then (vp.1, vp.2 ++ [platform]) else vp⟩
  else ⟨c.versions ++ [(p.Version, [platform])]⟩

/-- Modelled from the spec: `Collection.List`, every version in `versionLE` order with its
platforms in `platformLE` order. -/
def list (c : Collection) : List Core.ProviderVersion :=
  (c.versions.map fun vp => (⟨vp.1, vp.2.mergeSort platformLE⟩ : Core.ProviderVersion)).mergeSort
    fun a b => versionLE a.Version b.Version

theorem list_eq_nil_iff (c : Collection) : c.list = [] ↔ c.versions = [] := by
  rw [← List.length_eq_zero, list, List.length_mergeSort, List.length_map, List.length_eq_zero]

theorem add_versions_ne_nil (c : Collection) (p : Core.Provider) : (c.add p).versions ≠ [] := by
  unfold add
  split
  · rename_i h
    obtain ⟨vp, hvp, -⟩ := List.any_eq_true.mp h
    simpa using List.ne_nil_of_mem hvp
  · simp

/-- Every version of the collection lists each platform once. -/
def NoDupPlatforms (c : Collection) : Prop := ∀ vp ∈ c.versions, vp.2.Nodup

theorem noDupPlatforms_newCollection : newCollection.NoDupPlatforms := by
  simp [NoDupPlatforms, newCollection]

theorem NoDupPlatforms.add {c : Collection} (h : c.NoDupPlatforms) (p : Core.Provider) :
    (c.add p).NoDupPlatforms := by
  unfold Collection.add
  split
  · intro vp hvp
    obtain ⟨vp', hvp', rfl⟩ := List.mem_map.mp hvp
    split
    · rename_i hnew
      exact (h vp' hvp').append (List.nodup_singleton _) (List.disjoint_singleton.mpr hnew.2)
    · exact h vp' hvp'
  · intro vp hvp
    rcases List.mem_append.mp hvp with hvp | hvp
    · exact h vp hvp
    · simp at hvp; simp [hvp]

/-- What `List` returns lists each platform of a version once. -/
theorem NoDupPlatforms.list {c : Collection} (h : c.NoDupPlatforms) :
    ∀ pv ∈ c.list, pv.Platforms.Nodup := by
  intro pv hpv
  obtain ⟨vp, hvp, rfl⟩ := List.mem_map.mp ((List.mergeSort_perm _ _).mem_iff.mp hpv)
  exact (List.mergeSort_perm _ _).nodup_iff.mpr (h vp hvp)

end Collection

/-! ### Checksum manifests -/

/-- The two columns of a manifest line `<digest>␠␠<filename>`: a non-empty digest without spaces,
two spaces, and a non-empty file name. -/
def shasumColumns (line : List Char) : Option (String × String) :=
  match line.span (· != ' ') with
  | (digest, ' ' :: ' ' :: name) =>
    if digest ≠ [] ∧ name ≠ [] then some (⟨digest⟩, ⟨name⟩) else none
  | _ => none

/-- Modelled from the spec: `readSHASums`, whose source is not available. Trailing blank lines are
ignored, every other line must split into digest and file name (a format error otherwise), and
the digest of the first line naming `filename` is returned; when none does, the provider's file is
not found. -/
def readSHASums (manifest filename : String) : Except Error String := do
  let lines := ((manifest.data.splitOn '\n').reverse.dropWhile (· == [])).reverse
  let entries ← lines.mapM fun line =>
    match shasumColumns line with
    | some entry => .ok entry
    | none => .error (.new ("invalid checksum line: " ++ String.mk line))
  match entries.find? (·.2 == filename) with
  | some (digest, _) => .ok digest
  | none => .error (.wrap filename (.sentinel .providerNotFound))

/-- An error of `mapM` in `Except` is the error of the function at some element. -/
theorem mapM_eq_error {α β ε : Type} {f : α → Except ε β} {e : ε} :
    ∀ {l : List α}, l.mapM f = .error e → ∃ x ∈ l, f x = .error e
  | [], h => by cases h
  | x :: l, h => by
    rw [List.mapM_cons] at h
    cases hx : f x with
    | error e' =>
      rw [hx] at h
      cases h
      exact ⟨x, List.mem_cons_self x l, hx⟩
    | ok b =>
      rw [hx] at h
      cases hl : l.mapM f <;> rw [hl] at h
      · cases h
        obtain ⟨y, hy, hfy⟩ := mapM_eq_error hl
        exact ⟨y, List.mem_cons_of_mem x hy, hfy⟩
      · cases h

/-- The one sentinel a manifest's verdict can be recognised as is `ErrProviderNotFound`: a
malformed line is reported with a fresh message. -/
theorem readSHASums_error_is {manifest filename : String} {err : Error}
    (h : readSHASums manifest filename = .error err) {t : Sentinel} (ht : err.is t) :
    t = .providerNotFound := by
  unfold readSHASums at h
  dsimp only at h
  generalize hm : @List.mapM (Except Error) _ _ _ _ _ = entries at h
  cases entries with
  | error e =>
    cases h
    obtain ⟨line, -, hline⟩ := mapM_eq_error hm
    split at hline <;> cases hline
    simp at ht
  | ok entries =>
    dsimp only [bind, Except.bind] at h
    split at h
    · cases h
    · cases h
      simp only [Error.is_wrap, Error.is_sentinel, beq_iff_eq] at ht
      exact ht.symm

end BoringRegistry
