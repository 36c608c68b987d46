import Mathlib.Data.List.Basic
import Mathlib.Algebra.Group.Nat.Basic

/-!
# Go strings as bytes, and `url.PathEscape`

A Go string is a sequence of bytes. The storage's strings are S3 keys and its configuration, and
they hold the UTF-8 encoding of their text. `url.PathEscape` works on those bytes: it copies the
unreserved ones and writes every other byte as `%` followed by two upper-case hexadecimal digits.
S3 percent-decodes the copy source it receives and splits it at its first `/`.

Two facts about UTF-8 make that byte-level split agree with a split of the text. The byte `0x2F`
occurs in the encoding of `/` only, and the encoding is injective. Both follow from the numbers
that `String.utf8EncodeChar` computes, which `Utf8.bytes` states in `Nat` arithmetic: the lead
byte fixes the length of an encoding (`Utf8.leadLength`), and `Utf8.decode` reads the code point
back.

## Main definitions

* `utf8` — the bytes of a string
* `GoUrl.shouldEscape`, `GoUrl.pathEscape` — `url.PathEscape`, byte by byte
* `GoUrl.unhex`, `GoUrl.percentDecode` — percent-decoding
* `GoUrl.splitAtSlash` — a byte string split at its first `/`

## Main results

* `GoUrl.percentDecode_pathEscape` — decoding gives back the bytes `url.PathEscape` escaped
* `utf8_injective` — distinct strings have distinct bytes
* `GoUrl.splitAtSlash_utf8_eq_some` — the bytes of a string split at the first `/` into the bytes
  of `b` and of `k` exactly when the string is `b ++ "/" ++ k` and `b` has no `/`
-/

namespace BoringRegistry

/-! ### UTF-8 in numbers -/

namespace Utf8

theorem toNat_toUInt8 (v : UInt32) : v.toUInt8.toNat = v.toNat % 0x100 := by
  simp [UInt32.toUInt8, UInt8.toNat, UInt8.ofNat]

theorem toNat_shiftRight (v k : UInt32) : (v >>> k).toNat = v.toNat / 2 ^ (k.toNat % 32) := by
  show (v.toBitVec >>> (k % 32).toBitVec).toNat = _
  rw [BitVec.ushiftRight_eq', BitVec.toNat_ushiftRight, Nat.shiftRight_eq_div_pow]
  rfl

theorem le_iff_toNat (v w : UInt32) : v ≤ w ↔ v.toNat ≤ w.toNat := by
  simp [UInt32.le_def, BitVec.le_def, UInt32.toNat]

/-- Masking a byte to its low bits, below `n = 2 ^ k`, and setting high bits `b` above them adds
the two. -/
theorem toNat_and_or (x m t : UInt8) (n b k : Nat) (hn : n = 2 ^ k) (hm : m.toNat = n - 1)
    (ht : t.toNat = b) (hb : b % n = 0) : (x &&& m ||| t).toNat = x.toNat % n + b := by
  show ((x &&& m).toBitVec ||| t.toBitVec).toNat = _
  subst hn ht
  rw [BitVec.toNat_or, ← UInt8.toNat, ← UInt8.toNat, UInt8.and_toNat, hm,
    Nat.and_pow_two_sub_one_eq_mod, Nat.or_comm, ← Nat.div_add_mod t.toNat (2 ^ k), hb,
    Nat.add_zero, ← Nat.mul_add_lt_is_or (Nat.mod_lt _ (Nat.two_pow_pos k)), Nat.add_comm]

/-- The UTF-8 encoding of the code point `v`, as numbers: one byte below `0x80`, otherwise a lead
byte saying how many continuation bytes follow, each carrying six bits. -/
def bytes (v : Nat) : List Nat :=
  if v ≤ 0x7f then [v]
  else if v ≤ 0x7ff then [v / 0x40 % 0x20 + 0xc0, v % 0x40 + 0x80]
  else if v ≤ 0xffff then [v / 0x1000 % 0x10 + 0xe0, v / 0x40 % 0x40 + 0x80, v % 0x40 + 0x80]
  else [v / 0x40000 % 0x08 + 0xf0, v / 0x1000 % 0x40 + 0x80, v / 0x40 % 0x40 + 0x80,
    v % 0x40 + 0x80]

theorem map_toNat_utf8EncodeChar (c : Char) :
    (String.utf8EncodeChar c).map UInt8.toNat = bytes c.toNat := by
  have hv : c.val.toNat = c.toNat := rfl
  have h1 : (0x7f : UInt32).toNat = 0x7f := rfl
  have h2 : (0x7ff : UInt32).toNat = 0x7ff := rfl
  have h3 : (0xffff : UInt32).toNat = 0xffff := rfl
  have s6 : (c.val >>> 6).toNat = c.toNat / 0x40 := (toNat_shiftRight _ _).trans rfl
  have s12 : (c.val >>> 12).toNat = c.toNat / 0x1000 := (toNat_shiftRight _ _).trans rfl
  have s18 : (c.val >>> 18).toNat = c.toNat / 0x40000 := (toNat_shiftRight _ _).trans rfl
  have hmod : ∀ n k, k ∣ 0x100 → n % 0x100 % k = n % k := fun n _ hk => Nat.mod_mod_of_dvd n hk
  simp only [String.utf8EncodeChar, bytes, le_iff_toNat, hv, h1, h2, h3]
  split_ifs with hc <;>
    simp only [List.map_cons, List.map_nil, toNat_and_or _ 0x1f 0xc0 0x20 0xc0 5 rfl rfl rfl rfl,
      toNat_and_or _ 0x0f 0xe0 0x10 0xe0 4 rfl rfl rfl rfl,
      toNat_and_or _ 0x07 0xf0 0x08 0xf0 3 rfl rfl rfl rfl,
      toNat_and_or _ 0x3f 0x80 0x40 0x80 6 rfl rfl rfl rfl, toNat_toUInt8, s6, s12, s18, hv,
      hmod _ 0x20 (by decide), hmod _ 0x10 (by decide), hmod _ 0x08 (by decide),
      hmod _ 0x40 (by decide)]
  rw [Nat.mod_eq_of_lt (by omega)]

theorem toNat_lt (c : Char) : c.toNat < 0x110000 := by
  have := c.valid
  simp only [UInt32.isValidChar, Nat.isValidChar] at this
  show c.val.toNat < _
  omega

/-- The code point a numeric encoding spells: the payload bits of its lead byte, then six bits
from each continuation byte. -/
def decode : List Nat → Nat
  | [b] => b
  | [b₁, b₂] => (b₁ - 0xc0) * 0x40 + (b₂ - 0x80)
  | [b₁, b₂, b₃] => (b₁ - 0xe0) * 0x1000 + (b₂ - 0x80) * 0x40 + (b₃ - 0x80)
  | [b₁, b₂, b₃, b₄] =>
    (b₁ - 0xf0) * 0x40000 + (b₂ - 0x80) * 0x1000 + (b₃ - 0x80) * 0x40 + (b₄ - 0x80)
  | _ => 0

/-- A high digit below `m` in base `k`, then the low digit. -/
theorem div_mod_mul_add_mod (v k m : Nat) : v / k % m * k + v % k = v % (k * m) := by
  rw [Nat.mod_mul, Nat.add_comm, Nat.mul_comm]

theorem decode_bytes {v : Nat} (hv : v < 0x110000) : decode (bytes v) = v := by
  unfold bytes
  split_ifs <;> simp only [decode, Nat.add_sub_cancel, Nat.add_assoc, div_mod_mul_add_mod,
    Nat.reduceMul] <;> exact Nat.mod_eq_of_lt (by omega)

/-- The number of bytes of an encoding whose lead byte is `b`. -/
def leadLength (b : Nat) : Nat :=
  if b < 0xc0 then 1 else if b < 0xe0 then 2 else if b < 0xf0 then 3 else 4

theorem length_bytes (v : Nat) : (bytes v).length = leadLength ((bytes v).headD 0) := by
  unfold bytes
  split_ifs <;> simp (disch := omega) only [List.length_cons, List.length_nil, List.headD_cons,
    leadLength, if_pos, if_neg]

/-- Encodings are prefix-free and injective: the lead byte fixes the length, and the bytes fix
the code point. -/
theorem bytes_append_inj {v w : Nat} (hv : v < 0x110000) (hw : w < 0x110000) {l l' : List Nat}
    (h : bytes v ++ l = bytes w ++ l') : v = w ∧ l = l' := by
  have hne : ∀ u, bytes u ≠ [] := fun u => by unfold bytes; split_ifs <;> simp
  have hhead : (bytes v).headD 0 = (bytes w).headD 0 := by
    obtain ⟨x, xs, hx⟩ := List.exists_cons_of_ne_nil (hne v)
    obtain ⟨y, ys, hy⟩ := List.exists_cons_of_ne_nil (hne w)
    rw [hx, hy, List.cons_append, List.cons_append, List.cons.injEq] at h
    rw [hx, hy, List.headD_cons, List.headD_cons, h.1]
  obtain ⟨hb, hl⟩ := List.append_inj h (by rw [length_bytes, length_bytes, hhead])
  exact ⟨by rw [← decode_bytes hv, hb, decode_bytes hw], hl⟩

/-- Every byte of a multi-byte encoding is at least `0x80`, so `0x2F` encodes `/` only. -/
theorem slash_mem_bytes {v : Nat} : 0x2f ∈ bytes v ↔ v = 0x2f := by
  unfold bytes
  split_ifs <;> simp <;> omega

end Utf8

/-! ### The bytes of a string -/

/-- The bytes of a Go string holding `s`: its UTF-8 encoding. -/
def utf8 (s : String) : List UInt8 := s.toUTF8.data.toList

theorem utf8_eq_flatMap (s : String) : utf8 s = s.data.flatMap String.utf8EncodeChar := rfl

@[simp] theorem utf8_append (a b : String) : utf8 (a ++ b) = utf8 a ++ utf8 b := by
  simp [utf8_eq_flatMap]

theorem char_eq_of_toNat_eq {c d : Char} (h : c.toNat = d.toNat) : c = d :=
  Char.ext (UInt32.toNat.inj h)

theorem slash_mem_utf8EncodeChar {c : Char} : '/'.toUInt8 ∈ String.utf8EncodeChar c ↔ c = '/' := by
  constructor
  · intro h
    have h' := List.mem_map_of_mem UInt8.toNat h
    rw [Utf8.map_toNat_utf8EncodeChar] at h'
    exact char_eq_of_toNat_eq (Utf8.slash_mem_bytes.mp h')
  · rintro rfl
    decide

theorem slash_mem_utf8 {s : String} : '/'.toUInt8 ∈ utf8 s ↔ '/' ∈ s.data := by
  simp only [utf8_eq_flatMap, List.mem_flatMap, slash_mem_utf8EncodeChar, exists_eq_right]

theorem flatMap_utf8EncodeChar_inj : ∀ {l l' : List Char},
    l.flatMap String.utf8EncodeChar = l'.flatMap String.utf8EncodeChar → l = l'
  | [], [], _ => rfl
  | [], d :: _, h | d :: _, [], h => by
    have := congrArg List.length h
    simp only [List.flatMap_cons, List.flatMap_nil, List.length_append, List.length_nil,
      String.length_utf8EncodeChar] at this
    have := d.utf8Size_pos
    omega
  | c :: l, d :: l', h => by
    have h' := congrArg (List.map UInt8.toNat) h
    simp only [List.flatMap_cons, List.map_append, Utf8.map_toNat_utf8EncodeChar] at h'
    obtain rfl := char_eq_of_toNat_eq
      (Utf8.bytes_append_inj (Utf8.toNat_lt c) (Utf8.toNat_lt d) h').1
    rw [flatMap_utf8EncodeChar_inj (List.append_cancel_left h)]

theorem utf8_injective : Function.Injective utf8 :=
  fun _ _ h => String.ext (flatMap_utf8EncodeChar_inj h)

namespace GoUrl

/-! ### `url.PathEscape` -/

/-- `shouldEscape(c, encodePathSegment)` of Go's `net/url`: whether `url.PathEscape` writes the
byte `c` as `%XX`. Letters, digits and `-_.~` are kept. Of the reserved bytes, a path segment
escapes `/`, `;`, `,` and `?` and keeps the others. Every other byte is escaped. -/
def shouldEscape (c : UInt8) : Bool :=
  if 'a'.toUInt8 ≤ c ∧ c ≤ 'z'.toUInt8 ∨ 'A'.toUInt8 ≤ c ∧ c ≤ 'Z'.toUInt8 ∨
      '0'.toUInt8 ≤ c ∧ c ≤ '9'.toUInt8 then false
  else if c ∈ "-_.~".toList.map Char.toUInt8 then false
  else if c ∈ "$&+,/:;=?@".toList.map Char.toUInt8 then
    c == '/'.toUInt8 || c == ';'.toUInt8 || c == ','.toUInt8 || c == '?'.toUInt8
  else true

/-- `upperhex`: the digits `url.PathEscape` writes, in the order of their values. -/
def upperhex : List UInt8 := "0123456789ABCDEF".toList.map Char.toUInt8

/-- What `url.PathEscape` writes for one byte: `%`, `upperhex[c>>4]` and `upperhex[c&15]` when
`shouldEscape` selects it, the byte itself otherwise. -/
def escapeByte (c : UInt8) : List UInt8 :=
  if shouldEscape c then
    ['%'.toUInt8, upperhex.getD (c >>> 4).toNat 0, upperhex.getD (c &&& 15).toNat 0]
  else [c]

/-- `url.PathEscape(s)`, on the bytes of `s`. -/
def pathEscape (s : List UInt8) : List UInt8 := s.flatMap escapeByte

example : pathEscape (utf8 "registry/providers/namespace=acme/a b%") =
    utf8 "registry%2Fproviders%2Fnamespace=acme%2Fa%20b%25" := by decide

/-- The value of a hexadecimal digit of either case, if `c` is one. -/
def unhex (c : UInt8) : Option UInt8 :=
  if '0'.toUInt8 ≤ c ∧ c ≤ '9'.toUInt8 then some (c - '0'.toUInt8)
  else if 'a'.toUInt8 ≤ c ∧ c ≤ 'f'.toUInt8 then some (c - 'a'.toUInt8 + 10)
  else if 'A'.toUInt8 ≤ c ∧ c ≤ 'F'.toUInt8 then some (c - 'A'.toUInt8 + 10)
  else none

/-- Percent-decoding: `%` and two hexadecimal digits stand for the byte they spell, high half
first, and any other byte for itself. A `%` without two hexadecimal digits after it is
malformed. -/
def percentDecode : List UInt8 → Option (List UInt8)
  | [] => some []
  | c :: rest =>
    if c = '%'.toUInt8 then
      match rest with
      | hi :: lo :: rest => do
        let h ← unhex hi
        let l ← unhex lo
        let tail ← percentDecode rest
        return (h * 16 + l) :: tail
      | _ => none
    else (c :: ·) <$> percentDecode rest

/-! ### Decoding undoes the escaping -/

theorem unhex_upperhex_getD : ∀ d : Fin 16, unhex (upperhex.getD d 0) = some (UInt8.ofNat d) := by
  decide

theorem unhex_upperhex {d : UInt8} (hd : d.toNat < 16) :
    unhex (upperhex.getD d.toNat 0) = some d := by
  rw [unhex_upperhex_getD ⟨d.toNat, hd⟩]
  exact congrArg some (UInt8.toNat.inj (UInt8.toNat_ofNat_of_lt d.toNat_lt_size))

theorem toNat_shiftRight_four (c : UInt8) : (c >>> 4).toNat = c.toNat / 16 := by
  show (c.toBitVec >>> (4 % 8 : UInt8).toBitVec).toNat = _
  rw [BitVec.ushiftRight_eq', BitVec.toNat_ushiftRight, Nat.shiftRight_eq_div_pow]
  rfl

theorem toNat_and_fifteen (c : UInt8) : (c &&& 15).toNat = c.toNat % 16 := by
  rw [UInt8.and_toNat]
  exact Nat.and_pow_two_sub_one_eq_mod c.toNat 4

/-- A byte is its high half times sixteen plus its low half. -/
theorem shiftRight_four_mul_add (c : UInt8) : (c >>> 4) * 16 + (c &&& 15) = c := by
  apply UInt8.toNat.inj
  have h := c.toNat_lt_size
  show ((c >>> 4).toNat * 16 % 256 + (c &&& 15).toNat) % 256 = c.toNat
  rw [toNat_shiftRight_four, toNat_and_fifteen]
  simp only [UInt8.size] at h
  omega

theorem percentDecode_escapeByte_append (c : UInt8) (rest : List UInt8) :
    percentDecode (escapeByte c ++ rest) = (c :: ·) <$> percentDecode rest := by
  have hc := c.toNat_lt_size
  simp only [UInt8.size] at hc
  unfold escapeByte
  split
  · show percentDecode ('%'.toUInt8 :: _ :: _ :: rest) = _
    rw [percentDecode.eq_def]
    have hhi : (c >>> 4).toNat < 16 := by rw [toNat_shiftRight_four]; omega
    have hlo : (c &&& 15).toNat < 16 := by rw [toNat_and_fifteen]; omega
    simp only [if_true, unhex_upperhex hhi, unhex_upperhex hlo]
    cases percentDecode rest with
    | none => rfl
    | some tail => exact congrArg (fun x => some (x :: tail)) (shiftRight_four_mul_add c)
  · rename_i hesc
    have hpct : c ≠ '%'.toUInt8 := by rintro rfl; exact hesc rfl
    show percentDecode (c :: rest) = _
    rw [percentDecode.eq_def]
    simp only [if_neg hpct]

/-- Percent-decoding gives back the bytes `url.PathEscape` escaped. -/
theorem percentDecode_pathEscape (s : List UInt8) : percentDecode (pathEscape s) = some s := by
  induction s with
  | nil => rfl
  | cons c s ih =>
    rw [pathEscape, List.flatMap_cons, percentDecode_escapeByte_append, ← pathEscape, ih]
    rfl

/-! ### Splitting at the first `/` -/

/-- A byte string split at its first `/`: the bytes before it and the bytes after it, or nothing
when it has no `/`. -/
def splitAtSlash (bs : List UInt8) : Option (List UInt8 × List UInt8) :=
  match bs.span (· != '/'.toUInt8) with
  | (before, _ :: after) => some (before, after)
  | (_, []) => none

theorem ne_slash_of_not_mem {bs : List UInt8} (h : '/'.toUInt8 ∉ bs) :
    ∀ x ∈ bs, (x != '/'.toUInt8) = true := fun x hx => by
  simpa using fun e : x = '/'.toUInt8 => h (e ▸ hx)

theorem splitAtSlash_append {before : List UInt8} (h : '/'.toUInt8 ∉ before) (after : List UInt8) :
    splitAtSlash (before ++ '/'.toUInt8 :: after) = some (before, after) := by
  simp only [splitAtSlash, List.span_eq_take_drop,
    List.takeWhile_append_of_pos (ne_slash_of_not_mem h),
    List.dropWhile_append_of_pos (ne_slash_of_not_mem h)]
  simp

theorem splitAtSlash_of_not_mem {bs : List UInt8} (h : '/'.toUInt8 ∉ bs) :
    splitAtSlash bs = none := by
  rw [splitAtSlash, List.span_eq_take_drop, List.dropWhile_eq_nil_iff.mpr (ne_slash_of_not_mem h)]

/-- A list of characters has no `/`, or is the part before its first `/`, the `/`, and the
rest. -/
theorem slash_not_mem_or_eq_append : ∀ l : List Char,
    '/' ∉ l ∨ ∃ b k, '/' ∉ b ∧ l = b ++ '/' :: k
  | [] => .inl (List.not_mem_nil _)
  | c :: l => by
    by_cases hc : c = '/'
    · exact .inr ⟨[], l, List.not_mem_nil _, by rw [hc]; rfl⟩
    · rcases slash_not_mem_or_eq_append l with h | ⟨b, k, hb, rfl⟩
      · exact .inl (by simp [Ne.symm hc, h])
      · exact .inr ⟨c :: b, k, by simp [Ne.symm hc, hb], rfl⟩

/-- The bytes of `b ++ "/" ++ k`, with no `/` in `b`, split at the first `/` into the bytes of
`b` and of `k`. -/
theorem splitAtSlash_utf8_append {b : String} (hb : '/' ∉ b.data) (k : String) :
    splitAtSlash (utf8 (b ++ "/" ++ k)) = some (utf8 b, utf8 k) := by
  rw [utf8_append, utf8_append, List.append_assoc]
  exact splitAtSlash_append (fun h => hb (slash_mem_utf8.mp h)) _

/-- Splitting the bytes of a string at the first `/` gives the bytes of `b` and of `k` exactly
when the string is `b ++ "/" ++ k` and `b` has no `/`. -/
theorem splitAtSlash_utf8_eq_some {src b k : String} :
    splitAtSlash (utf8 src) = some (utf8 b, utf8 k) ↔ '/' ∉ b.data ∧ src = b ++ "/" ++ k := by
  refine ⟨fun h => ?_, fun ⟨hb, hsrc⟩ => hsrc ▸ splitAtSlash_utf8_append hb k⟩
  rcases slash_not_mem_or_eq_append src.data with hs | ⟨b', k', hb', hsrc⟩
  · rw [splitAtSlash_of_not_mem (fun h' => hs (slash_mem_utf8.mp h'))] at h
    cases h
  · have hsrc' : src = ⟨b'⟩ ++ "/" ++ ⟨k'⟩ := String.ext (by simp [hsrc])
    rw [hsrc', splitAtSlash_utf8_append hb' ⟨k'⟩, Option.some.injEq, Prod.mk.injEq] at h
    obtain ⟨rfl, rfl⟩ := And.imp (@utf8_injective _ _) (@utf8_injective _ _) h
    exact ⟨hb', hsrc'⟩

end GoUrl

end BoringRegistry
