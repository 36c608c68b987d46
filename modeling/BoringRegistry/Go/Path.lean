import Mathlib.Data.List.Basic

/-!
# Go's `path` package, lexically

Every object key of the registry is built with `path.Join` (once with `filepath.Join`), and
`path.Join` cleans its result with `path.Clean`. Cleaning is where keys stop being plain
concatenations: repeated slashes collapse, `.` segments vanish and `..` removes the segment before
it. Several of the storage's guarantees stand or fall with exactly these rules, so they get a model
of their own that can be evaluated and reasoned about.

## The model of `Clean`

`path.Clean` scans its argument once, with an output buffer and a mark before which `..` may not
backtrack. Read segment by segment, the same computation is a left fold over the slash-separated
segments with a stack of kept segments: empty segments and `.` are dropped, a name is pushed, and
`..` pops a name, or is kept itself when a relative path has nothing left to pop. `clean` renders
that stack, with a leading `/` for a rooted path and `.` for an empty relative one.

## Main definitions

* `GoPath.segments`, `GoPath.joinSlash` — `strings.Split(p, "/")` and `strings.Join(ss, "/")`
* `GoPath.clean`, `GoPath.join`, `GoPath.base` — `path.Clean`, `path.Join`, `path.Base`
* `Filepath.join` — `filepath.Join` on a Unix host, where the separator is `/`

## Main results

* `GoPath.clean_append_names` — appending plain names to a path appends them to its cleaning
* `GoPath.stack_clean`, `GoPath.rooted_clean` — cleaning a clean path changes nothing
* `GoPath.join_append_names` — `path.Join` of a prefix followed by plain names
-/

namespace BoringRegistry

namespace GoPath

/-! ### Segments -/

/-- `strings.Split(p, "/")`: the segments of `p` between slashes. `"a//b"` has an empty middle
segment, and a rooted path an empty first one. -/
def segments (p : String) : List String := (p.data.splitOn '/').map String.mk

/-- `strings.Join(ss, "/")`. -/
def joinSlash (ss : List String) : String := ⟨['/'].intercalate (ss.map String.data)⟩

/-- A segment that `path.Clean` keeps untouched: non-empty, neither `.` nor `..`, without `/`. -/
def IsName (s : String) : Prop := s ≠ "" ∧ s ≠ "." ∧ s ≠ ".." ∧ '/' ∉ s.data

instance : DecidablePred IsName := fun _ => inferInstanceAs (Decidable (_ ∧ _ ∧ _ ∧ _))

theorem splitOn_append_slash (a b : List Char) :
    (a ++ '/' :: b).splitOn '/' = a.splitOn '/' ++ b.splitOn '/' := by
  induction a with
  | nil => simp [List.splitOn, List.splitOnP_cons]
  | cons c a ih =>
    simp only [List.cons_append, List.splitOn, List.splitOnP_cons] at ih ⊢
    split
    · simp [ih]
    · rw [ih]
      cases h : List.splitOnP (· == '/') a with
      | nil => exact absurd h (List.splitOnP_ne_nil _ _)
      | cons x xs => simp [List.modifyHead]

theorem intercalate_append_of_ne_nil {α : Type} (sep : List α) {xs ys : List (List α)}
    (hx : xs ≠ []) (hy : ys ≠ []) :
    sep.intercalate (xs ++ ys) = sep.intercalate xs ++ sep ++ sep.intercalate ys := by
  induction xs with
  | nil => contradiction
  | cons x xs ih =>
    cases xs with
    | nil =>
      cases ys with
      | nil => contradiction
      | cons y ys => simp [List.intercalate, List.intersperse_cons_cons]
    | cons x' xs =>
      simp only [List.intercalate, List.cons_append, List.map_cons, List.intersperse_cons_cons,
        List.flatten_cons, List.append_assoc] at ih ⊢
      simp [ih]

@[simp] theorem segments_append_slash (a b : String) :
    segments (a ++ "/" ++ b) = segments a ++ segments b := by
  have : (a ++ "/" ++ b).data = a.data ++ '/' :: b.data := by simp
  simp [segments, this, splitOn_append_slash]

theorem segments_ne_nil (p : String) : segments p ≠ [] := by
  simpa [segments] using List.splitOnP_ne_nil _ _

@[simp] theorem joinSlash_segments (p : String) : joinSlash (segments p) = p := by
  simp [joinSlash, segments, Function.comp_def, List.intercalate_splitOn]

theorem segments_joinSlash {ss : List String} (h : ∀ s ∈ ss, '/' ∉ s.data) (hne : ss ≠ []) :
    segments (joinSlash ss) = ss := by
  have hx : ∀ l ∈ ss.map String.data, '/' ∉ l := by simpa using h
  simp only [segments, joinSlash]
  rw [List.splitOn_intercalate _ _ hx (by simpa using hne), List.map_map]
  simp [Function.comp_def]

theorem joinSlash_append {ss ts : List String} (hs : ss ≠ []) (ht : ts ≠ []) :
    joinSlash (ss ++ ts) = joinSlash ss ++ "/" ++ joinSlash ts := by
  rw [String.ext_iff]
  have hs' : ss.map String.data ≠ [] := by simpa using hs
  have ht' : ts.map String.data ≠ [] := by simpa using ht
  simp [joinSlash, intercalate_append_of_ne_nil _ hs' ht']

@[simp] theorem joinSlash_singleton (s : String) : joinSlash [s] = s := by
  simp [joinSlash, List.intercalate]

/-! ### `path.Clean` -/

/-- What `path.Clean` does with one segment; `stk` holds the kept segments, last one first. -/
def cleanStep (rooted : Bool) (stk : List String) (seg : String) : List String :=
  if seg = "" ∨ seg = "." then stk
  else if seg = ".." then
    match stk with
    | [] => if rooted then [] else [".."]
    | top :: rest => if top = ".." then ".." :: stk else rest
  else seg :: stk

/-- `len(p) > 0 && p[0] == '/'`. -/
def rooted (p : String) : Bool := p.data.head? == some '/'

/-- The segments `path.Clean` keeps of `p`, last one first. -/
def stack (p : String) : List String := (segments p).foldl (cleanStep (rooted p)) []

/-- How `path.Clean` prints a stack of kept segments. -/
def render (rooted : Bool) (stk : List String) : String :=
  if rooted then "/" ++ joinSlash stk.reverse
  else if stk = [] then "." else joinSlash stk.reverse

/-- `path.Clean`: the shortest path name lexically equivalent to `p`. -/
def clean (p : String) : String := render (rooted p) (stack p)

/-- `path.Join`: the non-empty elements joined with `/` and cleaned; `""` if all are empty. -/
def join (elem : List String) : String :=
  if elem.all (· == "") then "" else clean (joinSlash (elem.filter (· != "")))

/-- `path.Base`: the last segment of `p` once trailing slashes are dropped; `.` for the empty
path and `/` for a path of slashes only. -/
def base (p : String) : String :=
  if p = "" then "."
  else
    let trimmed : String := ⟨p.data.reverse.dropWhile (· == '/') |>.reverse⟩
    if trimmed = "" then "/" else ((segments trimmed).getLast (segments_ne_nil _))

theorem cleanStep_name {r : Bool} {seg : String} (h : IsName seg) (stk : List String) :
    cleanStep r stk seg = seg :: stk := by
  obtain ⟨h1, h2, h3, -⟩ := h
  simp [cleanStep, h1, h2, h3]

/-- Segments other than `..` are pushed when they are names and dropped when they are `""` or
`.`: the fold of `path.Clean` over them only filters. -/
theorem foldl_cleanStep_of_not_dotdot {r : Bool} :
    ∀ {l : List String}, (∀ s ∈ l, s ≠ "..") → ∀ stk : List String,
      l.foldl (cleanStep r) stk = (l.filter fun s => s != "" && s != ".").reverse ++ stk
  | [], _, _ => rfl
  | s :: l, h, stk => by
    have hs : s ≠ ".." := h s (List.mem_cons_self _ _)
    rw [List.foldl_cons,
      foldl_cleanStep_of_not_dotdot (fun t ht => h t (List.mem_cons_of_mem _ ht))]
    by_cases he : s = "" ∨ s = "."
    · rcases he with rfl | rfl <;> simp [cleanStep]
    · push_neg at he
      simp [cleanStep, he.1, he.2, hs]

theorem foldl_cleanStep_names {r : Bool} {l : List String} (h : ∀ s ∈ l, IsName s)
    (stk : List String) : l.foldl (cleanStep r) stk = l.reverse ++ stk := by
  rw [foldl_cleanStep_of_not_dotdot (fun s hs => (h s hs).2.2.1)]
  congr 2
  exact List.filter_eq_self.mpr fun s hs => by simp [(h s hs).1, (h s hs).2.1]

theorem rooted_append {a : String} (ha : a ≠ "") (b : String) : rooted (a ++ b) = rooted a := by
  obtain ⟨l⟩ := a
  cases l with
  | nil => exact absurd rfl ha
  | cons c l => rfl

theorem stack_append_slash {a : String} (ha : a ≠ "") (b : String) :
    stack (a ++ "/" ++ b) = (segments b).foldl (cleanStep (rooted a)) (stack a) := by
  rw [stack, segments_append_slash, List.foldl_append, String.append_assoc, rooted_append ha,
    stack]

theorem ne_empty_of_stack_ne_nil {p : String} (h : stack p ≠ []) : p ≠ "" := by
  rintro rfl
  exact h rfl

theorem segments_of_slash_not_mem {k : String} (h : '/' ∉ k.data) : segments k = [k] := by
  simpa using @segments_joinSlash [k] (by simpa using h) (by simp)

theorem segments_slash_append (x : String) : segments ("/" ++ x) = "" :: segments x := by
  simpa using segments_append_slash "" x

theorem stack_name {k : String} (hk : IsName k) : stack k = [k] := by
  simp [stack, segments_of_slash_not_mem hk.2.2.2, cleanStep_name hk]

theorem stack_append_name {p k : String} (hp : p ≠ "") (hk : IsName k) :
    stack (p ++ "/" ++ k) = k :: stack p := by
  simp [stack_append_slash hp, segments_of_slash_not_mem hk.2.2.2, cleanStep_name hk]

/-- Cleaning `p` followed by segments none of which is `..`: the kept ones are appended to the
cleaning of `p`. This is the one place where `path.Clean`'s fold is unfolded for appends. -/
theorem clean_append_of_not_dotdot {p : String} (hp : stack p ≠ []) {f : String}
    (hf : ∀ s ∈ segments f, s ≠ "..")
    (hkeep : (segments f).filter (fun s => s != "" && s != ".") ≠ []) :
    clean (p ++ "/" ++ f) =
      clean p ++ "/" ++ joinSlash ((segments f).filter fun s => s != "" && s != ".") := by
  set kept := (segments f).filter fun s => s != "" && s != "."
  have hpe : p ≠ "" := ne_empty_of_stack_ne_nil hp
  have hstk : stack (p ++ "/" ++ f) = kept.reverse ++ stack p := by
    rw [stack_append_slash hpe, foldl_cleanStep_of_not_dotdot hf]
  have hjoin : joinSlash (kept.reverse ++ stack p).reverse =
      joinSlash (stack p).reverse ++ "/" ++ joinSlash kept := by
    rw [List.reverse_append, List.reverse_reverse, joinSlash_append (by simpa using hp) hkeep]
  have hr : rooted (p ++ "/" ++ f) = rooted p := by
    rw [String.append_assoc, rooted_append hpe]
  simp only [clean, render, hstk, hr, hjoin]
  split
  · simp [String.append_assoc]
  · simp [hp, hkeep]

/-- Appending plain names to a path whose cleaning keeps a segment appends them to its cleaning. -/
theorem clean_append_names {p : String} (hp : stack p ≠ []) {l : List String}
    (hl : ∀ s ∈ l, IsName s) (hne : l ≠ []) :
    clean (p ++ "/" ++ joinSlash l) = clean p ++ "/" ++ joinSlash l := by
  have hseg : segments (joinSlash l) = l := segments_joinSlash (fun s hs => (hl s hs).2.2.2) hne
  have hkept : (l.filter fun s => s != "" && s != ".") = l :=
    List.filter_eq_self.mpr fun s hs => by simp [(hl s hs).1, (hl s hs).2.1]
  rw [clean_append_of_not_dotdot hp (by rw [hseg]; exact fun s hs => (hl s hs).2.2.1)
    (by rw [hseg, hkept]; exact hne), hseg, hkept]

/-! ### Cleaning is idempotent -/

theorem splitOnP_no_sep {α : Type} (q : α → Bool) :
    ∀ (xs : List α), ∀ seg ∈ xs.splitOnP q, ∀ x ∈ seg, q x = false
  | [], seg, hseg => by simp_all
  | x :: xs, seg, hseg => by
    rw [List.splitOnP_cons] at hseg
    split at hseg <;> rename_i hq
    · rcases List.mem_cons.mp hseg with rfl | hseg
      · simp
      · exact splitOnP_no_sep q xs seg hseg
    · cases h : xs.splitOnP q with
      | nil => exact absurd h (List.splitOnP_ne_nil _ _)
      | cons y ys =>
        rw [h, List.modifyHead] at hseg
        rcases List.mem_cons.mp hseg with rfl | hseg
        · intro z hz
          rcases List.mem_cons.mp hz with rfl | hz
          · simpa using hq
          · exact splitOnP_no_sep q xs y (by simp [h]) z hz
        · exact splitOnP_no_sep q xs seg (by simp [h, hseg])

theorem slash_not_mem_of_mem_segments {p s : String} (h : s ∈ segments p) : '/' ∉ s.data := by
  obtain ⟨seg, hseg, rfl⟩ := List.mem_map.mp h
  intro hc
  simpa using splitOnP_no_sep (· == '/') p.data seg hseg '/' hc

/-- The shape of every stack `path.Clean` builds: names on top of a run of `..`, and no `..` at
all under a rooted path. -/
def Normal (r : Bool) (stk : List String) : Prop :=
  ∃ names dots : List String, stk = names ++ dots ∧ (∀ s ∈ names, IsName s) ∧
    (∀ s ∈ dots, s = "..") ∧ (r = true → dots = [])

theorem normal_nil (r : Bool) : Normal r [] := ⟨[], [], rfl, by simp, by simp, fun _ => rfl⟩

theorem Normal.cleanStep {r : Bool} {stk : List String} (h : Normal r stk) {seg : String}
    (hseg : '/' ∉ seg.data) : Normal r (cleanStep r stk seg) := by
  obtain ⟨names, dots, rfl, hn, hd, hr⟩ := h
  unfold GoPath.cleanStep
  split
  · exact ⟨names, dots, rfl, hn, hd, hr⟩
  split
  · match names, dots, hn, hd, hr with
    | [], [], _, _, _ =>
      cases r
      · exact ⟨[], [".."], rfl, by simp, by simp, by simp⟩
      · exact normal_nil _
    | [], d :: dots, _, hd, hr =>
      have hd' : d = ".." := hd d (List.mem_cons_self _ _)
      subst hd'
      cases r
      · exact ⟨[], ".." :: ".." :: dots, by simp, by simp, by simpa using hd, by simp⟩
      · exact absurd (hr rfl) (List.cons_ne_nil _ _)
    | n :: names, dots, hn, hd, hr =>
      have hnn : n ≠ ".." := (hn n (List.mem_cons_self _ _)).2.2.1
      exact ⟨names, dots, by simp [hnn], fun s hs => hn s (List.mem_cons_of_mem _ hs), hd, hr⟩
  · rename_i h1 h2
    push_neg at h1
    exact ⟨seg :: names, dots, rfl,
      fun s hs => (List.mem_cons.mp hs).elim (fun e => e ▸ ⟨h1.1, h1.2, h2, hseg⟩) (hn s),
      hd, hr⟩

theorem normal_foldl {r : Bool} :
    ∀ {l : List String}, (∀ s ∈ l, '/' ∉ s.data) → ∀ {stk : List String}, Normal r stk →
      Normal r (l.foldl (cleanStep r) stk)
  | [], _, _, h => h
  | _ :: _, hl, _, h => normal_foldl (fun s hs => hl s (List.mem_cons_of_mem _ hs))
      (h.cleanStep (hl _ (List.mem_cons_self _ _)))

theorem normal_stack (p : String) : Normal (rooted p) (stack p) :=
  normal_foldl (fun _ hs => slash_not_mem_of_mem_segments hs) (normal_nil _)

theorem foldl_cleanStep_dots :
    ∀ {l : List String}, (∀ s ∈ l, s = "..") → ∀ {stk : List String}, (∀ s ∈ stk, s = "..") →
      l.foldl (cleanStep false) stk = l.reverse ++ stk
  | [], _, _, _ => rfl
  | d :: l, hl, stk, hs => by
    have hd : d = ".." := hl d (List.mem_cons_self _ _)
    subst hd
    have hstep : cleanStep false stk ".." = ".." :: stk := by
      cases stk with
      | nil => rfl
      | cons t rest => simp [cleanStep, hs t (List.mem_cons_self _ _)]
    rw [List.foldl_cons, hstep, foldl_cleanStep_dots (fun s h => hl s (List.mem_cons_of_mem _ h))
      (by simpa using hs)]
    simp

theorem joinSlash_cons_data (x : String) (xs : List String) :
    ∃ t, (joinSlash (x :: xs)).data = x.data ++ t := by
  cases xs with
  | nil => exact ⟨[], by simp⟩
  | cons y ys =>
    refine ⟨'/' :: (joinSlash (y :: ys)).data, ?_⟩
    rw [show x :: y :: ys = [x] ++ (y :: ys) from rfl, joinSlash_append (by simp) (by simp)]
    simp

theorem joinSlash_cons_ne_empty {x : String} (hx : x ≠ "") (xs : List String) :
    joinSlash (x :: xs) ≠ "" := by
  obtain ⟨t, ht⟩ := joinSlash_cons_data x xs
  intro he
  rw [he] at ht
  exact hx (String.ext (List.append_eq_nil.mp ht.symm).1)

theorem rooted_joinSlash_cons {x : String} (hx : x ≠ "") (hslash : '/' ∉ x.data)
    (xs : List String) : rooted (joinSlash (x :: xs)) = false := by
  obtain ⟨t, ht⟩ := joinSlash_cons_data x xs
  obtain ⟨l⟩ := x
  cases l with
  | nil => exact absurd rfl hx
  | cons c l =>
    have hc : c ≠ '/' := fun h => hslash (by simp [h])
    simp [rooted, ht, hc]

/-- Rendering a normal stack and cleaning again gives the stack back. -/
theorem stack_render {r : Bool} {stk : List String} (h : Normal r stk) :
    stack (render r stk) = stk ∧ rooted (render r stk) = r := by
  obtain ⟨names, dots, rfl, hn, hd, hr⟩ := h
  cases r with
  | true =>
    obtain rfl := hr rfl
    rw [List.append_nil]
    have hroot : rooted ("/" ++ joinSlash names.reverse) = true := rfl
    refine ⟨?_, by simpa [render] using hroot⟩
    simp only [render, if_true, stack, hroot, segments_slash_append, List.foldl_cons]
    rcases eq_or_ne names [] with rfl | hne
    · rfl
    · rw [segments_joinSlash (fun s hs => (hn s (List.mem_reverse.mp hs)).2.2.2)
        (List.reverse_ne_nil_iff.mpr hne), foldl_cleanStep_names
        (fun s hs => hn s (List.mem_reverse.mp hs))]
      simp [cleanStep]
  | false =>
    rcases eq_or_ne (names ++ dots) [] with he | hne
    · rw [he]; exact ⟨rfl, rfl⟩
    · have hall : ∀ s ∈ (names ++ dots).reverse, s ≠ "" ∧ '/' ∉ s.data := by
        intro s hs
        rcases List.mem_append.mp (List.mem_reverse.mp hs) with hs | hs
        · exact ⟨(hn s hs).1, (hn s hs).2.2.2⟩
        · rw [hd s hs]; exact ⟨by decide, by decide⟩
      have hrend : render false (names ++ dots) = joinSlash (names ++ dots).reverse := by
        simp [render, hne]
      obtain ⟨x, xs, hx⟩ := List.exists_cons_of_ne_nil (List.reverse_ne_nil_iff.mpr hne)
      have hx' := hall x (by simp [hx])
      have hroot : rooted (joinSlash (names ++ dots).reverse) = false := by
        rw [hx]; exact rooted_joinSlash_cons hx'.1 hx'.2 xs
      refine ⟨?_, by rw [hrend, hroot]⟩
      rw [hrend, stack, hroot,
        segments_joinSlash (fun s hs => (hall s hs).2) (List.reverse_ne_nil_iff.mpr hne),
        List.reverse_append, List.foldl_append,
        @foldl_cleanStep_dots dots.reverse (by simpa using hd) [] (by simp),
        foldl_cleanStep_names (fun s hs => hn s (List.mem_reverse.mp hs))]
      simp

theorem slash_not_mem_of_mem_stack {p s : String} (h : s ∈ stack p) : '/' ∉ s.data := by
  obtain ⟨names, dots, hstk, hn, hd, -⟩ := normal_stack p
  rw [hstk] at h
  rcases List.mem_append.mp h with h | h
  · exact (hn s h).2.2.2
  · rw [hd s h]; decide

/-- Whatever `p` is, cleaning `p` followed by plain names ends with those names. -/
theorem segments_clean_append_names (p : String) {l : List String} (hl : ∀ s ∈ l, IsName s)
    (hne : l ≠ []) : ∃ pre, segments (clean (p ++ "/" ++ joinSlash l)) = pre ++ l := by
  have hseg : segments (joinSlash l) = l := segments_joinSlash (fun s hs => (hl s hs).2.2.2) hne
  obtain ⟨S, hS, hstk⟩ : ∃ S : List String, (∀ s ∈ S, '/' ∉ s.data) ∧
      stack (p ++ "/" ++ joinSlash l) = l.reverse ++ S := by
    rcases eq_or_ne p "" with rfl | hp
    · refine ⟨[], by simp, ?_⟩
      have : ("" ++ "/" ++ joinSlash l) = "/" ++ joinSlash l := by simp
      rw [this, stack, segments_slash_append, hseg, List.foldl_cons]
      simp [cleanStep, foldl_cleanStep_names hl]
    · exact ⟨stack p, fun s hs => slash_not_mem_of_mem_stack hs,
        by rw [stack_append_slash hp, hseg, foldl_cleanStep_names hl]⟩
  have hall : ∀ s ∈ S.reverse ++ l, '/' ∉ s.data := by
    intro s hs
    rcases List.mem_append.mp hs with hs | hs
    · exact hS s (List.mem_reverse.mp hs)
    · exact (hl s hs).2.2.2
  have hjoin : segments (joinSlash (S.reverse ++ l)) = S.reverse ++ l :=
    segments_joinSlash hall (by simp [hne])
  simp only [clean, render, hstk, List.reverse_append, List.reverse_reverse]
  split
  · exact ⟨"" :: S.reverse, by rw [segments_slash_append, hjoin]; rfl⟩
  · rw [if_neg (by simp [hne])]
    exact ⟨S.reverse, hjoin⟩

@[simp] theorem stack_clean (p : String) : stack (clean p) = stack p :=
  (stack_render (normal_stack p)).1

@[simp] theorem rooted_clean (p : String) : rooted (clean p) = rooted p :=
  (stack_render (normal_stack p)).2

@[simp] theorem clean_clean (p : String) : clean (clean p) = clean p := by
  rw [clean, stack_clean, rooted_clean, clean]

/-! ### `path.Join` and `filepath.Join` -/

/-- A path that is its own cleaning and is neither `.` nor `/` keeps a segment. -/
theorem stack_ne_nil_of_clean_eq {p : String} (h : clean p = p) (hdot : p ≠ ".") (hroot : p ≠ "/") :
    stack p ≠ [] := by
  intro hs
  rw [← h, clean, render, hs] at hdot hroot
  split_ifs at hdot hroot with hr hnil
  · exact hroot rfl
  · exact hdot rfl
  · exact hnil rfl

theorem clean_join {elem : List String} (h : elem.all (· == "") = false) :
    clean (join elem) = join elem := by
  simp [join, h, clean_clean]

theorem join_of_ne {elem : List String} (h : elem.filter (· != "") ≠ []) :
    join elem = clean (joinSlash (elem.filter (· != ""))) := by
  rw [join, if_neg]
  intro hall
  apply h
  rw [List.filter_eq_nil_iff]
  intro s hs
  simpa using List.all_eq_true.mp hall s hs

theorem join_two {a b : String} (ha : a ≠ "") (hb : b ≠ "") :
    join [a, b] = clean (a ++ "/" ++ b) := by
  rw [join_of_ne (by simp [ha]), List.filter_eq_self.mpr (by simp [ha, hb]),
    show [a, b] = [a] ++ [b] from rfl, joinSlash_append (by simp) (by simp), joinSlash_singleton,
    joinSlash_singleton]

theorem stack_joinSlash_append_name_ne_nil {ss : List String} (hss : ∀ s ∈ ss, s ≠ "")
    {k : String} (hk : IsName k) : stack (joinSlash (ss ++ [k])) ≠ [] := by
  cases ss with
  | nil => rw [List.nil_append, joinSlash_singleton, stack_name hk]; exact List.cons_ne_nil _ _
  | cons x xs =>
    rw [joinSlash_append (List.cons_ne_nil _ _) (by simp), joinSlash_singleton,
      stack_append_name (joinSlash_cons_ne_empty (hss x (List.mem_cons_self _ _)) xs) hk]
    exact List.cons_ne_nil _ _

/-- `path.Join` of a prefix whose last element is a name, followed by names. -/
theorem join_append_names {pre l : List String} {k : String} (hk : IsName k)
    (hlast : pre.getLast? = some k) (hl : ∀ s ∈ l, IsName s) (hne : l ≠ []) :
    join (pre ++ l) = join pre ++ "/" ++ joinSlash l := by
  obtain ⟨init, rfl⟩ : ∃ init, pre = init ++ [k] :=
    ⟨pre.dropLast, (List.dropLast_append_getLast? k hlast).symm⟩
  have hkeep : ∀ s ∈ l, (s != "") = true := fun s hs => by simp [(hl s hs).1]
  have hfl : l.filter (· != "") = l := List.filter_eq_self.mpr hkeep
  have hfk : (init ++ [k]).filter (· != "") = init.filter (· != "") ++ [k] := by
    simp [List.filter_append, hk.1]
  have hstk : stack (joinSlash ((init ++ [k]).filter (· != ""))) ≠ [] := by
    rw [hfk]
    exact stack_joinSlash_append_name_ne_nil
      (fun s hs => by simpa using (List.mem_filter.mp hs).2) hk
  rw [join_of_ne (by simp [List.filter_append, hk.1]), join_of_ne (by simp [hfk]),
    List.filter_append, hfl, joinSlash_append (by simp [hfk]) hne,
    clean_append_names hstk hl hne]

/-- `path.Join` of anything and a path ending in plain names ends with those names. -/
theorem segments_join_append_names (a p : String) {l : List String} (hl : ∀ s ∈ l, IsName s)
    (hne : l ≠ []) : ∃ pre, segments (join [a, p ++ "/" ++ joinSlash l]) = pre ++ l := by
  have hk : p ++ "/" ++ joinSlash l ≠ "" := by
    intro h
    have := congrArg String.length h
    simp only [String.length_append, String.length_empty, Nat.add_eq_zero] at this
    exact absurd this.1.2 (by decide)
  rcases eq_or_ne a "" with rfl | ha
  · rw [join_of_ne (by simp [hk])]
    simpa [hk] using segments_clean_append_names p hl hne
  · rw [join_of_ne (by simp [ha])]
    have hj : joinSlash ([a, p ++ "/" ++ joinSlash l].filter (· != "")) =
        (a ++ "/" ++ p) ++ "/" ++ joinSlash l := by
      rw [List.filter_eq_self.mpr (by simp [ha, hk]),
        show [a, p ++ "/" ++ joinSlash l] = [a] ++ [p ++ "/" ++ joinSlash l] from rfl,
        joinSlash_append (by simp) (by simp)]
      simp [String.append_assoc]
    rw [hj]
    exact segments_clean_append_names _ hl hne

end GoPath

namespace Filepath

/-- `filepath.Join` on a Unix host: from the first non-empty element on, the elements joined
with `/` and cleaned; `""` if all are empty. -/
def join (elem : List String) : String :=
  match elem.dropWhile (· == "") with
  | [] => ""
  | rest => GoPath.clean (GoPath.joinSlash rest)

theorem join_pair {d : String} (hd : d ≠ "") (f : String) :
    join [d, f] = GoPath.clean (d ++ "/" ++ f) := by
  have h : [d, f].dropWhile (· == "") = [d] ++ [f] :=
    List.dropWhile_cons_of_neg (by simpa using hd)
  rw [join, h]
  simp only [List.singleton_append]
  rw [show [d, f] = [d] ++ [f] from rfl, GoPath.joinSlash_append (by simp) (by simp)]
  simp

/-- `filepath.Join(d, f)`, for a directory that is its own cleaning and keeps a segment and a
name `f` with no `..` segment that keeps one: the directory, `/`, and the segments of `f`
that cleaning keeps. -/
theorem join_of_not_dotdot {d f : String} (hd : GoPath.clean d = d) (hstk : GoPath.stack d ≠ [])
    (hf : ∀ s ∈ GoPath.segments f, s ≠ "..")
    (hkeep : (GoPath.segments f).filter (fun s => s != "" && s != ".") ≠ []) :
    join [d, f] = d ++ "/" ++ GoPath.joinSlash ((GoPath.segments f).filter fun s => s != "" && s != ".") := by
  rw [join_pair (GoPath.ne_empty_of_stack_ne_nil hstk),
    GoPath.clean_append_of_not_dotdot hstk hf hkeep, hd]

end Filepath

end BoringRegistry
