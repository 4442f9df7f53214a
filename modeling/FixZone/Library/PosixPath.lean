import FixZone.Library.Words
import Mathlib.Data.List.DropRight
import Mathlib.Data.List.Infix

/-!
# Paths

The path functions of a POSIX system, on the characters of a path, and the percent
encoding of links. A path is normalized segment by segment on a stack: empty segments and
`.` are skipped, and `..` takes back the segment before it. An absolute path in normal form
is the list of its names (`AbsolutePath`), so that `resolve` cannot return anything else.

A path that is made of names alone is left as it is by `normalize` and `join`; `resolve`
appends its names to the base, and `relative` finds it again (`relative_of_append`).
-/

namespace FixZone.Library

/-! ### Percent encoding -/

/-- The value of a hexadecimal digit. -/
def hexDigit? (c : Char) : Option ℕ :=
  if c.isDigit then some (c.toNat - 48)
  else if 'a' ≤ c ∧ c ≤ 'f' then some (c.toNat - 87)
  else if 'A' ≤ c ∧ c ≤ 'F' then some (c.toNat - 55)
  else none

/-- The bytes that a text stands for when `%` and two digits stand for one byte. -/
def percentDecode : List Char → List Char
  | '%' :: a :: b :: cs =>
    match hexDigit? a, hexDigit? b with
    | some x, some y => Char.ofNat (16 * x + y) :: percentDecode cs
    | _, _ => '%' :: percentDecode (a :: b :: cs)
  | c :: cs => c :: percentDecode cs
  | [] => []

theorem percentDecode_of_notMem {cs : List Char} (h : '%' ∉ cs) : percentDecode cs = cs := by
  induction cs with
  | nil => rfl
  | cons c cs ih =>
    rw [List.mem_cons, not_or] at h
    rw [percentDecode, ih h.2]
    rintro _ _ _ rfl
    exact absurd rfl h.1

theorem percentDecode_iterate_of_notMem {cs : List Char} (h : '%' ∉ cs) (n : ℕ) :
    percentDecode^[n] cs = cs :=
  Function.iterate_fixed (percentDecode_of_notMem h) n

namespace PosixPath

/-! ### Segments -/

/-- What stands between two slashes of a path. -/
abbrev Segment := List Char

/-- The segment `.`. -/
abbrev dot : Segment := ['.']

/-- The segment `..`. -/
abbrev dotDot : Segment := ['.', '.']

/-- Segments with slashes between them. -/
def joined (segments : List Segment) : List Char := ['/'].intercalate segments

/-- A name of a file or a directory. -/
structure IsName (segment : Segment) : Prop where
  ne_nil : segment ≠ []
  ne_dot : segment ≠ dot
  ne_dotDot : segment ≠ dotDot
  slash : '/' ∉ segment

instance (segment : Segment) : Decidable (IsName segment) :=
  decidable_of_iff (segment ≠ [] ∧ segment ≠ dot ∧ segment ≠ dotDot ∧ '/' ∉ segment)
    ⟨fun ⟨h₁, h₂, h₃, h₄⟩ => ⟨h₁, h₂, h₃, h₄⟩, fun ⟨h₁, h₂, h₃, h₄⟩ => ⟨h₁, h₂, h₃, h₄⟩⟩

theorem slash_notMem_of_mem_splitOn {path : List Char} :
    ∀ segment ∈ path.splitOn '/', '/' ∉ segment := by
  induction path with
  | nil => simp
  | cons c path ih =>
    obtain ⟨first, rest, hsplit⟩ :=
      List.exists_cons_of_ne_nil (List.splitOn_ne_nil '/' path)
    rw [List.splitOn_cons_eq_if_modifyHead]
    rw [hsplit] at ih ⊢
    split_ifs with hslash
    · simpa using ih
    · have hc : '/' ≠ c := fun h => hslash (by simp [← h])
      simpa [hc] using ih

theorem joined_splitOn (path : List Char) : joined (path.splitOn '/') = path :=
  List.intercalate_splitOn '/'

theorem splitOn_joined {names : List Segment} (hnames : ∀ name ∈ names, IsName name)
    (hne : names ≠ []) : (joined names).splitOn '/' = names :=
  List.splitOn_intercalate '/' (fun name hname => (hnames name hname).slash) hne

theorem joined_cons_cons (first second : Segment) (rest : List Segment) :
    joined (first :: second :: rest) = first ++ '/' :: joined (second :: rest) := by
  simp [joined]

theorem prefix_joined (first : Segment) (rest : List Segment) :
    first <+: joined (first :: rest) := by
  cases rest with
  | nil => simp [joined]
  | cons second rest => simp [joined_cons_cons]

theorem mem_joined {c : Char} {name : Segment} {names : List Segment} (hname : name ∈ names)
    (hc : c ∈ name) : c ∈ joined names := by
  induction names with
  | nil => simp at hname
  | cons first rest ih =>
    cases rest with
    | nil => simp_all [joined]
    | cons second rest =>
      rw [joined_cons_cons]
      rcases List.mem_cons.mp hname with rfl | hrest
      · exact List.mem_append_left _ hc
      · simp [ih hrest]

theorem joined_ne_nil {names : List Segment} (hnames : ∀ name ∈ names, IsName name)
    (hne : names ≠ []) : joined names ≠ [] := by
  obtain ⟨first, rest, rfl⟩ := List.exists_cons_of_ne_nil hne
  have hfirst := (hnames first (by simp)).ne_nil
  cases rest with
  | nil => simpa [joined]
  | cons second rest => simp [joined_cons_cons]

/-- A path of names does not start with a slash. -/
theorem head?_joined_ne {names : List Segment} (hnames : ∀ name ∈ names, IsName name) :
    (joined names).head? ≠ some '/' := by
  rcases names with _ | ⟨first, rest⟩
  · simp [joined]
  · obtain ⟨c, cs, rfl⟩ := List.exists_cons_of_ne_nil (hnames first (by simp)).ne_nil
    have hfirst := (hnames (c :: cs) (by simp)).slash
    have hc : c ≠ '/' := fun h => hfirst (by simp [h])
    cases rest with
    | nil => simpa [joined] using hc
    | cons second rest => simpa [joined_cons_cons] using hc

/-- A path of names does not end with a slash. -/
theorem getLast?_joined_ne {names : List Segment} (hnames : ∀ name ∈ names, IsName name) :
    (joined names).getLast? ≠ some '/' := by
  induction names with
  | nil => simp [joined]
  | cons first rest ih =>
    have hfirst := hnames first (by simp)
    have ih := ih fun name hname => hnames name (by simp [hname])
    cases rest with
    | nil =>
      intro hlast
      exact hfirst.slash (List.mem_of_getLast? (by simpa [joined] using hlast))
    | cons second rest =>
      have hne : joined (second :: rest) ≠ [] :=
        joined_ne_nil (fun name hname => hnames name (by simp [hname])) (by simp)
      have hlast := List.getLast?_eq_some_getLast hne
      rw [joined_cons_cons, List.getLast?_append, List.getLast?_cons, hlast]
      rw [hlast] at ih
      simpa using ih

/-- What stands before the first `x`, and what stands behind it. -/
theorem append_cons_inj {α : Type*} {x : α} {before before' after after' : List α}
    (hbefore : x ∉ before) (hbefore' : x ∉ before')
    (h : before ++ x :: after = before' ++ x :: after') : before = before' ∧ after = after' := by
  have hprefix : before ++ x :: after <+: before' ++ x :: after' := h ▸ List.prefix_rfl
  obtain ⟨rfl, -⟩ := (append_cons_prefix_iff hbefore hbefore').mp hprefix
  exact ⟨rfl, by simpa using h⟩

/-- A text without a slash occurs in a path when it occurs in a segment. -/
theorem infix_joined_iff {part : List Char} (hpart : '/' ∉ part) (hne : part ≠ [])
    {segments : List Segment} :
    part <:+: joined segments ↔ ∃ segment ∈ segments, part <:+: segment := by
  induction segments with
  | nil => simp [joined, hne]
  | cons first rest ih =>
    cases rest with
    | nil => simp [joined]
    | cons second rest =>
      rw [joined_cons_cons, infix_append_cons_iff hpart, ih]
      simp

/-- `../` occurs in a path of names exactly when a name before the last one ends with `..`. -/
theorem climb_infix_joined_iff {names : List Segment} (hnames : ∀ name ∈ names, IsName name) :
    dotDot ++ ['/'] <:+: joined names ↔ ∃ name ∈ names.dropLast, dotDot <:+ name := by
  induction names with
  | nil => simp [joined]
  | cons first rest ih =>
    have hfirst := (hnames first (by simp)).slash
    cases rest with
    | nil =>
      have hnone : ¬dotDot ++ ['/'] <:+: first := fun h => hfirst (h.subset (by simp))
      simpa [joined] using hnone
    | cons second rest =>
      have hdots : '/' ∉ dotDot := by decide
      rw [joined_cons_cons, append_cons_infix_iff hdots hfirst,
        ih fun name hname => hnames name (by simp [hname])]
      simp

/-! ### Normalizing -/

/-- What a segment does to the names before it, the last of which is on top. A `..` that finds
no name is kept when the path is relative (`climbing`). -/
def push (climbing : Bool) (stack : List Segment) (segment : Segment) : List Segment :=
  if segment = [] ∨ segment = dot then stack
  else if segment = dotDot then
    match stack with
    | [] => if climbing then [dotDot] else []
    | top :: rest => if top = dotDot then dotDot :: stack else rest
  else segment :: stack

/-- `normalizeString`, segment by segment. -/
def normalizeSegments (climbing : Bool) (segments : List Segment) : List Segment :=
  (segments.foldl (push climbing) []).reverse

/-- `posix.normalize`. -/
def normalize (path : List Char) : List Char :=
  let absolute := path.head? = some '/'
  let trailing := path.getLast? = some '/'
  let body := joined (normalizeSegments (!absolute) (path.splitOn '/'))
  if body = [] then if absolute then ['/'] else if trailing then ['.', '/'] else ['.']
  else (if absolute then ['/'] else []) ++ body ++ (if trailing then ['/'] else [])

/-- `posix.join`. -/
def join (parts : List (List Char)) : List Char :=
  let path := joined (parts.filter (· ≠ []))
  if path = [] then ['.'] else normalize path

/-- `posix.basename`. -/
def basename (path : List Char) : List Char :=
  (path.rdropWhile (· = '/')).rtakeWhile (· ≠ '/')

/-- `posix.extname` of a file name. -/
def extname (fileName : List Char) : List Char :=
  let stem := (fileName.rdropWhile (· ≠ '.')).dropLast
  if stem = [] ∨ fileName = dotDot then [] else fileName.drop stem.length

theorem push_of_isName {climbing : Bool} {segment : Segment} (h : IsName segment)
    (stack : List Segment) : push climbing stack segment = segment :: stack := by
  simp [push, h.ne_nil, h.ne_dot, h.ne_dotDot]

theorem foldl_push_of_isName {climbing : Bool} {names : List Segment}
    (hnames : ∀ name ∈ names, IsName name) (stack : List Segment) :
    names.foldl (push climbing) stack = names.reverse ++ stack := by
  induction names generalizing stack with
  | nil => rfl
  | cons name names ih =>
    rw [List.foldl_cons, push_of_isName (hnames name (by simp)),
      ih fun other hother => hnames other (by simp [hother])]
    simp

@[simp] theorem normalizeSegments_of_isName {climbing : Bool} {names : List Segment}
    (hnames : ∀ name ∈ names, IsName name) : normalizeSegments climbing names = names := by
  simp [normalizeSegments, foldl_push_of_isName hnames]

/-- Without climbing only names are on the stack. -/
theorem isName_of_mem_push {stack : List Segment} {segment : Segment}
    (hstack : ∀ name ∈ stack, IsName name) (hslash : '/' ∉ segment) :
    ∀ name ∈ push false stack segment, IsName name := by
  by_cases hskip : segment = [] ∨ segment = dot
  · simpa [push, hskip] using hstack
  by_cases hup : segment = dotDot
  · rcases stack with _ | ⟨top, rest⟩
    · simp [push, hup]
    · have htop := (hstack top (by simp)).ne_dotDot
      simpa [push, hup, htop] using fun name hname => hstack name (by simp [hname])
  · have hsegment : IsName segment :=
      ⟨fun h => hskip (.inl h), fun h => hskip (.inr h), hup, hslash⟩
    simpa [push_of_isName hsegment] using ⟨hsegment, hstack⟩

theorem isName_of_mem_normalizeSegments {segments : List Segment}
    (hslash : ∀ segment ∈ segments, '/' ∉ segment) :
    ∀ name ∈ normalizeSegments false segments, IsName name := by
  have hfold : ∀ stack : List Segment, (∀ name ∈ stack, IsName name) →
      ∀ name ∈ segments.foldl (push false) stack, IsName name := by
    induction segments with
    | nil => exact fun stack hstack => hstack
    | cons segment segments ih =>
      intro stack hstack
      exact ih (fun other hother => hslash other (by simp [hother])) _
        (isName_of_mem_push hstack (hslash segment (by simp)))
  simpa [normalizeSegments] using hfold [] (by simp)

/-- A path of names is in normal form. -/
theorem normalize_joined {names : List Segment} (hnames : ∀ name ∈ names, IsName name)
    (hne : names ≠ []) : normalize (joined names) = joined names := by
  simp [normalize, head?_joined_ne hnames, getLast?_joined_ne hnames, splitOn_joined hnames hne,
    normalizeSegments_of_isName hnames, joined_ne_nil hnames hne]

theorem join_of_isName {names : List Segment} (hnames : ∀ name ∈ names, IsName name)
    (hne : names ≠ []) : join names = joined names := by
  have hfilter : names.filter (· ≠ []) = names :=
    List.filter_eq_self.mpr fun name hname => by simpa using (hnames name hname).ne_nil
  simp only [join, hfilter, joined_ne_nil hnames hne, if_false, normalize_joined hnames hne]

theorem basename_of_isName {name : Segment} (h : IsName name) : basename name = name := by
  have hrdrop : name.rdropWhile (· = '/') = name := by
    refine List.rdropWhile_eq_self_iff.mpr fun hne => ?_
    have hlast : name.getLast hne ≠ '/' := fun hlast => h.slash (hlast ▸ List.getLast_mem hne)
    simpa using hlast
  have hall : ∀ c ∈ name, c ≠ '/' := fun c hc hslash => h.slash (hslash ▸ hc)
  rw [basename, hrdrop, List.rtakeWhile_eq_self_iff]
  simpa using hall

/-! ### Absolute paths -/

/-- An absolute path in normal form, by its names from the top. -/
structure AbsolutePath where
  names : List Segment
  isName : ∀ name ∈ names, IsName name
  deriving DecidableEq

namespace AbsolutePath

variable (base target : AbsolutePath)

/-- `posix.resolve(base, path)`. -/
def resolve (path : List Char) : AbsolutePath where
  names := normalizeSegments false
    ((if path.head? = some '/' then [] else base.names) ++ path.splitOn '/')
  isName := isName_of_mem_normalizeSegments fun segment hsegment => by
    rcases List.mem_append.mp hsegment with h | h
    · split_ifs at h
      · simp at h
      · exact (base.isName segment h).slash
    · exact slash_notMem_of_mem_splitOn segment h

/-- `posix.resolve(base, ...parts)`. -/
def resolveAll (parts : List (List Char)) : AbsolutePath := parts.foldl resolve base

/-- What two lists have after the names they start with in common. -/
def afterCommon : List Segment → List Segment → List Segment × List Segment
  | a :: as, b :: bs => if a = b then afterCommon as bs else (a :: as, b :: bs)
  | as, bs => (as, bs)

/-- `posix.relative(base, target)`. -/
def relative : List Char :=
  let (up, down) := afterCommon base.names target.names
  joined (up.map (fun _ => dotDot) ++ down)

/-- The path lies below the base. -/
def Inside : Prop := ∃ names ≠ [], target.names = base.names ++ names

variable {base target}

theorem ext_names {a b : AbsolutePath} (h : a.names = b.names) : a = b := by
  cases a
  cases b
  cases h
  rfl

theorem resolve_joined {names : List Segment} (hnames : ∀ name ∈ names, IsName name)
    (hne : names ≠ []) : (base.resolve (joined names)).names = base.names ++ names := by
  simp only [resolve, head?_joined_ne hnames, if_false, splitOn_joined hnames hne]
  refine normalizeSegments_of_isName fun name hname => ?_
  rcases List.mem_append.mp hname with h | h
  · exact base.isName name h
  · exact hnames name h

theorem resolve_of_isName {name : Segment} (hname : IsName name) :
    (base.resolve name).names = base.names ++ [name] := by
  have h : (base.resolve (joined [name])).names = base.names ++ [name] :=
    resolve_joined (by simpa using hname) (by simp)
  simpa [joined] using h

theorem resolveAll_of_isName {names : List Segment} (hnames : ∀ name ∈ names, IsName name) :
    (base.resolveAll names).names = base.names ++ names := by
  induction names generalizing base with
  | nil => simp [resolveAll]
  | cons name names ih =>
    have hname : (base.resolve name).names = base.names ++ [name] :=
      resolve_of_isName (hnames name (by simp))
    have hrest : ((base.resolve name).resolveAll names).names =
        (base.resolve name).names ++ names :=
      ih fun other hother => hnames other (by simp [hother])
    rw [resolveAll, List.foldl_cons]
    exact hrest.trans (by simp [hname])

theorem afterCommon_append (as bs : List Segment) : afterCommon as (as ++ bs) = ([], bs) := by
  induction as with
  | nil => cases bs <;> rfl
  | cons a as ih => simpa [afterCommon] using ih

theorem append_afterCommon (as bs : List Segment) :
    ∃ common, as = common ++ (afterCommon as bs).1 ∧ bs = common ++ (afterCommon as bs).2 := by
  fun_induction afterCommon as bs with
  | case1 as b bs ih =>
    obtain ⟨common, has, hbs⟩ := ih
    exact ⟨b :: common, by simpa using has, by simpa using hbs⟩
  | case2 => exact ⟨[], rfl, rfl⟩
  | case3 => exact ⟨[], rfl, rfl⟩

/-- From a base to a path below it the way is the path's own names. -/
theorem relative_of_append {names : List Segment} (h : target.names = base.names ++ names) :
    base.relative target = joined names := by
  simp [relative, h, afterCommon_append]

theorem resolve_relative (h : Inside base target) :
    base.resolve (base.relative target) = target := by
  obtain ⟨names, hne, h⟩ := h
  have hnames : ∀ name ∈ names, IsName name := fun name hname =>
    target.isName name (by simp [h, hname])
  exact ext_names (by rw [relative_of_append h, resolve_joined hnames hne, h])

/-- To every other path the way is empty or starts by going up. -/
theorem relative_of_not_inside (h : ¬Inside base target) :
    base.relative target = [] ∨ dotDot <+: base.relative target := by
  obtain ⟨common, hbase, htarget⟩ := append_afterCommon base.names target.names
  unfold relative
  rcases hcases : afterCommon base.names target.names with ⟨_ | ⟨up, ups⟩, down⟩
  · rw [hcases] at hbase htarget
    rcases down with _ | ⟨name, names⟩
    · exact .inl rfl
    · exact absurd ⟨name :: names, by simp, by rw [htarget, hbase]; simp⟩ h
  · exact .inr (prefix_joined dotDot _)

end AbsolutePath

end PosixPath

end FixZone.Library
