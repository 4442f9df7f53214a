import FixZone.Library.UnicodeCase
import Mathlib.Data.List.DropRight

/-!
# Strings, dates and JSON values of JavaScript

The string operations of the language, on the characters of a string; the two questions
asked of a date, which is an instant in milliseconds; and the JSON values its programs
pass around, with `String(value)`, the conversion of any value to text.

A string is a list of Unicode characters; a number is kept as the text that
`String(n)` gives for it, since nothing here computes with a number taken from a
JSON value. A conversion that throws a `TypeError` is `none`.
-/

namespace FixZone.Library

/-! ### Text -/

/-- `\s` of a regular expression, and what `trim` strips: white space and line terminators. -/
def isJsSpace (c : Char) : Bool :=
  c.toNat ∈ [0x9, 0xA, 0xB, 0xC, 0xD, 0x20, 0xA0, 0x1680, 0x2028, 0x2029, 0x202F, 0x205F,
    0x3000, 0xFEFF] ||
    (0x2000 ≤ c.toNat && c.toNat ≤ 0x200A)

/-- Drop the characters of `p` from both ends. -/
def strip (p : Char → Bool) (cs : List Char) : List Char :=
  ((cs.dropWhile p).reverse.dropWhile p).reverse

/-- `value.trim()`. -/
def trim (s : String) : String := String.ofList (strip isJsSpace s.toList)

/-- `value.toLowerCase()`. -/
def toLowerCase (s : String) : String := String.ofList (lowerFrom [] s.toList)

example : toLowerCase "ΟΔΟΣ ÉVA" = "οδος éva" := by decide +kernel

theorem toList_toLowerCase (s : String) : (toLowerCase s).toList = lowerFrom [] s.toList := by
  rw [toLowerCase, String.toList_ofList]

/-- A text of characters that are their own lower case stays as it is. -/
theorem toList_toLowerCase_ofList {cs : List Char} (h : ∀ c ∈ cs, lowerChar c = [c]) :
    (toLowerCase (String.ofList cs)).toList = cs := by
  have hsigma : 'Σ' ∉ cs := fun hmem => absurd (h _ hmem) (by decide +kernel)
  rw [toList_toLowerCase, String.toList_ofList, lowerFrom_of_not_mem hsigma, List.flatMap_congr h]
  simp

/-- A text without small sigmas is told from the characters lowered by themselves. -/
theorem toList_toLowerCase_eq_iff {s : String} {t : List Char} (ht : ∀ c ∈ t, c ≠ 'σ' ∧ c ≠ 'ς') :
    (toLowerCase s).toList = t ↔ s.toList.flatMap lowerChar = t := by
  rw [toList_toLowerCase, ← map_plainSigma_eq_iff ht, map_plainSigma_lowerFrom,
    map_plainSigma_eq_iff ht]

/-- So is whether two texts are the same up to letter case. -/
theorem toLowerCase_eq_iff {s t : String}
    (ht : ∀ c ∈ t.toList.flatMap lowerChar, c ≠ 'σ' ∧ c ≠ 'ς') :
    toLowerCase s = toLowerCase t ↔ s.toList.flatMap lowerChar = t.toList.flatMap lowerChar := by
  rw [← String.toList_inj, (toList_toLowerCase_eq_iff ht).mpr rfl, toList_toLowerCase_eq_iff ht]

/-- The upper case of one character, for the characters whose upper case is made of ASCII
letters. -/
def upperChar (c : Char) : List Char :=
  if c.toNat = 0x131 then ['I']
  else if c.toNat = 0x17F then ['S']
  else if c.toNat = 0xDF then ['S', 'S']
  else if c.toNat = 0xFB00 then ['F', 'F']
  else if c.toNat = 0xFB01 then ['F', 'I']
  else if c.toNat = 0xFB02 then ['F', 'L']
  else if c.toNat = 0xFB03 then ['F', 'F', 'I']
  else if c.toNat = 0xFB04 then ['F', 'F', 'L']
  else if c.toNat = 0xFB05 ∨ c.toNat = 0xFB06 then ['S', 'T']
  else [c.toUpper]

/-- `value.toUpperCase()`, up to the letters outside ASCII. -/
def toUpperCase (s : String) : String := String.ofList (s.toList.flatMap upperChar)

/-- `value.includes(part)`. -/
def includes (s part : String) : Bool := decide (part.toList <:+: s.toList)

/-- A text occurs between two others exactly when it occurs in the middle, if no part of
it occurs at the end of the first or at the start of the last. -/
theorem infix_between_iff {t before middle after : List Char} (hbefore : ¬t <:+: before)
    (hafter : ¬t <:+: after) (hends : ∀ part ∈ t.inits, part ≠ [] → ¬part <:+ before)
    (hstarts : ∀ part ∈ t.tails, part ≠ [] → ¬part <+: after) :
    t <:+: before ++ (middle ++ after) ↔ t <:+: middle := by
  constructor
  · intro h
    rcases List.infix_append_iff_ne_nil.mp h with h | h | ⟨part, rest, hpart, -, rfl, hend, -⟩
    · exact absurd h hbefore
    · rcases List.infix_append_iff_ne_nil.mp h with h | h | ⟨rest, part, -, hpart, rfl, -, hstart⟩
      · exact h
      · exact absurd h hafter
      · exact absurd hstart
          (hstarts part (List.mem_tails _ _ |>.mpr (List.suffix_append rest part)) hpart)
    · exact absurd hend
        (hends part (List.mem_inits _ _ |>.mpr (List.prefix_append part rest)) hpart)
  · intro h
    exact h.trans (List.infix_append' before middle after)

/-- It is also found in a text by these. -/
theorem includes_toLowerCase_iff {s part : String} (hpart : ∀ c ∈ part.toList, c ≠ 'σ' ∧ c ≠ 'ς') :
    includes (toLowerCase s) part ↔ part.toList <:+: s.toList.flatMap lowerChar := by
  rw [includes, decide_eq_true_eq, toList_toLowerCase, ← infix_map_plainSigma_iff hpart,
    map_plainSigma_lowerFrom, infix_map_plainSigma_iff hpart]

/-- `value?.trim()` of a value that may be missing, with the empty text for a missing one. -/
def trimmed (s : Option String) : String := trim (s.getD "")

/-- Whether an optional text counts as true: it is there and not empty. -/
def truthy (s : Option String) : Bool := s.getD "" ≠ ""

/-- `value?.trim() || null`. -/
def trimmedOrNull (s : Option String) : Option String :=
  if trimmed s = "" then none else some (trimmed s)

/-- A text without such characters is stripped of nothing. -/
theorem strip_of_forall {p : Char → Bool} {cs : List Char} (h : ∀ c ∈ cs, p c = false) :
    strip p cs = cs := by
  have hdrop : ∀ l : List Char, (∀ c ∈ l, p c = false) → l.dropWhile p = l := by
    intro l hl
    cases l with
    | nil => rfl
    | cons c l => rw [List.dropWhile_cons_of_neg (by simp [hl c])]
  rw [strip, hdrop cs h, hdrop _ (by simpa using h), List.reverse_reverse]

/-- What is stripped is lost at the ends only. -/
theorem strip_sublist (p : Char → Bool) (cs : List Char) : (strip p cs).Sublist cs := by
  have hfront := (List.dropWhile_sublist p (l := cs)).reverse
  have hback := (List.dropWhile_sublist p (l := (cs.dropWhile p).reverse)).trans hfront
  have hboth := hback.reverse
  rwa [List.reverse_reverse] at hboth

/-- What is stripped stays so. -/
theorem strip_strip (p : Char → Bool) (cs : List Char) : strip p (strip p cs) = strip p cs := by
  have hstrip : ∀ l : List Char, strip p l = (l.dropWhile p).rdropWhile p := fun _ => rfl
  have hhead : ((cs.dropWhile p).rdropWhile p).dropWhile p = (cs.dropWhile p).rdropWhile p := by
    obtain ⟨rest, hrest⟩ := List.rdropWhile_prefix p (cs.dropWhile p)
    cases hfront : (cs.dropWhile p).rdropWhile p with
    | nil => rfl
    | cons c front =>
      rw [hfront] at hrest
      have hc : p c = false := by
        have hne : cs.dropWhile p ≠ [] := by simp [← hrest]
        have hhead := List.head_dropWhile_not p hne
        simpa [← hrest] using hhead
      rw [List.dropWhile_cons_of_neg (by simp [hc])]
  rw [hstrip, hstrip, hhead, List.rdropWhile_idempotent]

theorem trim_trim (s : String) : trim (trim s) = trim s := by
  simp [trim, strip_strip]

/-- A text that was normalized is its own normal form. -/
theorem trimmedOrNull_of_eq {s : Option String} {t : String} (h : trimmedOrNull s = some t) :
    trimmedOrNull (some t) = some t := by
  unfold trimmedOrNull at h
  split at h
  · cases h
  · next hne =>
    obtain rfl := Option.some.inj h
    have htrim : trimmed (some (trimmed s)) = trimmed s := trim_trim _
    rw [trimmedOrNull, htrim, if_neg hne]

@[simp] theorem truthy_none : truthy none = false := rfl

theorem truthy_some_iff {s : String} : truthy (some s) = true ↔ s ≠ "" := by simp [truthy]

/-- `replace(/[^…]+/g, sep)`: every run of characters outside `keep` becomes one `sep`.
The flag says whether the character before was of such a run. -/
def collapse (keep : Char → Bool) (sep : Char) : Bool → List Char → List Char
  | _, [] => []
  | inRun, c :: cs =>
    if keep c then c :: collapse keep sep false cs
    else if inRun then collapse keep sep true cs
    else sep :: collapse keep sep true cs

/-- `replace(/part/g, by)` for a fixed non-empty part; the counter skips a part just replaced. -/
def replaceAll (part by' : List Char) : ℕ → List Char → List Char
  | _, [] => []
  | n + 1, _ :: cs => replaceAll part by' n cs
  | 0, c :: cs =>
    if part.isPrefixOf (c :: cs) then by' ++ replaceAll part by' (part.length - 1) cs
    else c :: replaceAll part by' 0 cs

/-- `[a-z0-9]`. -/
def isLowerAlnum (c : Char) : Bool :=
  ('a'.toNat ≤ c.toNat && c.toNat ≤ 'z'.toNat) || ('0'.toNat ≤ c.toNat && c.toNat ≤ '9'.toNat)

section Collapsed

variable {keep : Char → Bool} {sep : Char}

/-- A text of kept characters, between which a separator stands alone. -/
def Collapsed (keep : Char → Bool) (sep : Char) : Bool → List Char → Prop
  | _, [] => True
  | inRun, c :: cs =>
    if keep c then Collapsed keep sep false cs
    else c = sep ∧ inRun = false ∧ Collapsed keep sep true cs

theorem collapse_of_collapsed {inRun : Bool} {cs : List Char} (h : Collapsed keep sep inRun cs) :
    collapse keep sep inRun cs = cs := by
  induction cs generalizing inRun with
  | nil => rfl
  | cons c cs ih =>
    unfold Collapsed at h
    unfold collapse
    split_ifs at h with hkeep
    · rw [if_pos hkeep, ih h]
    · obtain ⟨rfl, rfl, h⟩ := h
      rw [if_neg hkeep, if_neg (by simp), ih h]

theorem collapsed_collapse (hsep : keep sep = false) (inRun : Bool) (cs : List Char) :
    Collapsed keep sep inRun (collapse keep sep inRun cs) := by
  induction cs generalizing inRun with
  | nil => trivial
  | cons c cs ih =>
    unfold collapse
    split_ifs with hkeep hrun
    · rw [Collapsed, if_pos hkeep]
      exact ih false
    · rw [hrun]
      exact ih true
    · rw [Collapsed, if_neg (by simp [hsep])]
      exact ⟨rfl, by simpa using hrun, ih true⟩

theorem Collapsed.weaken {cs : List Char} (h : Collapsed keep sep true cs) :
    Collapsed keep sep false cs := by
  cases cs with
  | nil => trivial
  | cons c cs =>
    unfold Collapsed at h ⊢
    split_ifs at h ⊢ with hkeep
    · exact h
    · simp at h

theorem Collapsed.of_append {inRun : Bool} {cs ds : List Char}
    (h : Collapsed keep sep inRun (cs ++ ds)) : Collapsed keep sep inRun cs := by
  induction cs generalizing inRun with
  | nil => trivial
  | cons c cs ih =>
    rw [List.cons_append] at h
    unfold Collapsed at h ⊢
    split_ifs at h ⊢
    · exact ih h
    · exact ⟨h.1, h.2.1, ih h.2.2⟩

theorem Collapsed.dropWhile (hsep : keep sep = false) {inRun : Bool} {cs : List Char}
    (h : Collapsed keep sep inRun cs) : Collapsed keep sep false (cs.dropWhile (· = sep)) := by
  induction cs generalizing inRun with
  | nil => trivial
  | cons c cs ih =>
    by_cases hc : c = sep
    · subst hc
      rw [List.dropWhile_cons_of_pos (by simp)]
      rw [Collapsed, if_neg (by simp [hsep])] at h
      exact ih h.2.2
    · rw [List.dropWhile_cons_of_neg (by simpa using hc)]
      cases inRun with
      | false => exact h
      | true => exact h.weaken

/-- Separators stripped from the ends leave a collapsed text. -/
theorem Collapsed.strip (hsep : keep sep = false) {inRun : Bool} {cs : List Char}
    (h : Collapsed keep sep inRun cs) : Collapsed keep sep false (strip (· = sep) cs) := by
  obtain ⟨rest, hrest⟩ := List.rdropWhile_prefix (fun c => decide (c = sep))
    (cs.dropWhile (· = sep))
  have hdropped := h.dropWhile hsep
  rw [← hrest] at hdropped
  exact hdropped.of_append

/-- The characters of a collapsed text. -/
theorem Collapsed.mem {inRun : Bool} {cs : List Char} (h : Collapsed keep sep inRun cs) {c : Char}
    (hc : c ∈ cs) : keep c ∨ c = sep := by
  induction cs generalizing inRun with
  | nil => cases hc
  | cons d cs ih =>
    unfold Collapsed at h
    rcases List.mem_cons.mp hc with rfl | hc
    · split_ifs at h with hkeep
      · exact .inl hkeep
      · exact .inr h.1
    · split_ifs at h
      · exact ih h hc
      · exact ih h.2.2 hc

theorem replaceAll_of_not_mem {a : Char} {by' cs : List Char} (h : a ∉ cs) :
    replaceAll [a] by' 0 cs = cs := by
  induction cs with
  | nil => rfl
  | cons c cs ih =>
    rw [List.mem_cons, not_or] at h
    have hstart : [a].isPrefixOf (c :: cs) = false := by simp [List.isPrefixOf, h.1]
    rw [replaceAll, if_neg (by simp [hstart]), ih h.2]

/-- A lower-case letter or a digit is no white space, and its own lower case. -/
theorem lowerChar_of_isLowerAlnum {c : Char} (h : isLowerAlnum c ∨ c = '_') :
    isJsSpace c = false ∧ lowerChar c = [c] ∧ c ≠ '&' := by
  rcases h with h | rfl
  · have hrange : (97 ≤ c.toNat ∧ c.toNat ≤ 122) ∨ (48 ≤ c.toNat ∧ c.toNat ≤ 57) := by
      simpa [isLowerAlnum] using h
    rw [← Char.ofNat_toNat c]
    generalize c.toNat = n at hrange
    rcases hrange with ⟨hlow, hhigh⟩ | ⟨hlow, hhigh⟩ <;>
      interval_cases n <;> decide +kernel
  · decide +kernel

end Collapsed

/-! ### Dates -/

/-- Year, month and day of month of a day counted from 1970-01-01, in the proleptic Gregorian
calendar. -/
def civilFromDays (days : ℤ) : ℤ × ℤ × ℤ :=
  let z := days + 719468
  let era := z / 146097
  let dayOfEra := z % 146097
  let yearOfEra := (dayOfEra - dayOfEra / 1460 + dayOfEra / 36524 - dayOfEra / 146096) / 365
  let dayOfYear := dayOfEra - (365 * yearOfEra + yearOfEra / 4 - yearOfEra / 100)
  let shifted := (5 * dayOfYear + 2) / 153
  let day := dayOfYear - (153 * shifted + 2) / 5 + 1
  let month := if shifted < 10 then shifted + 3 else shifted - 9
  (yearOfEra + era * 400 + (if month ≤ 2 then 1 else 0), month, day)

/-- The first instant of the month of an instant, in UTC: `setUTCDate(1)` and `setUTCHours(0, 0,
0, 0)`. -/
def utcMonthStart (millis : ℤ) : ℤ :=
  let days := millis / 86400000
  (days - ((civilFromDays days).2.2 - 1)) * 86400000

/-- The day of a year, a month counted from 1 and a day of the month: the inverse of
`civilFromDays`. -/
def daysFromCivil (year month day : ℤ) : ℤ :=
  let shiftedYear := if month ≤ 2 then year - 1 else year
  let shifted := if month ≤ 2 then month + 9 else month - 3
  let yearOfEra := shiftedYear % 400
  let dayOfYear := (153 * shifted + 2) / 5 + day - 1
  shiftedYear / 400 * 146097 +
    (yearOfEra * 365 + yearOfEra / 4 - yearOfEra / 100 + dayOfYear) - 719468

/-- `setUTCMonth(getUTCMonth() + months)`: a day the month does not have runs over into the next
one. -/
def addUtcMonths (months millis : ℤ) : ℤ :=
  let (year, month, day) := civilFromDays (millis / 86400000)
  let target := month - 1 + months
  (daysFromCivil (year + target / 12) (target % 12 + 1) 1 + day - 1) * 86400000 + millis % 86400000

/-- A number in at least `width` decimal digits. -/
def padded (width n : ℕ) : String :=
  let digits := toString n
  String.ofList (List.replicate (width - digits.length) '0') ++ digits

/-- `date.toISOString()`. -/
def toISOString (millis : ℤ) : String :=
  let (year, month, day) := civilFromDays (millis / 86400000)
  let time := (millis % 86400000).toNat
  let yearText := if 0 ≤ year ∧ year ≤ 9999 then padded 4 year.toNat
    else (if year < 0 then "-" else "+") ++ padded 6 year.natAbs
  yearText ++ "-" ++ padded 2 month.toNat ++ "-" ++ padded 2 day.toNat ++ "T" ++
    padded 2 (time / 3600000) ++ ":" ++ padded 2 (time / 60000 % 60) ++ ":" ++
    padded 2 (time / 1000 % 60) ++ "." ++ padded 3 (time % 1000) ++ "Z"

/-! ### JSON values -/

/-- A JSON value. -/
inductive Json where
  /-- `null`. -/
  | null
  /-- `true` or `false`. -/
  | bool (b : Bool)
  /-- A number, as the text `String(n)` gives for it. -/
  | num (text : String)
  /-- A string. -/
  | str (s : String)
  /-- An array. -/
  | arr (items : List Json)
  /-- An object, its fields in order. -/
  | obj (fields : List (String × Json))

namespace Json

/-- `value[name]` for a name no prototype has: `none` is `undefined`. -/
def field? (name : String) : Json → Option Json
  | .obj fields => (fields.find? fun f => f.1 = name).map Prod.snd
  | _ => none

/-- `typeof value === 'object'` for a value that is not `null`. -/
def isObject : Json → Bool
  | .arr _ | .obj _ => true
  | _ => false

mutual

/-- `String(value)`. An object with a field `toString` of its own shadows the method
and cannot be converted. -/
def toText : Json → Option String
  | .null => some "null"
  | .bool b => some (if b then "true" else "false")
  | .num text => some text
  | .str s => some s
  | .arr items => joinText items
  | .obj fields => if fields.any fun f => f.1 = "toString" then none else some "[object Object]"

/-- `items.join(',')`. -/
def joinText : List Json → Option String
  | [] => some ""
  | [item] => elementText item
  | item :: next :: items => do
    let head ← elementText item
    let rest ← joinText (next :: items)
    return head ++ "," ++ rest

/-- One element of a joined array: `null` is the empty text. -/
def elementText : Json → Option String
  | .null => some ""
  | .bool b => some (if b then "true" else "false")
  | .num text => some text
  | .str s => some s
  | .arr items => joinText items
  | .obj fields => if fields.any fun f => f.1 = "toString" then none else some "[object Object]"

end

end Json

end FixZone.Library
