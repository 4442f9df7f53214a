import Mathlib.Data.List.TakeWhile

/-!
# First answers

A search that asks the members of a list one after the other and stops at the first that
answers. Asking a member gives an answer (`some (some b)`), no answer (`some none`) or
fails (`none`), which stops the search as well. So one member decides what comes of a
search (`FirstStop`), and those after it are never asked.

A record keeps its entries in an order of its own: an entry that is replaced stays where it
was, and a new one comes where the order puts its key. Setting a key therefore changes a
search only where no entry ahead of the key stops it (`firstAnswer_setEntry_of_not_silent`)
and the entry of the key does (`firstAnswer_setEntry_of_passed`).
-/

namespace FixZone.Library

universe u v

section Search

variable {α : Type u} {β : Type v} {ask : α → Option (Option β)}

/-- The first answer of the members of a list. -/
def firstAnswer (ask : α → Option (Option β)) : List α → Option (Option β)
  | [] => some none
  | a :: as =>
    match ask a with
    | none => none
    | some (some b) => some (some b)
    | some none => firstAnswer ask as

/-- No member of the list stops the search. -/
def Silent (ask : α → Option (Option β)) (l : List α) : Prop := ∀ a ∈ l, ask a = some none

/-- The first member that stops the search gives `out`, where `none` is a failure. -/
def FirstStop (ask : α → Option (Option β)) (l : List α) (out : Option β) : Prop :=
  ∃ before a after, l = before ++ a :: after ∧ Silent ask before ∧ ask a = out.map some

theorem Silent.cons_iff {a : α} {l : List α} :
    Silent ask (a :: l) ↔ ask a = some none ∧ Silent ask l := List.forall_mem_cons

theorem firstAnswer_append_of_silent {l m : List α} (h : Silent ask l) :
    firstAnswer ask (l ++ m) = firstAnswer ask m := by
  induction l with
  | nil => rfl
  | cons a l ih =>
    obtain ⟨ha, hl⟩ := Silent.cons_iff.mp h
    simp only [List.cons_append, firstAnswer, ha, ih hl]

/-- A search goes through a list exactly when it is silent. -/
theorem firstAnswer_eq_some_none_iff {l : List α} :
    firstAnswer ask l = some none ↔ Silent ask l := by
  induction l with
  | nil => simp [firstAnswer, Silent]
  | cons a l ih =>
    rw [Silent.cons_iff, ← ih, firstAnswer]
    split <;> simp_all

theorem firstAnswer_append_of_not_silent {l m : List α} (h : ¬Silent ask l) :
    firstAnswer ask (l ++ m) = firstAnswer ask l := by
  induction l with
  | nil => exact absurd (fun _ hmem => nomatch hmem) h
  | cons a l ih =>
    rw [Silent.cons_iff, not_and] at h
    rw [List.cons_append, firstAnswer, firstAnswer]
    split
    · rfl
    · rfl
    · next ha => exact ih (h ha)

theorem map_some_ne_some_none (out : Option β) : out.map some ≠ some none := by
  cases out <;> simp

/-- The answer of a search is that of the first member that stops it. -/
theorem firstAnswer_eq_map_iff {l : List α} {out : Option β} :
    firstAnswer ask l = out.map some ↔ FirstStop ask l out := by
  constructor
  · intro h
    induction l with
    | nil => exact absurd h.symm (map_some_ne_some_none out)
    | cons a l ih =>
      by_cases ha : ask a = some none
      · obtain ⟨before, b, after, rfl, hbefore, hb⟩ := ih (by simpa only [firstAnswer, ha] using h)
        exact ⟨a :: before, b, after, rfl, Silent.cons_iff.mpr ⟨ha, hbefore⟩, hb⟩
      · refine ⟨[], a, l, rfl, fun _ hmem => (List.not_mem_nil hmem).elim, ?_⟩
        rw [← h, firstAnswer]
        split <;> simp_all
  · rintro ⟨before, a, after, rfl, hbefore, ha⟩
    rw [firstAnswer_append_of_silent hbefore, firstAnswer, ha]
    cases out <;> rfl

/-- A search that is not silent has one answer or fails. -/
theorem exists_firstAnswer_eq {l : List α} (h : ¬Silent ask l) :
    ∃ out : Option β, firstAnswer ask l = out.map some := by
  rw [← firstAnswer_eq_some_none_iff] at h
  match hanswer : firstAnswer ask l with
  | none => exact ⟨none, rfl⟩
  | some (some b) => exact ⟨some b, rfl⟩
  | some none => exact absurd hanswer h

end Search

section Record

variable {κ : Type u} {ν : Type v} [DecidableEq κ] (place : κ → List (κ × ν) → ℕ)

/-- The entries ahead of a key: of its entry, where the record has one, else of the place
where the order puts it. -/
def aheadOf (key : κ) (entries : List (κ × ν)) : List (κ × ν) :=
  if entries.any fun entry => entry.1 = key then entries.takeWhile fun entry => entry.1 ≠ key
  else entries.take (place key entries)

/-- The entries from the place of a key on. -/
def fromPlaceOf (key : κ) (entries : List (κ × ν)) : List (κ × ν) :=
  entries.drop (aheadOf place key entries).length

/-- `record[key] = value`, in a record whose entries are kept in an order. -/
def setEntry (key : κ) (value : ν) (entries : List (κ × ν)) : List (κ × ν) :=
  aheadOf place key entries ++ (key, value) ::
    if entries.any fun entry => entry.1 = key then (fromPlaceOf place key entries).tail
    else fromPlaceOf place key entries

theorem aheadOf_append_fromPlaceOf (key : κ) (entries : List (κ × ν)) :
    aheadOf place key entries ++ fromPlaceOf place key entries = entries := by
  have hstart : aheadOf place key entries <+: entries := by
    unfold aheadOf
    split
    · exact List.takeWhile_prefix _
    · exact List.take_prefix _ _
  exact List.prefix_iff_eq_append.mp hstart

theorem mem_of_mem_aheadOf {key : κ} {entries : List (κ × ν)} {entry : κ × ν}
    (h : entry ∈ aheadOf place key entries) : entry ∈ entries := by
  rw [← aheadOf_append_fromPlaceOf place key entries]
  exact List.mem_append_left _ h

/-- The entries from the place of a key on start with its entry, where the record has one. -/
theorem exists_fromPlaceOf_eq {key : κ} {entries : List (κ × ν)}
    (hkey : entries.any fun entry => entry.1 = key) :
    ∃ old rest, fromPlaceOf place key entries = (key, old) :: rest := by
  have hahead : aheadOf place key entries = entries.takeWhile fun entry => entry.1 ≠ key :=
    if_pos hkey
  have hfrom : fromPlaceOf place key entries = entries.dropWhile fun entry => entry.1 ≠ key := by
    have hsplit : aheadOf place key entries ++ fromPlaceOf place key entries =
        aheadOf place key entries ++ entries.dropWhile fun entry => entry.1 ≠ key := by
      rw [aheadOf_append_fromPlaceOf, hahead, List.takeWhile_append_dropWhile]
    exact List.append_cancel_left hsplit
  rw [hfrom]
  cases hdrop : entries.dropWhile fun entry => entry.1 ≠ key with
  | nil =>
    obtain ⟨entry, hmem, hentry⟩ := List.any_eq_true.mp hkey
    have hne := List.dropWhile_eq_nil_iff.mp hdrop entry hmem
    simp_all
  | cons first rest =>
    have hhead := List.head?_dropWhile_not (fun entry : κ × ν => decide (entry.1 ≠ key)) entries
    simp only [hdrop, List.head?_cons, decide_eq_false_iff_not, not_not] at hhead
    exact ⟨first.2, rest, by rw [← hhead]⟩

/-- What setting a key leaves after its place. -/
theorem exists_setEntry_eq (key : κ) (value : ν) (entries : List (κ × ν)) :
    ∃ rest, setEntry place key value entries = aheadOf place key entries ++ (key, value) :: rest ∧
      (fromPlaceOf place key entries = rest ∨
        ∃ old, fromPlaceOf place key entries = (key, old) :: rest) := by
  by_cases hkey : entries.any fun entry => entry.1 = key
  · obtain ⟨old, rest, hfrom⟩ := exists_fromPlaceOf_eq place hkey
    exact ⟨rest, by rw [setEntry, if_pos hkey, hfrom, List.tail_cons], .inr ⟨old, hfrom⟩⟩
  · exact ⟨fromPlaceOf place key entries, by rw [setEntry, if_neg hkey], .inl rfl⟩

variable {β : Type v} {ask : κ × ν → Option (Option β)} {key : κ} {value : ν}
  {entries : List (κ × ν)}

/-- An entry ahead of a key that stops a search decides it. -/
theorem firstAnswer_eq_aheadOf (h : ¬Silent ask (aheadOf place key entries)) :
    firstAnswer ask entries = firstAnswer ask (aheadOf place key entries) := by
  have hentries := congrArg (firstAnswer ask) (aheadOf_append_fromPlaceOf place key entries)
  rw [← hentries, firstAnswer_append_of_not_silent h]

/-- A search that the entries ahead of a key do not stop starts at its place. -/
theorem firstAnswer_eq_fromPlaceOf (h : Silent ask (aheadOf place key entries)) :
    firstAnswer ask entries = firstAnswer ask (fromPlaceOf place key entries) := by
  have hentries := congrArg (firstAnswer ask) (aheadOf_append_fromPlaceOf place key entries)
  rw [← hentries, firstAnswer_append_of_silent h]

/-- Setting a key changes nothing for a search that is stopped ahead of it. -/
theorem firstAnswer_setEntry_of_not_silent (value : ν)
    (h : ¬Silent ask (aheadOf place key entries)) :
    firstAnswer ask (setEntry place key value entries) =
      firstAnswer ask (aheadOf place key entries) := by
  obtain ⟨rest, hset, -⟩ := exists_setEntry_eq place key value entries
  rw [hset, firstAnswer_append_of_not_silent h]

/-- A search that comes as far as the key that was set, and is stopped there. -/
theorem firstAnswer_setEntry_of_stop {out : Option β}
    (h : Silent ask (aheadOf place key entries)) (hask : ask (key, value) = out.map some) :
    firstAnswer ask (setEntry place key value entries) = out.map some := by
  obtain ⟨rest, hset, -⟩ := exists_setEntry_eq place key value entries
  rw [firstAnswer_eq_map_iff]
  exact ⟨_, _, rest, hset, h, hask⟩

/-- Setting a key changes nothing for a search that passes its entry by. -/
theorem firstAnswer_setEntry_of_passed (value : ν) (hask : ∀ v, ask (key, v) = some none) :
    firstAnswer ask (setEntry place key value entries) = firstAnswer ask entries := by
  by_cases h : Silent ask (aheadOf place key entries)
  · obtain ⟨rest, hset, hfrom⟩ := exists_setEntry_eq place key value entries
    have hpass (v : ν) : firstAnswer ask ((key, v) :: rest) = firstAnswer ask rest := by
      rw [firstAnswer, hask]
    rw [hset, firstAnswer_append_of_silent h, hpass, firstAnswer_eq_fromPlaceOf place h]
    rcases hfrom with hfrom | ⟨old, hfrom⟩
    · rw [hfrom]
    · rw [hfrom, hpass]
  · rw [firstAnswer_setEntry_of_not_silent place value h, firstAnswer_eq_aheadOf place h]

end Record

end FixZone.Library
