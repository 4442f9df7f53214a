import Mathlib.Data.List.Nodup

/-!
# Text in HTML

A text that is put into a page has some of its characters written as character references, `&name;`.
A table of such names (`References`) is what writing and reading share; that the reader can tell the
names apart and knows where they end is part of the table, so that a text comes back from every
table (`read_write`). Characters that the table has names for do not stand in the page themselves
(`notMem_write`), so that an attribute ends where the page says (`attributeValue_write`).
-/

namespace FixZone.Library

/-- The characters that are written as references, and the names of these. -/
structure References where
  names : List (Char × List Char)
  /-- A name is that of one character, -/
  nodup : (names.map Prod.snd).Nodup
  /-- and ends at the semicolon after it. -/
  clean : ∀ entry ∈ names, '&' ∉ entry.2 ∧ ';' ∉ entry.2
  /-- What begins a reference is itself written as one. -/
  amp : '&' ∈ names.map Prod.fst

namespace References

variable (refs : References)

/-- The name of a character. -/
def name? (c : Char) : Option (List Char) :=
  (refs.names.find? fun entry => entry.1 = c).map Prod.snd

/-- The character with a name. -/
def char? (name : List Char) : Option Char :=
  (refs.names.find? fun entry => entry.2 = name).map Prod.fst

/-- A character of the text in the page. -/
def writeChar (c : Char) : List Char :=
  match refs.name? c with
  | some name => '&' :: name ++ [';']
  | none => [c]

/-- A text in the page. -/
def write (text : List Char) : List Char := text.flatMap refs.writeChar

/-- The text that a part of a page stands for. While a reference is read, `pending` are the
characters of its name, the last one first; a reference of no name stands for itself. -/
def read : Option (List Char) → List Char → List Char
  | none, [] => []
  | some pending, [] => '&' :: pending.reverse
  | none, c :: cs => if c = '&' then read (some []) cs else c :: read none cs
  | some pending, c :: cs =>
    if c = ';' then
      ((refs.char? pending.reverse).map (fun c => [c])).getD ('&' :: pending.reverse ++ [';']) ++
        read none cs
    else if c = '&' then '&' :: pending.reverse ++ read (some []) cs
    else read (some (c :: pending)) cs

/-- The text of an attribute whose value begins here. -/
def attributeValue (page : List Char) : List Char := refs.read none (page.takeWhile (· ≠ '"'))

variable {refs}

theorem mem_of_name? {c : Char} {name : List Char} (h : refs.name? c = some name) :
    (c, name) ∈ refs.names := by
  obtain ⟨entry, hentry, rfl⟩ := Option.map_eq_some_iff.mp h
  have hfst := List.find?_some hentry
  rw [decide_eq_true_eq] at hfst
  exact hfst ▸ List.mem_of_find?_eq_some hentry

theorem name?_eq_none_iff {c : Char} : refs.name? c = none ↔ c ∉ refs.names.map Prod.fst := by
  rw [name?, Option.map_eq_none_iff, List.find?_eq_none, List.mem_map, not_exists]
  simp only [decide_eq_true_eq, not_and]

/-- A name is read as the character it was written for. -/
theorem char?_of_mem {c : Char} {name : List Char} (h : (c, name) ∈ refs.names) :
    refs.char? name = some c := by
  have hfound : (refs.names.find? fun entry => decide (entry.2 = name)).isSome :=
    List.find?_isSome.mpr ⟨(c, name), h, decide_eq_true rfl⟩
  obtain ⟨entry, hentry⟩ := Option.isSome_iff_exists.mp hfound
  have hname := List.find?_some hentry
  rw [decide_eq_true_eq] at hname
  have heq : entry = (c, name) :=
    List.inj_on_of_nodup_map refs.nodup (List.mem_of_find?_eq_some hentry) h hname
  rw [char?, hentry, Option.map_some, heq]

/-- The reader collects the characters of a name up to the semicolon. -/
theorem read_name {name : List Char} (hclean : '&' ∉ name ∧ ';' ∉ name) (pending cs : List Char) :
    refs.read (some pending) (name ++ ';' :: cs) =
      refs.read (some (name.reverse ++ pending)) (';' :: cs) := by
  induction name generalizing pending with
  | nil => rfl
  | cons c name ih =>
    simp only [List.mem_cons, not_or] at hclean
    obtain ⟨⟨hamp, hamps⟩, hsemi, hsemis⟩ := hclean
    rw [List.cons_append, read, if_neg (Ne.symm hsemi), if_neg (Ne.symm hamp), ih ⟨hamps, hsemis⟩,
      List.reverse_cons, List.append_assoc, List.singleton_append]

theorem read_writeChar (c : Char) (cs : List Char) :
    refs.read none (refs.writeChar c ++ cs) = c :: refs.read none cs := by
  unfold writeChar
  split
  · next name hname =>
    have hmem := mem_of_name? hname
    have hread : refs.read (some []) (name ++ ';' :: cs) =
        refs.read (some name.reverse) (';' :: cs) :=
      List.append_nil name.reverse ▸ read_name (refs.clean _ hmem) [] cs
    rw [List.append_assoc, List.singleton_append, List.cons_append, read, if_pos rfl, hread, read,
      if_pos rfl, List.reverse_reverse, char?_of_mem hmem]
    rfl
  · next hnone =>
    have hne : c ≠ '&' := fun heq => name?_eq_none_iff.mp hnone (heq ▸ refs.amp)
    rw [List.singleton_append, read, if_neg hne]

/-- **Round trip.** The reader finds the text that was written. -/
theorem read_write (text : List Char) : refs.read none (refs.write text) = text := by
  induction text with
  | nil => rfl
  | cons c text ih => rw [write, List.flatMap_cons, read_writeChar, ← write, ih]

/-- A character with a name, that no name has in it, does not stand in what is written. -/
theorem notMem_write {c : Char} (hc : c ∈ refs.names.map Prod.fst) (hne : c ≠ '&' ∧ c ≠ ';')
    (hnames : ∀ entry ∈ refs.names, c ∉ entry.2) (text : List Char) : c ∉ refs.write text := by
  intro h
  obtain ⟨d, -, hmem⟩ := List.mem_flatMap.mp h
  unfold writeChar at hmem
  split at hmem
  · next name hname =>
    simp only [List.cons_append, List.mem_cons, List.mem_append, List.not_mem_nil, or_false] at hmem
    obtain hamp | hin | hsemi := hmem
    · exact hne.1 hamp
    · exact hnames _ (mem_of_name? hname) hin
    · exact hne.2 hsemi
  · next hnone =>
    rw [List.mem_singleton] at hmem
    exact name?_eq_none_iff.mp hnone (hmem ▸ hc)

/-- An attribute is read as the text that was written into it. -/
theorem attributeValue_write (hquote : '"' ∈ refs.names.map Prod.fst)
    (hnames : ∀ entry ∈ refs.names, '"' ∉ entry.2) (text rest : List Char) :
    refs.attributeValue (refs.write text ++ '"' :: rest) = text := by
  have hnone : ∀ c ∈ refs.write text, decide (c ≠ '"') = true := fun c hc =>
    decide_eq_true fun heq => notMem_write hquote (by decide) hnames text (heq ▸ hc)
  rw [attributeValue, List.takeWhile_append_of_pos hnone, List.takeWhile_cons_of_neg (by decide),
    List.append_nil, read_write]

end References

/-- What follows the first occurrence of `part`. -/
def afterFirst (part : List Char) : List Char → Option (List Char)
  | [] => if part = [] then some [] else none
  | c :: cs =>
    if part.isPrefixOf (c :: cs) then some ((c :: cs).drop part.length) else afterFirst part cs

/-- The first occurrence is found where none begins before it. -/
theorem afterFirst_append {part before : List Char} (hpart : part ≠ [])
    (h : ∀ k < before.length, ¬part <+: before.drop k ++ part) (rest : List Char) :
    afterFirst part (before ++ (part ++ rest)) = some rest := by
  induction before with
  | nil =>
    obtain ⟨c, part, rfl⟩ := List.exists_cons_of_ne_nil hpart
    have hprefix : (c :: part).isPrefixOf (c :: (part ++ rest)) = true :=
      List.isPrefixOf_iff_prefix.mpr (List.prefix_append (c :: part) rest)
    rw [List.nil_append, List.cons_append, afterFirst, if_pos hprefix, ← List.cons_append,
      List.drop_left]
  | cons c before ih =>
    have hnot : ¬part <+: c :: (before ++ (part ++ rest)) := by
      intro hprefix
      refine h 0 (Nat.succ_pos _) ?_
      have hrest : (c :: before) ++ part <+: c :: (before ++ (part ++ rest)) := ⟨rest, by simp⟩
      refine List.prefix_of_prefix_length_le hprefix hrest ?_
      rw [List.length_append]
      exact Nat.le_add_left _ _
    rw [List.cons_append, afterFirst, if_neg (mt List.isPrefixOf_iff_prefix.mp hnot)]
    exact ih fun k hk => h (k + 1) (Nat.succ_lt_succ hk)

end FixZone.Library
