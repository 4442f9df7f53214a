import FixZone.Library.Replacing
import FixZone.Organization.PlaceMatching

/-!
# Spellings of a place

`normalizeLocationText` replaces the phrase `federal capital territory` before it turns runs of
punctuation and white space into one blank, so the phrase is only recognised with single blanks in
it. A text is loose when it has the phrase with any other runs between the words. The phrase is in
the normal form exactly of the loose texts (`alias_infix_normalizeLocationText_iff`), and
normalizing again would replace it; the normal form of any other text depends on its runs of
letters, digits and ampersands alone (`words_spelled_of_not_loose`), so that the spacing of these
is immaterial (`respacing_iff`).
-/

namespace FixZone.Organization

open Library

/-- The text in which the phrase is looked for. -/
def loweredText (values : List (Option String)) : List Char :=
  (toLowerCase (String.intercalate " " (values.filterMap clean))).toList

/-- The characters that punctuation and white space separate. -/
def isSignificant (c : Char) : Bool := isLowerAlnum c || c = '&'

/-- What stands between two words: at least one character, none of them significant. -/
def Gap (gap : List Char) : Prop := gap ≠ [] ∧ ∀ c ∈ gap, isSignificant c = false

/-- The words of the phrase. -/
def federal : List Char := ['f', 'e', 'd', 'e', 'r', 'a', 'l']
def capital : List Char := ['c', 'a', 'p', 'i', 't', 'a', 'l']
def territory : List Char := ['t', 'e', 'r', 'r', 'i', 't', 'o', 'r', 'y']

/-- The words of the phrase with two runs between them. -/
def spread (gap gap' : List Char) : List Char :=
  federal ++ (gap ++ (capital ++ (gap' ++ territory)))

/-- The phrase occurs with runs between its words other than two single blanks. -/
def LooseAlias (text : List Char) : Prop :=
  ∃ gap gap', Gap gap ∧ Gap gap' ∧ (gap ≠ [' '] ∨ gap' ≠ [' ']) ∧ spread gap gap' <:+: text

/-- The spelling of an ampersand. -/
def spell (c : Char) : List Char := if c = '&' then " and ".toList else [c]

/-- The phrase replaced. -/
def replaceAlias (text : List Char) : List Char :=
  replaceAll (spread [' '] [' ']) ['f', 'c', 't'] 0 text

theorem spelled_eq (values : List (Option String)) :
    spelled values = (replaceAlias (loweredText values)).flatMap spell :=
  replaceAll_singleton '&' " and ".toList _

theorem Gap.not_mem {gap : List Char} (h : Gap gap) {c : Char} (hc : isSignificant c = true) :
    c ∉ gap := fun hmem => by simp [h.2 c hmem] at hc

/-! ### The phrase in a collapsed text -/

/-- A text collapsed once its ampersands are spelled out. -/
def collapsed (inRun : Bool) (text : List Char) : List Char :=
  collapse isLowerAlnum ' ' inRun (text.flatMap spell)

theorem collapsed_cons_of_alnum {c : Char} (hc : isLowerAlnum c) (inRun : Bool)
    (text : List Char) : collapsed inRun (c :: text) = c :: collapsed false text := by
  have hne : c ≠ '&' := (lowerChar_of_isLowerAlnum (.inl hc)).2.2
  simp [collapsed, spell, hne, collapse, hc]

theorem collapsed_cons_of_gap {c : Char} (hc : isSignificant c = false) (inRun : Bool)
    (text : List Char) :
    collapsed inRun (c :: text) = (if inRun then [] else [' ']) ++ collapsed true text := by
  rw [isSignificant, Bool.or_eq_false_iff, decide_eq_false_iff_not] at hc
  cases inRun <;> simp [collapsed, spell, hc.2, collapse, hc.1]

theorem collapsed_cons_ampersand (inRun : Bool) (text : List Char) :
    collapsed inRun ('&' :: text) =
      (if inRun then [] else [' ']) ++ "and ".toList ++ collapsed true text := by
  cases inRun <;> rfl

/-- A significant character is a letter, a digit or the ampersand. -/
theorem significant_cases (c : Char) :
    isLowerAlnum c ∨ c = '&' ∨ isSignificant c = false := by
  by_cases hc : isLowerAlnum c
  · exact .inl hc
  · by_cases hamp : c = '&'
    · exact .inr (.inl hamp)
    · exact .inr (.inr (by simp [isSignificant, hc, hamp]))

theorem blank_cons_collapsed {c : Char} (hc : isLowerAlnum c = false) (text : List Char) :
    ∃ rest, collapsed false (c :: text) = ' ' :: rest := by
  rcases significant_cases c with halnum | rfl | hgap
  · simp [hc] at halnum
  · exact ⟨_, collapsed_cons_ampersand false text⟩
  · exact ⟨_, collapsed_cons_of_gap hgap false text⟩

theorem isLowerAlnum_of_gap {c : Char} (hc : isSignificant c = false) : isLowerAlnum c = false := by
  rw [isSignificant, Bool.or_eq_false_iff] at hc
  exact hc.1

section Prefix

variable {x : Char} {w t : List Char}

theorem not_cons_prefix_collapsed (hx : isLowerAlnum x) {c : Char} (hc : isLowerAlnum c = false)
    (text : List Char) : ¬x :: t <+: collapsed false (c :: text) := by
  obtain ⟨rest, hrest⟩ := blank_cons_collapsed hc text
  rw [hrest, List.cons_prefix_cons]
  rintro ⟨rfl, -⟩
  cases hx

/-- Letters and digits come through as they are. -/
theorem append_prefix_collapsed_iff (hw : ∀ c ∈ w, isLowerAlnum c) (text : List Char) :
    w ++ t <+: collapsed false text ↔ ∃ rest, text = w ++ rest ∧ t <+: collapsed false rest := by
  induction w generalizing text with
  | nil => simp
  | cons d w ih =>
    obtain ⟨hd, hrest⟩ := List.forall_mem_cons.mp hw
    cases text with
    | nil => simp [collapsed, collapse]
    | cons c text =>
      cases hc : isLowerAlnum c with
      | true =>
        rw [collapsed_cons_of_alnum hc, List.cons_append, List.cons_prefix_cons, ih hrest]
        simp [eq_comm, and_assoc]
      | false =>
        have hne : c ≠ d := by
          rintro rfl
          simp [hd] at hc
        rw [List.cons_append, iff_false_left (not_cons_prefix_collapsed hd hc text)]
        simp [hne]

/-- Within a run, the next letter is looked for after the run. -/
theorem cons_prefix_collapsed_true_iff (hx : isLowerAlnum x) (hne : x ≠ 'a') (text : List Char) :
    x :: t <+: collapsed true text ↔
      ∃ run rest, (∀ c ∈ run, isSignificant c = false) ∧ text = run ++ rest ∧
        x :: t <+: collapsed false rest := by
  induction text with
  | nil => simp [collapsed, collapse]
  | cons c text ih =>
    -- A run that is not empty begins with the first character of the text.
    have hrun : (∃ run rest, (∀ c ∈ run, isSignificant c = false) ∧ c :: text = run ++ rest ∧
        x :: t <+: collapsed false rest) ↔ x :: t <+: collapsed false (c :: text) ∨
          isSignificant c = false ∧ ∃ run rest, (∀ c ∈ run, isSignificant c = false) ∧
            text = run ++ rest ∧ x :: t <+: collapsed false rest := by
      constructor
      · rintro ⟨run, rest, hgap, heq, hstart⟩
        cases run with
        | nil => exact .inl (by rwa [heq])
        | cons d run =>
          obtain ⟨rfl, rfl⟩ := List.cons.inj heq
          obtain ⟨hd, hgap⟩ := List.forall_mem_cons.mp hgap
          exact .inr ⟨hd, run, rest, hgap, rfl, hstart⟩
      · rintro (hstart | ⟨hc, run, rest, hgap, rfl, hstart⟩)
        · exact ⟨[], c :: text, by simp, rfl, hstart⟩
        · exact ⟨c :: run, rest, List.forall_mem_cons.mpr ⟨hc, hgap⟩, rfl, hstart⟩
    rw [hrun, ← ih]
    rcases significant_cases c with hc | rfl | hc
    · have hsig : isSignificant c = true := by simp [isSignificant, hc]
      simp [collapsed_cons_of_alnum hc, hsig]
    · rw [or_iff_right (not_cons_prefix_collapsed hx (by decide) text), collapsed_cons_ampersand]
      simp [List.cons_prefix_cons, hne, isSignificant]
    · rw [or_iff_right (not_cons_prefix_collapsed hx (isLowerAlnum_of_gap hc) text),
        collapsed_cons_of_gap hc]
      simp [hc]

/-- One blank before a letter stands for a gap before it. -/
theorem blank_prefix_collapsed_iff (hx : isLowerAlnum x) (hne : x ≠ 'a') (text : List Char) :
    ' ' :: x :: t <+: collapsed false text ↔
      ∃ gap rest, Gap gap ∧ text = gap ++ rest ∧ x :: t <+: collapsed false rest := by
  cases text with
  | nil => simp [collapsed, collapse, Gap]
  | cons c text =>
    have hgap : (∃ gap rest, Gap gap ∧ c :: text = gap ++ rest ∧ x :: t <+: collapsed false rest) ↔
        isSignificant c = false ∧ x :: t <+: collapsed true text := by
      rw [cons_prefix_collapsed_true_iff hx hne]
      constructor
      · rintro ⟨gap, rest, ⟨hgapne, hgap⟩, heq, hstart⟩
        obtain ⟨d, run, rfl⟩ := List.exists_cons_of_ne_nil hgapne
        obtain ⟨rfl, rfl⟩ := List.cons.inj heq
        obtain ⟨hd, hgap⟩ := List.forall_mem_cons.mp hgap
        exact ⟨hd, run, rest, hgap, rfl, hstart⟩
      · rintro ⟨hc, run, rest, hrun, rfl, hstart⟩
        exact ⟨c :: run, rest, ⟨by simp, List.forall_mem_cons.mpr ⟨hc, hrun⟩⟩, rfl, hstart⟩
    rw [hgap]
    rcases significant_cases c with hc | rfl | hc
    · have hblank : ' ' ≠ c := by
        rintro rfl
        cases hc
      simp [collapsed_cons_of_alnum hc, isSignificant, hc, hblank]
    · rw [collapsed_cons_ampersand]
      simp [List.cons_prefix_cons, hne, isSignificant]
    · rw [collapsed_cons_of_gap hc]
      simp [hc]

/-- A blank and a word stand for a gap and the word. -/
theorem blank_append_prefix_collapsed_iff (hx : w.head? = some x) (hne : x ≠ 'a')
    (hw : ∀ c ∈ w, isLowerAlnum c) (text : List Char) :
    ' ' :: (w ++ t) <+: collapsed false text ↔
      ∃ gap rest, Gap gap ∧ text = gap ++ (w ++ rest) ∧ t <+: collapsed false rest := by
  obtain ⟨w, rfl⟩ := List.head?_eq_some_iff.mp hx
  have hword := fun rest => append_prefix_collapsed_iff (t := t) hw rest
  rw [List.cons_append] at hword ⊢
  rw [blank_prefix_collapsed_iff (hw x List.mem_cons_self) hne]
  constructor
  · rintro ⟨gap, rest, hgap, rfl, hstart⟩
    obtain ⟨rest, rfl, hafter⟩ := (hword rest).mp hstart
    exact ⟨gap, rest, hgap, rfl, hafter⟩
  · rintro ⟨gap, rest, hgap, rfl, hstart⟩
    exact ⟨gap, x :: w ++ rest, hgap, rfl, (hword _).mpr ⟨rest, rfl, hstart⟩⟩

end Prefix

/-- The phrase starts a collapsed text where its words, spread, start the text. -/
theorem alias_prefix_collapsed_iff (text : List Char) :
    spread [' '] [' '] <+: collapsed false text ↔
      ∃ gap gap' rest, Gap gap ∧ Gap gap' ∧ text = spread gap gap' ++ rest := by
  have hspread : spread [' '] [' '] = federal ++
      (' ' :: (capital ++ (' ' :: (territory ++ [])))) := rfl
  have hcapital := blank_append_prefix_collapsed_iff (x := 'c') (w := capital)
    (t := ' ' :: (territory ++ [])) rfl (by decide) (List.all_eq_true.mp (by decide))
  have hterritory := blank_append_prefix_collapsed_iff (x := 't') (w := territory)
    (t := []) rfl (by decide) (List.all_eq_true.mp (by decide))
  rw [hspread, append_prefix_collapsed_iff (List.all_eq_true.mp (by decide))]
  constructor
  · rintro ⟨text, rfl, hstart⟩
    obtain ⟨gap, text, hgap, rfl, hend⟩ := (hcapital text).mp hstart
    obtain ⟨gap', rest, hgap', rfl, -⟩ := (hterritory text).mp hend
    exact ⟨gap, gap', rest, hgap, hgap', by simp only [spread, List.append_assoc]⟩
  · rintro ⟨gap, gap', rest, hgap, hgap', rfl⟩
    refine ⟨gap ++ (capital ++ (gap' ++ (territory ++ rest))), ?_, ?_⟩
    · simp only [spread, List.append_assoc]
    · refine (hcapital _).mpr ⟨gap, gap' ++ (territory ++ rest), hgap, rfl, ?_⟩
      exact (hterritory _).mpr ⟨gap', rest, hgap', rfl, List.nil_prefix⟩

/-- The tail of the phrase with its words spread. -/
def spreadTail (gap gap' : List Char) : List Char :=
  ['e', 'd', 'e', 'r', 'a', 'l'] ++ (gap ++ (capital ++ (gap' ++ territory)))

theorem spread_eq (gap gap' : List Char) : spread gap gap' = 'f' :: spreadTail gap gap' := rfl

/-- The phrase is in a collapsed text exactly when its words, spread, are in the text. -/
theorem alias_infix_collapsed_iff (inRun : Bool) (text : List Char) :
    spread [' '] [' '] <:+: collapsed inRun text ↔
      ∃ gap gap', Gap gap ∧ Gap gap' ∧ spread gap gap' <:+: text := by
  induction text generalizing inRun with
  | nil =>
    constructor
    · intro h
      exact nomatch List.infix_nil.mp h
    · rintro ⟨gap, gap', -, -, h⟩
      exact nomatch List.infix_nil.mp h
  | cons c text ih =>
    have hsplit : (∃ gap gap', Gap gap ∧ Gap gap' ∧ spread gap gap' <:+: c :: text) ↔
        spread [' '] [' '] <+: collapsed false (c :: text) ∨
          spread [' '] [' '] <:+: collapsed true text := by
      rw [alias_prefix_collapsed_iff, ih]
      simp only [List.infix_cons_iff]
      constructor
      · rintro ⟨gap, gap', hgap, hgap', ⟨rest, hrest⟩ | hinfix⟩
        · exact .inl ⟨gap, gap', rest, hgap, hgap', hrest.symm⟩
        · exact .inr ⟨gap, gap', hgap, hgap', hinfix⟩
      · rintro (⟨gap, gap', rest, hgap, hgap', heq⟩ | ⟨gap, gap', hgap, hgap', hinfix⟩)
        · exact ⟨gap, gap', hgap, hgap', .inl ⟨rest, heq.symm⟩⟩
        · exact ⟨gap, gap', hgap, hgap', .inr hinfix⟩
    have hflag : ∀ b, spread [' '] [' '] <:+: collapsed b text ↔
        spread [' '] [' '] <:+: collapsed true text := fun b => (ih b).trans (ih true).symm
    have hskip : ∀ {xs ys : List Char}, 'f' ∉ xs →
        (spread [' '] [' '] <:+: xs ++ ys ↔ spread [' '] [' '] <:+: ys) := by
      intro xs ys hxs
      induction xs with
      | nil => rfl
      | cons x xs ihxs =>
        rw [List.mem_cons, not_or] at hxs
        rw [List.cons_append, List.infix_cons_iff, ihxs hxs.2, or_iff_right]
        rw [spread_eq, List.cons_prefix_cons]
        exact fun h => hxs.1 h.1
    rw [hsplit]
    rcases significant_cases c with hc | rfl | hc
    · rw [collapsed_cons_of_alnum hc, collapsed_cons_of_alnum hc, List.infix_cons_iff, hflag]
    · have hno : ¬spread [' '] [' '] <+: collapsed false ('&' :: text) :=
        not_cons_prefix_collapsed (by decide) (by decide) text
      rw [or_iff_right hno, collapsed_cons_ampersand, hskip]
      cases inRun <;> decide
    · have hno : ¬spread [' '] [' '] <+: collapsed false (c :: text) :=
        not_cons_prefix_collapsed (by decide) (isLowerAlnum_of_gap hc) text
      rw [or_iff_right hno, collapsed_cons_of_gap hc, hskip]
      cases inRun <;> decide

/-! ### The phrase in the text before it is replaced -/

theorem Gap.prefix_iff {gap w ys : List Char} {c : Char} (hgap : Gap gap)
    (hc : isSignificant c = true) :
    ' ' :: (c :: w) <+: gap ++ (c :: w ++ ys) ↔ gap = [' '] := by
  constructor
  · intro h
    obtain ⟨d, gap, rfl⟩ := List.exists_cons_of_ne_nil hgap.1
    rw [List.cons_append, List.cons_prefix_cons] at h
    obtain ⟨rfl, h⟩ := h
    cases gap with
    | nil => rfl
    | cons e gap =>
      rw [List.cons_append, List.cons_prefix_cons] at h
      exact absurd (h.1 ▸ by simp) (hgap.not_mem hc)
  · rintro rfl
    simp

/-- The phrase starts a spread one only with single blanks in it. -/
theorem alias_prefix_spread_iff {gap gap' : List Char} (hgap : Gap gap) (hgap' : Gap gap')
    (after : List Char) :
    spread [' '] [' '] <+: spread gap gap' ++ after ↔ gap = [' '] ∧ gap' = [' '] := by
  constructor
  · intro h
    have hfirst : ' ' :: (capital ++ (' ' :: territory)) <+:
        gap ++ (capital ++ (gap' ++ (territory ++ after))) := by
      simpa [spread] using h
    obtain rfl := (hgap.prefix_iff (c := 'c') (by decide)).mp
      ((List.prefix_append _ (' ' :: territory)).trans hfirst)
    have hsecond : ' ' :: territory <+: gap' ++ (territory ++ after) := by
      simpa using hfirst
    exact ⟨rfl, (hgap'.prefix_iff (c := 't') (by decide)).mp hsecond⟩
  · rintro ⟨rfl, rfl⟩
    exact List.prefix_append _ _

/-- The spread phrases that replacing leaves are those that were loose. -/
theorem spread_infix_replaceAlias_iff (text : List Char) :
    (∃ gap gap', Gap gap ∧ Gap gap' ∧ spread gap gap' <:+: replaceAlias text) ↔
      LooseAlias text := by
  have hthrough : ∀ {gap gap'}, Gap gap → Gap gap' →
      (spread gap gap' <:+: replaceAlias text ↔ ∃ before after,
        text = before ++ (spread gap gap' ++ after) ∧
          ¬spread [' '] [' '] <+: spread gap gap' ++ after) := by
    intro gap gap' hgap hgap'
    refine infix_replaceAll_iff (by decide) (by decide) ?_ ?_
    · have hf := hgap.not_mem (c := 'f') (by decide)
      have hf' := hgap'.not_mem (c := 'f') (by decide)
      simp [capital, territory, hf, hf']
    · intro ys h
      exact absurd (List.cons_prefix_cons.mp h).2 (by simp)
  constructor
  · rintro ⟨gap, gap', hgap, hgap', hinfix⟩
    obtain ⟨before, after, rfl, hloose⟩ := (hthrough hgap hgap').mp hinfix
    rw [alias_prefix_spread_iff hgap hgap', not_and_or] at hloose
    exact ⟨gap, gap', hgap, hgap', hloose, before, after, by simp⟩
  · rintro ⟨gap, gap', hgap, hgap', hloose, before, after, rfl⟩
    refine ⟨gap, gap', hgap, hgap', (hthrough hgap hgap').mpr ⟨before, after, by simp, ?_⟩⟩
    rwa [alias_prefix_spread_iff hgap hgap', not_and_or]

/-- The normal form has the phrase exactly when the text has it loosely. -/
theorem alias_infix_normalizeLocationText_iff (values : List (Option String)) :
    spread [' '] [' '] <:+: (normalizeLocationText values).toList ↔
      LooseAlias (loweredText values) := by
  rw [normalizeLocationText_eq, String.toList_ofList, ← strip_collapse isLowerAlnum_blank,
    infix_strip_iff (by rintro c ⟨⟩; rfl) (by rintro c ⟨⟩; rfl), spelled_eq,
    ← spread_infix_replaceAlias_iff]
  exact alias_infix_collapsed_iff false (replaceAlias (loweredText values))

/-! ### Normalizing again -/

theorem flatMap_eq_self {spell : Char → List Char} {cs : List Char} (h : ∀ c ∈ cs, spell c = [c]) :
    cs.flatMap spell = cs := by
  rw [List.flatMap_congr h]
  simp

/-- A text made of words is lowered and trimmed to itself. -/
theorem loweredText_ofList {cs : List Char} (hnormal : Normal cs)
    (hstrip : strip (· = ' ') cs = cs) : loweredText [some (String.ofList cs)] = cs := by
  have htrim : trim (String.ofList cs) = String.ofList cs := by
    rw [trim, String.toList_ofList, hnormal.strip_eq, hstrip]
  have hlower : ∀ c ∈ cs, lowerChar c = [c] := by
    intro c hc
    rcases hnormal c hc with hc | rfl
    · exact (lowerChar_of_isLowerAlnum (.inl hc)).2.1
    · decide
  have hclean : String.intercalate " " ([some (String.ofList cs)].filterMap clean) =
      String.ofList cs := by
    have hclean : clean (some (String.ofList cs)) =
        if String.ofList cs = "" then none else some (String.ofList cs) := by
      rw [clean, trimmedOrNull, trimmed, Option.getD_some, htrim]
    by_cases hempty : String.ofList cs = ""
    · rw [List.filterMap_cons_none (by rw [hclean, if_pos hempty]), hempty]
      rfl
    · rw [List.filterMap_cons_some (by rw [hclean, if_neg hempty])]
      rfl
  rw [loweredText, hclean, toList_toLowerCase_ofList hlower]

/-- Normalizing a normal form changes it exactly when it has the phrase. -/
theorem normalizeLocationText_idem_iff (values : List (Option String)) :
    normalizeLocationText [some (normalizeLocationText values)] = normalizeLocationText values ↔
      ¬LooseAlias (loweredText values) := by
  have hws : Words isLowerAlnum (words isLowerAlnum (spelled values)) := words_words _ _
  rw [← alias_infix_normalizeLocationText_iff, normalizeLocationText_eq values,
    normalizeLocationText_eq, String.toList_ofList, String.ofList_inj]
  have hstrip : strip (· = ' ') (unwords ' ' (words isLowerAlnum (spelled values))) =
      unwords ' ' (words isLowerAlnum (spelled values)) := by
    rw [← strip_collapse isLowerAlnum_blank, strip_strip]
  have hlowered := loweredText_ofList (normal_unwords hws) hstrip
  rw [spelled_eq [some _], hlowered]
  generalize hcs : unwords ' ' (words isLowerAlnum (spelled values)) = cs
  have hamp : ∀ c ∈ replaceAlias cs, spell c = [c] := by
    intro c hc
    have hne : c ≠ '&' := by
      rintro rfl
      rcases mem_replaceAll (by decide) hc with hmem | hmem
      · simp at hmem
      · rw [← hcs] at hmem
        exact absurd (hws.mem_unwords hmem) (by decide)
    rw [spell, if_neg hne]
  rw [flatMap_eq_self hamp]
  constructor
  · intro heq hinfix
    have hlt : (replaceAlias cs).length < cs.length :=
      length_replaceAll_lt (by decide) (by decide) hinfix
    have hle := length_strip_le (· = ' ') (collapse isLowerAlnum ' ' false (replaceAlias cs))
    have hle' := @length_collapse_le isLowerAlnum ' ' false (replaceAlias cs)
    rw [strip_collapse isLowerAlnum_blank, heq] at hle
    omega
  · intro hfree
    rw [replaceAlias, replaceAll_of_not_infix hfree, ← hcs, words_unwords isLowerAlnum_blank hws]

/-! ### Texts that are not loose -/

theorem isSignificant_blank : isSignificant ' ' = false := by decide

/-- The tokens of a text whose significant runs have single blanks between them. -/
def tokensOf (text : List Char) : List (List Char) :=
  words isLowerAlnum ((replaceAlias text).flatMap spell)

theorem spell_of_gap {c : Char} (hc : isSignificant c = false) :
    spell c = [c] ∧ isLowerAlnum c = false := by
  rw [isSignificant, Bool.or_eq_false_iff, decide_eq_false_iff_not] at hc
  exact ⟨if_neg hc.2, hc.1⟩

theorem collapsed_collapse_significant (text : List Char) :
    collapsed false (collapse isSignificant ' ' false text) = collapsed false text :=
  collapse_flatMap_collapse isSignificant_blank (fun _ => spell_of_gap) id text

/-- The phrase only comes about by collapsing a loose text. -/
theorem alias_prefix_of_collapse {text : List Char} (hloose : ¬LooseAlias text) {ys : List Char}
    (hys : ys <:+ text) (h : spread [' '] [' '] <+: collapse isSignificant ' ' false ys) :
    spread [' '] [' '] <+: ys := by
  obtain ⟨zs, hzs⟩ := h
  have hprefix : spread [' '] [' '] <+: collapsed false ys := by
    rw [← collapsed_collapse_significant, ← hzs]
    exact ⟨collapsed false zs, rfl⟩
  obtain ⟨gap, gap', rest, hgap, hgap', rfl⟩ := (alias_prefix_collapsed_iff ys).mp hprefix
  rw [alias_prefix_spread_iff hgap hgap']
  by_contra hne
  exact hloose ⟨gap, gap', hgap, hgap', not_and_or.mp hne,
    (List.prefix_append _ rest).isInfix.trans hys.isInfix⟩

/-- Blanks at the ends are no part of a token. -/
theorem tokensOf_strip (text : List Char) : tokensOf (strip (· = ' ') text) = tokensOf text := by
  refine strip_induction ?_ ?_ text
  · intro c cs hc
    obtain rfl : c = ' ' := by simpa using hc
    have hstart : ¬spread [' '] [' '] <+: ' ' :: cs := by
      rw [spread_eq, List.cons_prefix_cons]
      simp
    rw [tokensOf, replaceAlias, replaceAll_cons hstart]
    exact words_cons_of_not isLowerAlnum_blank
  · intro cs c hc
    obtain rfl : c = ' ' := by simpa using hc
    rw [tokensOf, replaceAlias, replaceAll_concat (by decide) (by decide), List.flatMap_append]
    exact (words_append_cons _ [] isLowerAlnum_blank).trans (List.append_nil _)

/-- The tokens of a text that is not loose are told by its significant runs. -/
theorem words_spelled_of_not_loose {values : List (Option String)}
    (hloose : ¬LooseAlias (loweredText values)) :
    words isLowerAlnum (spelled values) =
      tokensOf (unwords ' ' (words isSignificant (loweredText values))) := by
  have halias : ∀ inRun ys, collapse isSignificant ' ' inRun (spread [' '] [' '] ++ ys) =
      spread [' '] [' '] ++ collapse isSignificant ' ' false ys := by
    intro inRun ys
    cases inRun <;> rfl
  have hcommute : collapse isSignificant ' ' false (replaceAlias (loweredText values)) =
      replaceAlias (collapse isSignificant ' ' false (loweredText values)) :=
    collapse_replaceAll (by decide) (by decide) halias (by decide)
      (List.all_eq_true.mp (by decide)) false
      fun ys => alias_prefix_of_collapse hloose
  rw [← strip_collapse isSignificant_blank, tokensOf_strip, tokensOf, ← hcommute, spelled_eq]
  exact words_eq_of_collapse_eq isLowerAlnum_blank
    (collapsed_collapse_significant (replaceAlias (loweredText values))).symm

/-! ### Replacing a run by one blank -/

/-- The punctuation of ASCII. -/
def isAsciiPunctuation (c : Char) : Bool :=
  (33 ≤ c.toNat && c.toNat ≤ 47) || (58 ≤ c.toNat && c.toNat ≤ 64) ||
    (91 ≤ c.toNat && c.toNat ≤ 96) || (123 ≤ c.toNat && c.toNat ≤ 126)

/-- White space and the punctuation of ASCII without the ampersand. -/
def isFiller (c : Char) : Bool := isJsSpace c || (isAsciiPunctuation c && c ≠ '&')

/-- A text with a run of fillers in it, and the text with one blank instead. -/
def Respaced (text text' : String) : Prop :=
  ∃ before run after, run ≠ [] ∧ (∀ c ∈ run, isFiller c) ∧
    text.toList = before ++ (run ++ after) ∧ text'.toList = before ++ (' ' :: after)

/-- Location texts of which one is respaced. -/
def RespacedAt (values values' : List (Option String)) : Prop :=
  ∃ before text text' after, Respaced text text' ∧ values = before ++ some text :: after ∧
    values' = before ++ some text' :: after

theorem isFiller_spec {c : Char} (hc : isFiller c) :
    isSignificant c = false ∧ lowerChar c = [c] := by
  rw [← Char.ofNat_toNat c] at hc ⊢
  have hrange : c.toNat ≤ 126 ∨ c.toNat ∈ [0xA0, 0x1680, 0x2028, 0x2029, 0x202F, 0x205F, 0x3000,
      0xFEFF] ∨ (0x2000 ≤ c.toNat ∧ c.toNat ≤ 0x200A) := by
    rw [Char.ofNat_toNat] at hc
    simp only [isFiller, isJsSpace, isAsciiPunctuation, Bool.or_eq_true, Bool.and_eq_true,
      decide_eq_true_eq, List.mem_cons, List.not_mem_nil, or_false] at hc ⊢
    omega
  generalize c.toNat = n at hc hrange
  rcases hrange with hrange | hrange | hrange
  · interval_cases n <;> revert hc <;> decide +kernel
  · simp only [List.mem_cons, List.not_mem_nil, or_false] at hrange
    rcases hrange with rfl | rfl | rfl | rfl | rfl | rfl | rfl | rfl <;> decide +kernel
  · obtain ⟨hlow, hhigh⟩ := hrange
    interval_cases n <;> decide +kernel

theorem isFiller_of_isJsSpace {c : Char} (hc : isJsSpace c) : isFiller c := by
  simp [isFiller, hc]

theorem flatMap_lowerChar_of_isFiller {run : List Char} (hrun : ∀ c ∈ run, isFiller c) :
    run.flatMap lowerChar = run :=
  flatMap_eq_self fun c hc => (isFiller_spec (hrun c hc)).2

theorem gap_of_isFiller {run : List Char} (hne : run ≠ []) (hrun : ∀ c ∈ run, isFiller c) :
    Gap run := ⟨hne, fun c hc => (isFiller_spec (hrun c hc)).1⟩

/-- The significant runs of one location text. -/
def runsOf (text : List Char) : List (List Char) := words isSignificant (text.flatMap lowerChar)

theorem runsOf_strip (text : List Char) : runsOf (strip isJsSpace text) = runsOf text := by
  refine strip_induction ?_ ?_ text
  · intro c cs hc
    obtain ⟨hsig, hlower⟩ := isFiller_spec (isFiller_of_isJsSpace hc)
    rw [runsOf, List.flatMap_cons, hlower, List.singleton_append, words_cons_of_not hsig, runsOf]
  · intro cs c hc
    obtain ⟨hsig, hlower⟩ := isFiller_spec (isFiller_of_isJsSpace hc)
    rw [runsOf, List.flatMap_append, List.flatMap_singleton, hlower, words_append_cons _ [] hsig,
      words_nil, List.append_nil, runsOf]

theorem runsOf_clean (value : Option String) :
    ((clean value).toList.flatMap fun text => runsOf text.toList) =
      runsOf (value.getD "").toList := by
  have htrim : runsOf (trimmed value).toList = runsOf (value.getD "").toList := by
    rw [trimmed, trim, String.toList_ofList, runsOf_strip]
  rw [← htrim, clean, trimmedOrNull]
  split_ifs with hempty
  · rw [hempty]
    rfl
  · simp

/-- The characters of location texts put together, each in lower case. -/
def loweredChars (values : List (Option String)) : List Char :=
  [' '].intercalate ((values.filterMap clean).map fun text => text.toList.flatMap lowerChar)

/-- Up to the final sigma these are the lowered text. -/
theorem map_plainSigma_loweredText (values : List (Option String)) :
    (loweredText values).map plainSigma = (loweredChars values).map plainSigma := by
  rw [loweredText, toList_toLowerCase, map_plainSigma_lowerFrom, String.toList_intercalate,
    show " ".toList = [' '] from rfl, flatMap_intercalate (by decide), List.map_map]
  rfl

theorem plainSigma_of_isSignificant {c : Char} (hc : isSignificant c) : plainSigma c = c := by
  refine plainSigma_of_ne ?_
  rintro rfl
  exact absurd hc (by decide)

theorem isSignificant_plainSigma (c : Char) : isSignificant (plainSigma c) = isSignificant c := by
  unfold plainSigma
  split
  · next hc =>
    rw [hc]
    decide
  · rfl

/-- The sigmas are part of no significant run. -/
theorem words_map_plainSigma (cs : List Char) :
    words isSignificant (cs.map plainSigma) = words isSignificant cs :=
  words_eq_of_collapse_eq isSignificant_blank
    (collapse_map (fun _ => plainSigma_of_isSignificant)
      (fun c hc => (isSignificant_plainSigma c).trans hc) false cs)

theorem gap_map_plainSigma_iff (gap : List Char) : Gap (gap.map plainSigma) ↔ Gap gap := by
  simp [Gap, isSignificant_plainSigma]

theorem map_plainSigma_eq_blank_iff (gap : List Char) : gap.map plainSigma = [' '] ↔ gap = [' '] :=
  map_plainSigma_eq_iff (ne_sigma_of_not_mem (by decide))

/-- The final sigma makes no text loose. -/
theorem looseAlias_map_plainSigma_iff (cs : List Char) :
    LooseAlias (cs.map plainSigma) ↔ LooseAlias cs := by
  have hspread : ∀ gap gap' : List Char,
      (spread gap gap').map plainSigma = spread (gap.map plainSigma) (gap'.map plainSigma) := by
    intro gap gap'
    simp only [spread, List.map_append]
    rfl
  constructor
  · rintro ⟨gap, gap', hgap, hgap', hloose, hinfix⟩
    obtain ⟨text, htext, heq⟩ := List.infix_map_iff.mp hinfix
    -- the words of the phrase are themselves, and the gaps between them are gaps
    obtain ⟨_, _, rfl, hfederal, hgaps⟩ := List.map_eq_append_iff.mp heq.symm
    obtain ⟨before, _, rfl, rfl, hlast⟩ := List.map_eq_append_iff.mp hgaps
    obtain ⟨_, _, rfl, hcapital, hend⟩ := List.map_eq_append_iff.mp hlast
    obtain ⟨after, _, rfl, rfl, hterritory⟩ := List.map_eq_append_iff.mp hend
    obtain rfl := (map_plainSigma_eq_iff (ne_sigma_of_not_mem (by decide))).mp hfederal
    obtain rfl := (map_plainSigma_eq_iff (ne_sigma_of_not_mem (by decide))).mp hcapital
    obtain rfl := (map_plainSigma_eq_iff (ne_sigma_of_not_mem (by decide))).mp hterritory
    exact ⟨before, after, (gap_map_plainSigma_iff before).mp hgap,
      (gap_map_plainSigma_iff after).mp hgap',
      hloose.imp (mt (map_plainSigma_eq_blank_iff before).mpr)
        (mt (map_plainSigma_eq_blank_iff after).mpr), htext⟩
  · rintro ⟨gap, gap', hgap, hgap', hloose, hinfix⟩
    refine ⟨gap.map plainSigma, gap'.map plainSigma, (gap_map_plainSigma_iff gap).mpr hgap,
      (gap_map_plainSigma_iff gap').mpr hgap', ?_, hspread gap gap' ▸ hinfix.map plainSigma⟩
    exact hloose.imp (mt (map_plainSigma_eq_blank_iff gap).mp)
      (mt (map_plainSigma_eq_blank_iff gap').mp)

theorem words_loweredText_eq (values : List (Option String)) :
    words isSignificant (loweredText values) = words isSignificant (loweredChars values) := by
  rw [← words_map_plainSigma, map_plainSigma_loweredText, words_map_plainSigma]

theorem looseAlias_loweredText_eq (values : List (Option String)) :
    LooseAlias (loweredText values) ↔ LooseAlias (loweredChars values) := by
  rw [← looseAlias_map_plainSigma_iff, map_plainSigma_loweredText, looseAlias_map_plainSigma_iff]

/-- The significant runs of location texts put together are those of each. -/
theorem words_loweredText (values : List (Option String)) :
    words isSignificant (loweredText values) =
      values.flatMap fun value => runsOf (value.getD "").toList := by
  rw [words_loweredText_eq, loweredChars, words_intercalate isSignificant_blank, List.flatMap_map]
  simp only [← runsOf_clean]
  induction values with
  | nil => rfl
  | cons value values ih =>
    rw [List.flatMap_cons, ← ih]
    cases hclean : clean value with
    | none => simp [hclean]
    | some text => simp [hclean, runsOf]

theorem runsOf_respaced {text text' : String} (h : Respaced text text') :
    runsOf text'.toList = runsOf text.toList := by
  obtain ⟨before, run, after, hne, hrun, htext, htext'⟩ := h
  have hblank : (before ++ (' ' :: after)).flatMap lowerChar =
      before.flatMap lowerChar ++ (' ' :: after.flatMap lowerChar) := by
    rw [List.flatMap_append, List.flatMap_cons]
    rfl
  rw [htext, htext', runsOf, runsOf, hblank, List.flatMap_append, List.flatMap_append,
    flatMap_lowerChar_of_isFiller hrun, words_append_cons _ _ isSignificant_blank,
    words_append_gap hne fun c hc => (isFiller_spec (hrun c hc)).1]

theorem words_loweredText_respaced {values values' : List (Option String)}
    (h : RespacedAt values values') :
    words isSignificant (loweredText values') = words isSignificant (loweredText values) := by
  obtain ⟨before, text, text', after, htext, rfl, rfl⟩ := h
  simp [words_loweredText, runsOf_respaced htext]

/-! ### Looseness under respacing -/

/-- In every context, a text is loose if the other one makes it loose. -/
def Tightens (text text' : List Char) : Prop :=
  ∀ before after, LooseAlias (before ++ (text' ++ after)) → LooseAlias (before ++ (text ++ after))

theorem Tightens.context {text text' : List Char} (h : Tightens text text')
    (before after : List Char) :
    Tightens (before ++ (text ++ after)) (before ++ (text' ++ after)) := by
  intro xs ys hloose
  have := h (xs ++ before) (after ++ ys) (by simpa using hloose)
  simpa using this

theorem append_eq_append_blank {xs ys before after : List Char}
    (h : xs ++ ys = before ++ (' ' :: after)) :
    (∃ rest, before = xs ++ rest ∧ ys = rest ++ (' ' :: after)) ∨
      ∃ rest, xs = before ++ (' ' :: rest) ∧ after = rest ++ ys := by
  rcases List.append_eq_append_iff.mp h with ⟨rest, hbefore, hys⟩ | ⟨rest, hxs, hafter⟩
  · exact .inl ⟨rest, hbefore, hys⟩
  · cases rest with
    | nil => exact .inl ⟨[], by simpa using hxs.symm, by simpa using hafter.symm⟩
    | cons c rest =>
      obtain ⟨rfl, hrest⟩ := List.cons.inj hafter
      exact .inr ⟨rest, hxs, hrest⟩

/-- A word has no blank. -/
theorem word_append_eq_append_blank {w ys before after : List Char} (hw : ' ' ∉ w)
    (h : w ++ ys = before ++ (' ' :: after)) :
    ∃ rest, before = w ++ rest ∧ ys = rest ++ (' ' :: after) := by
  rcases append_eq_append_blank h with hrest | ⟨rest, rfl, -⟩
  · exact hrest
  · simp at hw

/-- A gap with a run where a blank was is a gap, and more than a blank if it was. -/
theorem Gap.widen {before after run : List Char} (hgap : Gap (before ++ (' ' :: after)))
    (hrun : Gap run) :
    Gap (before ++ (run ++ after)) ∧
      (before ++ (' ' :: after) ≠ [' '] → before ++ (run ++ after) ≠ [' ']) := by
  obtain ⟨-, hgap⟩ := hgap
  have hne : before ++ (run ++ after) ≠ [] := by simp [hrun.1]
  refine ⟨⟨hne, fun c hc => ?_⟩, fun hwide hblank => hwide ?_⟩
  · rcases List.mem_append.mp hc with hc | hc
    · exact hgap c (by simp [hc])
    · rcases List.mem_append.mp hc with hc | hc
      · exact hrun.2 c hc
      · exact hgap c (by simp [hc])
  · have hlength := congrArg List.length hblank
    have hpos := List.length_pos_iff.mpr hrun.1
    simp only [List.length_append, List.length_singleton] at hlength
    rw [List.length_eq_zero_iff.mp (show before.length = 0 by omega),
      List.length_eq_zero_iff.mp (show after.length = 0 by omega)]
    rfl

/-- A run in the place of one blank does not make a text less loose. -/
theorem Gap.tightens {run : List Char} (hrun : Gap run) : Tightens run [' '] := by
  rintro before after ⟨gap, gap', hgap, hgap', hloose, front, back, htext⟩
  replace htext : front ++ (federal ++ (gap ++ (capital ++ (gap' ++ (territory ++ back))))) =
      before ++ (' ' :: after) := by simpa [spread] using htext
  -- The blank is before the phrase, in one of its gaps or after it.
  rcases append_eq_append_blank htext with ⟨rest₁, rfl, hfederal⟩ | ⟨rest, rfl, rfl⟩
  · obtain ⟨rest₂, rfl, hgaps⟩ := word_append_eq_append_blank (by decide) hfederal
    rcases append_eq_append_blank hgaps with ⟨rest₃, rfl, hcapital⟩ | ⟨rest, rfl, rfl⟩
    · obtain ⟨rest₄, rfl, hgaps'⟩ := word_append_eq_append_blank (by decide) hcapital
      rcases append_eq_append_blank hgaps' with ⟨rest₅, rfl, hterritory⟩ | ⟨rest, rfl, rfl⟩
      · obtain ⟨rest, rfl, rfl⟩ := word_append_eq_append_blank (by decide) hterritory
        exact ⟨gap, gap', hgap, hgap', hloose, front, rest ++ (run ++ after), by simp [spread]⟩
      · obtain ⟨hwide, hne⟩ := hgap'.widen hrun
        exact ⟨gap, _, hgap, hwide, hloose.imp_right hne, front, back, by simp [spread]⟩
    · obtain ⟨hwide, hne⟩ := hgap.widen hrun
      exact ⟨_, gap', hwide, hgap', hloose.imp_left hne, front, back, by simp [spread]⟩
  · exact ⟨gap, gap', hgap, hgap', hloose, before ++ (run ++ rest), back, by simp [spread]⟩

/-- Blanks at the ends make no text loose. -/
theorem looseAlias_cons_blank_iff (text : List Char) :
    LooseAlias (' ' :: text) ↔ LooseAlias text := by
  have hstart : ∀ gap gap', ¬spread gap gap' <+: ' ' :: text := by
    intro gap gap' h
    exact absurd (List.cons_prefix_cons.mp h).1 (by decide)
  simp only [LooseAlias, List.infix_cons_iff, hstart, false_or]

theorem looseAlias_concat_blank_iff (text : List Char) :
    LooseAlias (text ++ [' ']) ↔ LooseAlias text := by
  have hend : ∀ gap gap', spread gap gap' <:+: text ++ [' '] ↔ spread gap gap' <:+: text := by
    intro gap gap'
    have hlast : (spread gap gap').getLast? = some 'y' := by simp [spread, territory]
    rw [List.infix_concat_iff, or_iff_right]
    intro h
    rcases List.suffix_concat_iff.mp h with hnil | ⟨rest, hrest, -⟩
    · simp [hnil] at hlast
    · simp [hrest] at hlast
  simp only [LooseAlias, hend]

/-- A location text as it stands before the next one, after a blank. -/
def block (text : List Char) : List Char :=
  if text = [] then [] else ' ' :: text.flatMap lowerChar

theorem filterMap_clean (values : List (Option String)) :
    (values.filterMap clean).flatMap (fun text => ' ' :: text.toList.flatMap lowerChar) =
      values.flatMap fun value => block (strip isJsSpace (value.getD "").toList) := by
  induction values with
  | nil => rfl
  | cons value values ih =>
    have htrim : strip isJsSpace (value.getD "").toList = (trimmed value).toList := by
      rw [trimmed, trim, String.toList_ofList]
    rw [List.flatMap_cons, ← ih, htrim]
    by_cases hempty : trimmed value = ""
    · rw [List.filterMap_cons_none (by rw [clean, trimmedOrNull, if_pos hempty]), hempty]
      rfl
    · have hne : (trimmed value).toList ≠ [] := by simpa using hempty
      rw [List.filterMap_cons_some (by rw [clean, trimmedOrNull, if_neg hempty]),
        List.flatMap_cons, block, if_neg hne]

/-- A text put together has a blank before every part of it but the first. -/
theorem looseAlias_loweredText_iff (values : List (Option String)) :
    LooseAlias (loweredText values) ↔ LooseAlias
      ((values.flatMap fun value => block (strip isJsSpace (value.getD "").toList)) ++ [' ']) := by
  rw [looseAlias_concat_blank_iff, ← filterMap_clean, looseAlias_loweredText_eq, loweredChars]
  generalize values.filterMap clean = texts
  cases texts with
  | nil => rfl
  | cons text texts =>
    rw [← looseAlias_cons_blank_iff]
    suffices ' ' :: [' '].intercalate ((text :: texts).map fun text =>
        text.toList.flatMap lowerChar) =
          (text :: texts).flatMap fun text => ' ' :: text.toList.flatMap lowerChar by rw [this]
    induction texts generalizing text with
    | nil => simp
    | cons next texts ih =>
      rw [List.flatMap_cons, ← ih next]
      simp

theorem block_of_ne {text : List Char} (hne : text ≠ []) :
    block text = ' ' :: text.flatMap lowerChar := if_neg hne

/-- Fillers at the start of a text are stripped or stand before it. -/
theorem exists_strip_lead {run middle trail : List Char} (hrun : ∀ c ∈ run, isFiller c)
    (hmiddle : middle ≠ []) (htrail : ∀ c ∈ trail, isJsSpace c)
    (hhead : ∀ c ∈ middle.head?, isJsSpace c = false)
    (hlast : ∀ c ∈ middle.getLast?, isJsSpace c = false) :
    ∃ rest, (∀ c ∈ rest, isFiller c) ∧
      strip isJsSpace (run ++ (middle ++ trail)) = rest ++ middle := by
  refine ⟨run.dropWhile isJsSpace, fun c hc => hrun c ((List.dropWhile_suffix _).subset hc), ?_⟩
  have hsplit : run ++ (middle ++ trail) =
      run.takeWhile isJsSpace ++ ((run.dropWhile isJsSpace ++ middle) ++ trail) := by
    rw [List.append_assoc, ← List.append_assoc (List.takeWhile _ _),
      List.takeWhile_append_dropWhile]
  rw [hsplit, strip_append_append (fun c => List.mem_takeWhile_imp) htrail]
  · intro c hc
    have hnot := List.head?_dropWhile_not isJsSpace run
    cases hrest : run.dropWhile isJsSpace with
    | nil => exact hhead c (by simpa [hrest] using hc)
    | cons d rest =>
      rw [hrest] at hc hnot
      obtain rfl : d = c := by simpa using hc
      simpa using hnot
  · rwa [List.getLast?_append_of_ne_nil _ hmiddle]

/-- Fillers at the end of a text are stripped or stand after it. -/
theorem exists_strip_trail {lead middle run : List Char} (hrun : ∀ c ∈ run, isFiller c)
    (hmiddle : middle ≠ []) (hlead : ∀ c ∈ lead, isJsSpace c)
    (hhead : ∀ c ∈ middle.head?, isJsSpace c = false)
    (hlast : ∀ c ∈ middle.getLast?, isJsSpace c = false) :
    ∃ rest, (∀ c ∈ rest, isFiller c) ∧
      strip isJsSpace (lead ++ (middle ++ run)) = middle ++ rest := by
  refine ⟨run.rdropWhile isJsSpace, fun c hc => hrun c ((List.rdropWhile_prefix _ _).subset hc), ?_⟩
  have hsplit : lead ++ (middle ++ run) =
      lead ++ ((middle ++ run.rdropWhile isJsSpace) ++ run.rtakeWhile isJsSpace) := by
    rw [List.append_assoc middle, List.rdropWhile_append_rtakeWhile]
  rw [hsplit, strip_append_append hlead fun c => List.mem_rtakeWhile_imp]
  · rwa [List.head?_append_of_ne_nil _ hmiddle]
  · intro c hc
    by_cases hrest : run.rdropWhile isJsSpace = []
    · exact hlast c (by simpa [hrest] using hc)
    · rw [List.getLast?_append_of_ne_nil _ hrest, List.getLast?_eq_some_getLast hrest] at hc
      obtain rfl := Option.some.inj hc
      simpa using List.rdropWhile_last_not _ _ hrest

/-- What is stripped of fillers is fillers. -/
theorem strip_isFiller {run : List Char} (hrun : ∀ c ∈ run, isFiller c) :
    ∀ c ∈ strip isJsSpace run, isFiller c := fun c hc =>
  hrun c ((List.dropWhile_suffix _).subset
    (List.mem_reverse.mp ((List.dropWhile_suffix _).subset (List.mem_reverse.mp hc))))

theorem gap_append {gap gap' : List Char} (hne : gap ≠ [] ∨ gap' ≠ [])
    (hgap : ∀ c ∈ gap, isFiller c) (hgap' : ∀ c ∈ gap', isFiller c) : Gap (gap ++ gap') := by
  refine gap_of_isFiller ?_ (List.forall_mem_append.mpr ⟨hgap, hgap'⟩)
  simpa [or_iff_not_imp_left] using hne

section Block

variable {lead lead' middle middle' trail trail' run : List Char}

theorem blank_isFiller : ∀ c ∈ [' '], isFiller c := List.all_eq_true.mp (by decide)

/-- Fillers only. -/
theorem block_tightens_of_isFiller (hlead : ∀ c ∈ lead, isFiller c)
    (hlead' : ∀ c ∈ lead', isJsSpace c) :
    Tightens (block (strip isJsSpace lead) ++ [' ']) (block (strip isJsSpace lead') ++ [' ']) := by
  have hrest := strip_isFiller hlead
  rw [strip_eq_nil hlead']
  by_cases hnil : strip isJsSpace lead = []
  · rw [hnil]
    exact fun _ _ => id
  · rw [block_of_ne hnil, flatMap_lowerChar_of_isFiller hrest]
    have hgap : Gap (' ' :: strip isJsSpace lead ++ [' ']) :=
      gap_append (.inl (by simp)) (List.forall_mem_cons.mpr ⟨by decide, hrest⟩) blank_isFiller
    exact hgap.tightens

/-- Fillers before the text. -/
theorem block_tightens_lead (hlead : ∀ c ∈ lead, isFiller c) (hlead' : ∀ c ∈ lead', isJsSpace c)
    (hmiddle : middle ≠ []) (htrail : ∀ c ∈ trail, isJsSpace c)
    (hhead : ∀ c ∈ middle.head?, isJsSpace c = false)
    (hlast : ∀ c ∈ middle.getLast?, isJsSpace c = false) :
    Tightens (block (strip isJsSpace (lead ++ (middle ++ trail))) ++ [' '])
      (block (strip isJsSpace (lead' ++ (middle ++ trail))) ++ [' ']) := by
  obtain ⟨rest, hrest, hstrip⟩ := exists_strip_lead hlead hmiddle htrail hhead hlast
  rw [hstrip, strip_append_append hlead' htrail hhead hlast, block_of_ne (by simp [hmiddle]),
    block_of_ne hmiddle, List.flatMap_append, flatMap_lowerChar_of_isFiller hrest]
  have hgap : Gap ([' '] ++ rest) := gap_append (.inl (by simp)) blank_isFiller hrest
  simpa using hgap.tightens.context [] (middle.flatMap lowerChar ++ [' '])

/-- Fillers after the text. -/
theorem block_tightens_trail (hlead : ∀ c ∈ lead, isJsSpace c) (hmiddle : middle ≠ [])
    (htrail : ∀ c ∈ trail, isFiller c) (htrail' : ∀ c ∈ trail', isJsSpace c)
    (hhead : ∀ c ∈ middle.head?, isJsSpace c = false)
    (hlast : ∀ c ∈ middle.getLast?, isJsSpace c = false) :
    Tightens (block (strip isJsSpace (lead ++ (middle ++ trail))) ++ [' '])
      (block (strip isJsSpace (lead ++ (middle ++ trail'))) ++ [' ']) := by
  obtain ⟨rest, hrest, hstrip⟩ := exists_strip_trail htrail hmiddle hlead hhead hlast
  rw [hstrip, strip_append_append hlead htrail' hhead hlast, block_of_ne (by simp [hmiddle]),
    block_of_ne hmiddle, List.flatMap_append, flatMap_lowerChar_of_isFiller hrest]
  have hgap : Gap (rest ++ [' ']) := gap_append (.inr (by simp)) hrest blank_isFiller
  simpa using hgap.tightens.context (' ' :: middle.flatMap lowerChar) []

/-- Fillers inside the text. -/
theorem block_tightens_inside (hlead : ∀ c ∈ lead, isJsSpace c) (htrail : ∀ c ∈ trail, isJsSpace c)
    (hmiddle : middle ≠ []) (hmiddle' : middle' ≠ [])
    (hhead : ∀ c ∈ middle.head?, isJsSpace c = false)
    (hlast : ∀ c ∈ middle'.getLast?, isJsSpace c = false) (hne : run ≠ [])
    (hrun : ∀ c ∈ run, isFiller c) (before after : List Char) :
    Tightens
      (block (strip isJsSpace
      (lead ++ ((middle ++ before ++ (run ++ (after ++ middle'))) ++ trail)))
        ++ [' '])
      (block (strip isJsSpace
      (lead ++ ((middle ++ before ++ ([' '] ++ (after ++ middle'))) ++ trail)))
        ++ [' ']) := by
  have hstrip : ∀ gap : List Char, strip isJsSpace
      (lead ++ ((middle ++ before ++ (gap ++ (after ++ middle'))) ++ trail)) =
        middle ++ before ++ (gap ++ (after ++ middle')) := by
    intro gap
    refine strip_append_append hlead htrail ?_ ?_
    · rwa [List.append_assoc, List.head?_append_of_ne_nil _ hmiddle]
    · rwa [← List.append_assoc gap, ← List.append_assoc,
        List.getLast?_append_of_ne_nil _ hmiddle']
  rw [hstrip, hstrip, block_of_ne (by simp [hmiddle]), block_of_ne (by simp [hmiddle])]
  have hlower : ∀ {gap : List Char}, (∀ c ∈ gap, isFiller c) →
      ' ' :: (middle ++ before ++ (gap ++ (after ++ middle'))).flatMap lowerChar ++ [' '] =
        (' ' :: (middle ++ before).flatMap lowerChar) ++
          (gap ++ ((after ++ middle').flatMap lowerChar ++ [' '])) := by
    intro gap hgap
    simp only [List.flatMap_append, flatMap_lowerChar_of_isFiller hgap]
    simp
  rw [hlower hrun, hlower blank_isFiller]
  exact (gap_of_isFiller hne hrun).tightens.context _ _

end Block

/-- A block with a run where it had a blank is not tighter. -/
theorem block_tightens {text text' : String} (h : Respaced text text') :
    Tightens (block (strip isJsSpace text.toList) ++ [' '])
      (block (strip isJsSpace text'.toList) ++ [' ']) := by
  obtain ⟨before, run, after, hne, hrun, htext, htext'⟩ := h
  rw [htext, htext', ← List.singleton_append]
  obtain ⟨lead, middle, trail, rfl, hlead, htrail, hhead, hlast⟩ :=
    exists_strip_append isJsSpace before
  obtain ⟨lead', middle', trail', rfl, hlead', htrail', hhead', hlast'⟩ :=
    exists_strip_append isJsSpace after
  have hfill : ∀ {cs : List Char}, (∀ c ∈ cs, isJsSpace c) → ∀ c ∈ cs, isFiller c :=
    fun h c hc => isFiller_of_isJsSpace (h c hc)
  have hblank : ∀ c ∈ [' '], isJsSpace c := List.all_eq_true.mp (by decide)
  by_cases hmiddle : middle = [] <;> by_cases hmiddle' : middle' = []
  · subst hmiddle hmiddle'
    refine block_tightens_of_isFiller ?_ ?_
    · simp only [List.nil_append, List.forall_mem_append]
      exact ⟨⟨hfill hlead, hfill htrail⟩, hrun, hfill hlead', hfill htrail'⟩
    · rw [List.forall_mem_append, List.forall_mem_append]
      simpa [List.forall_mem_append, or_imp, forall_and] using
        ⟨⟨hlead, htrail⟩, hblank ' ' (by simp), hlead', htrail'⟩
  · subst hmiddle
    have htight := @block_tightens_lead (lead ++ (trail ++ (run ++ lead')))
      (lead ++ (trail ++ ([' '] ++ lead'))) middle' trail' (by
        simp only [List.forall_mem_append]
        exact ⟨hfill hlead, hfill htrail, hrun, hfill hlead'⟩) (by
        simp only [List.forall_mem_append]
        exact ⟨hlead, htrail, hblank, hlead'⟩) hmiddle' htrail' hhead' hlast'
    simpa using htight
  · subst hmiddle'
    have htight := @block_tightens_trail lead middle (trail ++ (run ++ (lead' ++ trail')))
      (trail ++ ([' '] ++ (lead' ++ trail'))) hlead hmiddle (by
        simp only [List.forall_mem_append]
        exact ⟨hfill htrail, hrun, hfill hlead', hfill htrail'⟩) (by
        simp only [List.forall_mem_append]
        exact ⟨htrail, hblank, hlead', htrail'⟩) hhead hlast
    simpa using htight
  · have htight := block_tightens_inside hlead htrail' hmiddle hmiddle' hhead hlast' hne hrun
      trail lead'
    simpa using htight

theorem exists_blank_cons (values : List (Option String)) :
    ∃ rest, (values.flatMap fun value => block (strip isJsSpace (value.getD "").toList)) ++ [' '] =
      ' ' :: rest := by
  induction values with
  | nil => exact ⟨[], rfl⟩
  | cons value values ih =>
    obtain ⟨rest, hrest⟩ := ih
    rw [List.flatMap_cons, List.append_assoc, hrest, block]
    split_ifs
    · exact ⟨rest, rfl⟩
    · exact ⟨_, rfl⟩

/-- Respacing a text makes it no looser. -/
theorem looseAlias_of_respaced {values values' : List (Option String)}
    (h : RespacedAt values values') (hloose : LooseAlias (loweredText values')) :
    LooseAlias (loweredText values) := by
  obtain ⟨before, text, text', after, htext, rfl, rfl⟩ := h
  obtain ⟨rest, hrest⟩ := exists_blank_cons after
  rw [looseAlias_loweredText_iff, List.flatMap_append, List.flatMap_cons, List.append_assoc,
    List.append_assoc, hrest, Option.getD_some] at hloose ⊢
  simpa using block_tightens htext _ rest (by simpa using hloose)

/-- **Spellings of a place.** Normalizing again changes nothing, and neither does a blank in the
place of a run of punctuation and white space, exactly when the text is not loose. -/
theorem respacing_iff (values : List (Option String)) :
    (normalizeLocationText [some (normalizeLocationText values)] = normalizeLocationText values ∧
        ∀ values', RespacedAt values values' →
          normalizeLocationText values' = normalizeLocationText values ∧
          (∀ place, containsPlace (normalizeLocationText values') place =
            containsPlace (normalizeLocationText values) place) ∧
          ∀ place place', values = [some place] → values' = [some place'] →
            ∀ text, containsPlace text place' = containsPlace text place) ↔
      ¬LooseAlias (loweredText values) := by
  rw [normalizeLocationText_idem_iff]
  refine ⟨fun h => h.1, fun hloose => ⟨hloose, fun values' hrespaced => ?_⟩⟩
  have hnormal : normalizeLocationText values' = normalizeLocationText values := by
    have hloose' : ¬LooseAlias (loweredText values') := fun h =>
      hloose (looseAlias_of_respaced hrespaced h)
    rw [normalizeLocationText_eq, normalizeLocationText_eq, words_spelled_of_not_loose hloose',
      words_spelled_of_not_loose hloose, words_loweredText_respaced hrespaced]
  refine ⟨hnormal, fun place => by rw [hnormal], ?_⟩
  rintro place place' rfl rfl text
  rw [containsPlace, containsPlace, hnormal]

/-- With a comma in it the phrase is not recognised: normalizing again replaces it, and a place
spelled so is not found where the same place without the comma is. -/
theorem comma_hides_alias :
    Respaced "Federal, Capital Territory" "Federal Capital Territory" ∧
      normalizeLocationText [some (normalizeLocationText [some "Federal, Capital Territory"])] ≠
        normalizeLocationText [some "Federal, Capital Territory"] ∧
      containsPlace (normalizeLocationText [some "Garki, FCT"]) "Federal, Capital Territory" =
        false ∧
      containsPlace (normalizeLocationText [some "Garki, FCT"]) "Federal Capital Territory" =
        true := by
  refine ⟨⟨"Federal".toList, ", ".toList, "Capital Territory".toList, by decide,
    List.all_eq_true.mp (by decide), rfl, rfl⟩, ?_⟩
  decide +kernel

end FixZone.Organization
