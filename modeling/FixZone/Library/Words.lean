import FixZone.Library.JsText

/-!
# Words

The words of a text are its maximal runs of kept characters, and `unwords` puts words back
together with one separator between any two. A text that is normalized by giving every run of
other characters one separator, and by stripping the separators at its ends, is its words put
back together (`strip_collapse`), so what such a text starts with, and what occurs in it between
separators, is a matter of its list of words (`unwords_prefix_iff`).
-/

namespace FixZone.Library

section Words

variable {α : Type*} {keep : α → Bool} {sep c : α} {cs w : List α} {ws : List (List α)}

/-- The maximal runs of kept characters. -/
def words (keep : α → Bool) (cs : List α) : List (List α) :=
  (cs.splitOnP fun c => !keep c).filter fun w => !w.isEmpty

/-- Words with one separator between any two. -/
abbrev unwords (sep : α) (ws : List (List α)) : List α := [sep].intercalate ws

/-- Words of kept characters. -/
def Words (keep : α → Bool) (ws : List (List α)) : Prop :=
  ∀ w ∈ ws, w ≠ [] ∧ ∀ c ∈ w, keep c

@[simp] theorem words_nil (keep : α → Bool) : words keep [] = [] := rfl

/-- A separator ends a word. -/
theorem words_append_cons (xs ys : List α) (hc : keep c = false) :
    words keep (xs ++ c :: ys) = words keep xs ++ words keep ys := by
  rw [words, List.splitOnP_append_cons xs ys (by simpa using hc), List.filter_append]
  rfl

theorem words_cons_of_not (hc : keep c = false) : words keep (c :: cs) = words keep cs := by
  simpa using words_append_cons [] cs hc

theorem words_of_forall (hne : w ≠ []) (hw : ∀ c ∈ w, keep c) : words keep w = [w] := by
  rw [words, List.splitOnP_eq_singleton (by simpa using hw)]
  simpa using hne

/-- A kept character goes to the word the next one is of. -/
theorem words_cons_cons {d : α} (hc : keep c) (hd : keep d) :
    words keep (c :: d :: cs) = (words keep (d :: cs)).modifyHead (c :: ·) := by
  obtain ⟨v, vs, hsplit⟩ := List.exists_cons_of_ne_nil
    (List.splitOnP_ne_nil (fun c => !keep c) cs)
  simp [words, List.splitOnP_cons_eq_if_modifyHead, hc, hd, hsplit]

theorem words_words (keep : α → Bool) (cs : List α) : Words keep (words keep cs) := by
  intro w hmem
  obtain ⟨hsplit, hne⟩ := List.mem_filter.mp hmem
  refine ⟨by simpa using hne, ?_⟩
  clear hmem hne
  induction cs generalizing w with
  | nil => simp_all
  | cons c cs ih =>
    rw [List.splitOnP_cons_eq_if_modifyHead] at hsplit
    split_ifs at hsplit with hc
    · rcases List.mem_cons.mp hsplit with rfl | hsplit
      · simp
      · exact ih w hsplit
    · obtain ⟨v, vs, hvs⟩ := List.exists_cons_of_ne_nil
        (List.splitOnP_ne_nil (fun c => !keep c) cs)
      rw [hvs, List.modifyHead_cons] at hsplit
      rw [hvs] at ih
      rcases List.mem_cons.mp hsplit with rfl | hsplit
      · rw [List.forall_mem_cons]
        exact ⟨by simpa using hc, ih v List.mem_cons_self⟩
      · exact ih w (List.mem_cons_of_mem v hsplit)

theorem Words.cons_iff : Words keep (w :: ws) ↔ (w ≠ [] ∧ ∀ c ∈ w, keep c) ∧ Words keep ws :=
  List.forall_mem_cons

theorem unwords_singleton (w : List α) : unwords sep [w] = w := List.intercalate_singleton

theorem unwords_cons (hws : ws ≠ []) : unwords sep (w :: ws) = w ++ sep :: unwords sep ws := by
  simp [unwords, List.intercalate_cons_of_ne_nil hws]

/-- So does any run of characters that are not kept. -/
theorem words_append_gap {gap : List α} (hne : gap ≠ []) (hgap : ∀ c ∈ gap, keep c = false)
    (xs ys : List α) : words keep (xs ++ (gap ++ ys)) = words keep xs ++ words keep ys := by
  induction gap generalizing xs with
  | nil => contradiction
  | cons c gap ih =>
    obtain ⟨hc, hrest⟩ := List.forall_mem_cons.mp hgap
    rw [List.cons_append, words_append_cons _ _ hc]
    by_cases hnil : gap = []
    · rw [hnil, List.nil_append]
    · simpa using congrArg (words keep xs ++ ·) (ih hnil hrest [])

/-- The words of texts with separators between them are those of the texts. -/
theorem words_intercalate (hsep : keep sep = false) (texts : List (List α)) :
    words keep ([sep].intercalate texts) = texts.flatMap (words keep) := by
  induction texts with
  | nil => rfl
  | cons text texts ih =>
    by_cases hnil : texts = []
    · simp [hnil]
    · rw [List.intercalate_cons_of_ne_nil hnil, List.append_assoc, List.singleton_append,
        words_append_cons text _ hsep, ih, List.flatMap_cons]

theorem flatMap_intercalate {f : α → List α} (hsep : f sep = [sep]) (texts : List (List α)) :
    ([sep].intercalate texts).flatMap f = [sep].intercalate (texts.map (List.flatMap f)) := by
  induction texts with
  | nil => rfl
  | cons text texts ih =>
    by_cases hnil : texts = []
    · simp [hnil]
    · rw [List.map_cons, List.intercalate_cons_of_ne_nil hnil,
        List.intercalate_cons_of_ne_nil (by simpa using hnil), List.flatMap_append,
        List.flatMap_append, ih, List.flatMap_singleton, hsep]

/-- Words put together are found again. -/
theorem words_unwords (hsep : keep sep = false) (hws : Words keep ws) :
    words keep (unwords sep ws) = ws := by
  induction ws with
  | nil => rfl
  | cons w ws ih =>
    obtain ⟨⟨hne, hw⟩, hrest⟩ := Words.cons_iff.mp hws
    by_cases hnil : ws = []
    · subst hnil
      rw [unwords, List.intercalate_singleton, words_of_forall hne hw]
    · rw [unwords_cons hnil, words_append_cons w _ hsep, words_of_forall hne hw, ih hrest]
      rfl

theorem unwords_eq_nil_iff (hws : Words keep ws) : unwords sep ws = [] ↔ ws = [] := by
  cases ws with
  | nil => simp
  | cons w ws =>
    obtain ⟨⟨hne, -⟩, -⟩ := Words.cons_iff.mp hws
    by_cases hnil : ws = []
    · simpa [hnil] using hne
    · simp [unwords_cons hnil]

/-- The characters of words put together. -/
theorem Words.mem_unwords (hws : Words keep ws) (hc : c ∈ unwords sep ws) : keep c ∨ c = sep := by
  induction ws with
  | nil => simp at hc
  | cons w ws ih =>
    obtain ⟨⟨-, hw⟩, hrest⟩ := Words.cons_iff.mp hws
    by_cases hnil : ws = []
    · subst hnil
      exact .inl (hw c (by simpa using hc))
    · rw [unwords_cons hnil, List.mem_append, List.mem_cons] at hc
      rcases hc with hc | rfl | hc
      · exact .inl (hw c hc)
      · exact .inr rfl
      · exact ih hrest hc

/-- The first word is what stands before the first separator. -/
theorem takeWhile_unwords (hsep : keep sep = false) (hws : Words keep (w :: ws)) :
    (unwords sep (w :: ws)).takeWhile keep = w := by
  obtain ⟨⟨-, hw⟩, -⟩ := Words.cons_iff.mp hws
  by_cases hnil : ws = []
  · subst hnil
    simpa [List.takeWhile_eq_self_iff] using hw
  · rw [unwords_cons hnil, List.takeWhile_append_of_pos hw,
      List.takeWhile_cons_of_neg (by simp [hsep]), List.append_nil]

/-- What the rest of a text begins with where a word of it has ended. -/
def AtBoundary (keep : α → Bool) (rest : List α) : Prop := ∀ c ∈ rest.head?, keep c = false

theorem AtBoundary.takeWhile {rest : List α} (hrest : AtBoundary keep rest) :
    rest.takeWhile keep = [] := by
  cases rest with
  | nil => rfl
  | cons c rest => rw [List.takeWhile_cons_of_neg (by simp [hrest c rfl])]

/-- A text starts with others' words, up to a boundary, when its words do. -/
theorem unwords_prefix_iff (hsep : keep sep = false) {ps : List (List α)} (hps : Words keep ps)
    (hne : ps ≠ []) (hws : Words keep ws) :
    (∃ rest, unwords sep ws = unwords sep ps ++ rest ∧ AtBoundary keep rest) ↔ ps <+: ws := by
  induction ps generalizing ws with
  | nil => contradiction
  | cons p ps ih =>
    obtain ⟨⟨hp, hkept⟩, hrest⟩ := Words.cons_iff.mp hps
    cases ws with
    | nil =>
      simp only [List.prefix_nil, List.cons_ne_nil, iff_false]
      rintro ⟨rest, hunwords, -⟩
      exact List.cons_ne_nil p ps
        ((unwords_eq_nil_iff hps).mp (List.append_eq_nil_iff.mp hunwords.symm).1)
    | cons w ws =>
      have hwsrest := (Words.cons_iff.mp hws).2
      rw [List.cons_prefix_cons]
      by_cases hnil : ps = []
      · subst hnil
        have hsingle : unwords sep [p] = p := List.intercalate_singleton
        simp only [hsingle, List.nil_prefix, and_true]
        constructor
        · rintro ⟨rest, hunwords, hboundary⟩
          have htake := takeWhile_unwords hsep hws
          rw [hunwords, List.takeWhile_append_of_pos hkept, hboundary.takeWhile,
            List.append_nil] at htake
          exact htake
        · rintro rfl
          by_cases hwnil : ws = []
          · exact ⟨[], by simp [hwnil], by simp [AtBoundary]⟩
          · exact ⟨sep :: unwords sep ws, unwords_cons hwnil, by simpa [AtBoundary] using hsep⟩
      · rw [unwords_cons hnil, ← ih hrest hnil hwsrest]
        constructor
        · rintro ⟨rest, hunwords, hboundary⟩
          have htake := takeWhile_unwords hsep hws
          rw [hunwords, List.append_assoc, List.cons_append, List.takeWhile_append_of_pos hkept,
            List.takeWhile_cons_of_neg (by simp [hsep]), List.append_nil] at htake
          subst htake
          by_cases hwnil : ws = []
          · simp [hwnil, unwords] at hunwords
          · rw [unwords_cons hwnil, List.append_assoc, List.append_cancel_left_eq, List.cons_append,
              List.cons.injEq] at hunwords
            exact ⟨rfl, rest, hunwords.2, hboundary⟩
        · rintro ⟨rfl, rest, hunwords, hboundary⟩
          have hwnil : ws ≠ [] := by
            rintro rfl
            exact hnil ((unwords_eq_nil_iff hrest).mp (List.append_eq_nil_iff.mp hunwords.symm).1)
          exact ⟨rest, by rw [unwords_cons hwnil, hunwords]; simp, hboundary⟩

/-! ### Fragments -/

section Separated

variable {xs ys p : List α}

theorem prefix_append_cons_iff (hp : sep ∉ p) : p <+: xs ++ sep :: ys ↔ p <+: xs := by
  induction xs generalizing p with
  | nil =>
    cases p with
    | nil => simp
    | cons d p =>
      rw [List.mem_cons, not_or] at hp
      simp [List.cons_prefix_cons, Ne.symm hp.1]
  | cons c xs ih =>
    cases p with
    | nil => simp
    | cons d p =>
      rw [List.mem_cons, not_or] at hp
      rw [List.cons_append, List.cons_prefix_cons, List.cons_prefix_cons, ih hp.2]

theorem infix_append_cons_iff (hp : sep ∉ p) :
    p <:+: xs ++ sep :: ys ↔ p <:+: xs ∨ p <:+: ys := by
  induction xs with
  | nil =>
    have hstart : p <+: [] ++ sep :: ys ↔ p <+: [] := prefix_append_cons_iff hp
    rw [List.nil_append] at hstart
    rw [List.nil_append, List.infix_cons_iff, hstart, List.prefix_nil, List.infix_nil]
  | cons c xs ih =>
    have hstart : p <+: c :: xs ++ sep :: ys ↔ p <+: c :: xs := prefix_append_cons_iff hp
    rw [List.cons_append] at hstart
    rw [List.cons_append, List.infix_cons_iff, List.infix_cons_iff, ih, hstart, or_assoc]

/-- The first separators stand in the same place. -/
theorem append_cons_prefix_iff {ps : List α} (hp : sep ∉ p) (hxs : sep ∉ xs) :
    p ++ sep :: ps <+: xs ++ sep :: ys ↔ p = xs ∧ ps <+: ys := by
  induction p generalizing xs with
  | nil =>
    cases xs with
    | nil => simp
    | cons c xs =>
      rw [List.mem_cons, not_or] at hxs
      simp [List.cons_prefix_cons, hxs.1]
  | cons d p ih =>
    rw [List.mem_cons, not_or] at hp
    cases xs with
    | nil => simp [List.cons_prefix_cons, Ne.symm hp.1]
    | cons c xs =>
      rw [List.mem_cons, not_or] at hxs
      rw [List.cons_append, List.cons_append, List.cons_prefix_cons, ih hp.2 hxs.2, List.cons.injEq,
        and_assoc]

theorem append_cons_infix_iff {ps : List α} (hp : sep ∉ p) (hxs : sep ∉ xs) :
    p ++ sep :: ps <:+: xs ++ sep :: ys ↔
      (p <:+ xs ∧ ps <+: ys) ∨ p ++ sep :: ps <:+: ys := by
  induction xs with
  | nil =>
    have hstart : p ++ sep :: ps <+: [] ++ sep :: ys ↔ p = [] ∧ ps <+: ys :=
      append_cons_prefix_iff hp hxs
    rw [List.nil_append] at hstart
    rw [List.nil_append, List.infix_cons_iff, hstart, List.suffix_nil]
  | cons c xs ih =>
    have hstart : p ++ sep :: ps <+: c :: xs ++ sep :: ys ↔ p = c :: xs ∧ ps <+: ys :=
      append_cons_prefix_iff hp hxs
    rw [List.cons_append] at hstart
    rw [List.cons_append, List.infix_cons_iff, hstart, ih fun h => hxs (List.mem_cons_of_mem c h),
      List.suffix_cons_iff]
    tauto

end Separated

/-- Words at the start of others, the last perhaps only as the start of a word. -/
inductive StartsWithin : List (List α) → List (List α) → Prop where
  /-- The last word starts a word. -/
  | last {q w : List α} {ws : List (List α)} : q <+: w → StartsWithin [q] (w :: ws)
  /-- A word before it is a word. -/
  | cons {w : List α} {ps ws : List (List α)} :
      StartsWithin ps ws → StartsWithin (w :: ps) (w :: ws)

/-- Words next to each other among others, the first perhaps only as the end of a word, the last
as the start of one, and a single one anywhere in a word. -/
inductive OccursWithin : List (List α) → List (List α) → Prop where
  /-- A single word is in a word. -/
  | single {p w : List α} {ws : List (List α)} : p <:+: w → OccursWithin [p] (w :: ws)
  /-- The first word ends a word, and the others follow. -/
  | first {p w : List α} {ps ws : List (List α)} :
      p <:+ w → StartsWithin ps ws → OccursWithin (p :: ps) (w :: ws)
  /-- They occur further on. -/
  | later {w : List α} {ps ws : List (List α)} : OccursWithin ps ws → OccursWithin ps (w :: ws)

theorem not_startsWithin_nil {ps : List (List α)} : ¬StartsWithin ps [] := nofun

theorem not_occursWithin_nil {ps : List (List α)} : ¬OccursWithin ps [] := nofun

theorem startsWithin_single_iff {q w : List α} {ws : List (List α)} :
    StartsWithin [q] (w :: ws) ↔ q <+: w := by
  constructor
  · intro h
    cases h with
    | last h => exact h
    | cons h => cases h
  · exact .last

theorem startsWithin_cons_iff {p w : List α} {ps ws : List (List α)} (hps : ps ≠ []) :
    StartsWithin (p :: ps) (w :: ws) ↔ p = w ∧ StartsWithin ps ws := by
  constructor
  · intro h
    cases h with
    | last => exact absurd rfl hps
    | cons h => exact ⟨rfl, h⟩
  · rintro ⟨rfl, h⟩
    exact .cons h

theorem occursWithin_single_iff {p w : List α} {ws : List (List α)} :
    OccursWithin [p] (w :: ws) ↔ p <:+: w ∨ OccursWithin [p] ws := by
  constructor
  · intro h
    cases h with
    | single h => exact .inl h
    | first _ h => cases h
    | later h => exact .inr h
  · rintro (h | h)
    · exact .single h
    · exact .later h

theorem occursWithin_cons_iff {p w : List α} {ps ws : List (List α)} (hps : ps ≠ []) :
    OccursWithin (p :: ps) (w :: ws) ↔
      (p <:+ w ∧ StartsWithin ps ws) ∨ OccursWithin (p :: ps) ws := by
  constructor
  · intro h
    cases h with
    | single => exact absurd rfl hps
    | first hp h => exact .inl ⟨hp, h⟩
    | later h => exact .inr h
  · rintro (⟨hp, h⟩ | h)
    · exact .first hp h
    · exact .later h

theorem Words.not_mem (hsep : keep sep = false) (hws : Words keep ws) : ∀ w ∈ ws, sep ∉ w := by
  intro w hw hmem
  simp [(hws w hw).2 sep hmem] at hsep

/-- A text starts with others' words where they start within its words. -/
theorem unwords_prefix_unwords_iff (hsep : keep sep = false) {ps : List (List α)}
    (hps : Words keep ps) (hne : ps ≠ []) (hws : Words keep ws) :
    unwords sep ps <+: unwords sep ws ↔ StartsWithin ps ws := by
  induction ps generalizing ws with
  | nil => contradiction
  | cons p ps ih =>
    have hp : sep ∉ p := hps.not_mem hsep p List.mem_cons_self
    cases ws with
    | nil =>
      have hunwords := (@unwords_eq_nil_iff _ keep sep _ hps).not.mpr (List.cons_ne_nil p ps)
      exact iff_of_false (fun h => hunwords (List.prefix_nil.mp h)) not_startsWithin_nil
    | cons w ws =>
      have hw : sep ∉ w := hws.not_mem hsep w List.mem_cons_self
      by_cases hnil : ps = []
      · subst hnil
        rw [startsWithin_single_iff, unwords_singleton]
        by_cases hwnil : ws = []
        · rw [hwnil, unwords_singleton]
        · rw [unwords_cons hwnil, prefix_append_cons_iff hp]
      · rw [startsWithin_cons_iff hnil, unwords_cons hnil]
        by_cases hwnil : ws = []
        · subst hwnil
          refine iff_of_false (fun h => hw ?_) fun h => not_startsWithin_nil h.2
          rw [unwords_singleton] at h
          exact h.subset (by simp)
        · rw [unwords_cons hwnil, append_cons_prefix_iff hp hw,
            ih (Words.cons_iff.mp hps).2 hnil (Words.cons_iff.mp hws).2]

/-- A text occurs in another exactly when its words occur within the other's. -/
theorem unwords_infix_iff (hsep : keep sep = false) {ps : List (List α)}
    (hps : Words keep ps) (hne : ps ≠ []) (hws : Words keep ws) :
    unwords sep ps <:+: unwords sep ws ↔ OccursWithin ps ws := by
  have hunwords := (@unwords_eq_nil_iff _ keep sep _ hps).not.mpr hne
  have hnone : ¬unwords sep ps <:+: unwords sep [] := fun h => hunwords (List.infix_nil.mp h)
  obtain ⟨p, ps, rfl⟩ := List.exists_cons_of_ne_nil hne
  have hp : sep ∉ p := hps.not_mem hsep p List.mem_cons_self
  induction ws with
  | nil => exact iff_of_false hnone not_occursWithin_nil
  | cons w ws ih =>
    have hw : sep ∉ w := hws.not_mem hsep w List.mem_cons_self
    have hrest := (Words.cons_iff.mp hws).2
    have hlater : OccursWithin (p :: ps) ws ↔ unwords sep (p :: ps) <:+: unwords sep ws :=
      (ih hrest).symm
    by_cases hnil : ps = []
    · subst hnil
      rw [unwords_singleton] at hlater hnone ⊢
      rw [occursWithin_single_iff, hlater]
      by_cases hwnil : ws = []
      · rw [hwnil, unwords_singleton, or_iff_left hnone]
      · rw [unwords_cons hwnil, infix_append_cons_iff hp]
    · rw [occursWithin_cons_iff hnil, hlater, unwords_cons hnil]
      by_cases hwnil : ws = []
      · subst hwnil
        rw [unwords_cons hnil] at hnone
        rw [or_iff_left hnone]
        refine iff_of_false (fun h => hw ?_) fun h => not_startsWithin_nil h.2
        rw [unwords_singleton] at h
        exact h.subset (by simp)
      · rw [unwords_cons hwnil, append_cons_infix_iff hp hw,
          unwords_prefix_unwords_iff hsep (Words.cons_iff.mp hps).2 hnil hrest]

end Words

section Normalized

variable {keep : Char → Bool} {sep : Char}

theorem strip_congr {p q : Char → Bool} {cs : List Char} (h : ∀ c ∈ cs, p c = q c) :
    strip p cs = strip q cs := by
  have hdrop : ∀ l : List Char, (∀ c ∈ l, p c = q c) → l.dropWhile p = l.dropWhile q := by
    intro l hl
    induction l with
    | nil => rfl
    | cons c l ih =>
      simp only [List.dropWhile_cons, hl c List.mem_cons_self,
        ih fun d hd => hl d (List.mem_cons_of_mem c hd)]
  rw [strip, strip, hdrop cs h, hdrop]
  exact fun c hc => h c ((List.dropWhile_suffix q).subset (List.mem_reverse.mp hc))

/-- Stripping leaves what stands between the runs at the ends. -/
theorem strip_append_append {p : Char → Bool} {lead middle trail : List Char}
    (hlead : ∀ c ∈ lead, p c) (htrail : ∀ c ∈ trail, p c)
    (hhead : ∀ c ∈ middle.head?, p c = false) (hlast : ∀ c ∈ middle.getLast?, p c = false) :
    strip p (lead ++ (middle ++ trail)) = middle := by
  have hdrop : ∀ {l t : List Char}, (∀ c ∈ l, p c) → (∀ c ∈ t.head?, p c = false) →
      (l ++ t).dropWhile p = t := by
    intro l t hl ht
    rw [List.dropWhile_append_of_pos hl]
    cases t with
    | nil => rfl
    | cons c t => rw [List.dropWhile_cons_of_neg (by simp [ht c rfl])]
  by_cases hmiddle : middle = []
  · subst hmiddle
    have hall : ∀ c ∈ lead ++ ([] ++ trail), p c := by
      simpa [or_imp, forall_and] using ⟨hlead, htrail⟩
    rw [strip, List.dropWhile_eq_nil_iff.mpr hall]
    rfl
  · obtain ⟨d, rest, hcons⟩ := List.exists_cons_of_ne_nil hmiddle
    have hfront : ∀ c ∈ (middle ++ trail).head?, p c = false := by
      rw [hcons] at hhead ⊢
      exact hhead
    rw [strip, hdrop hlead hfront, List.reverse_append,
      hdrop (by simpa using htrail) (by simpa using hlast), List.reverse_reverse]

theorem strip_eq_nil {p : Char → Bool} {cs : List Char} (h : ∀ c ∈ cs, p c) : strip p cs = [] := by
  rw [strip, List.dropWhile_eq_nil_iff.mpr h]
  rfl

/-- Every text is a run, what stripping leaves, and a run. -/
theorem exists_strip_append (p : Char → Bool) (cs : List Char) :
    ∃ lead middle trail, cs = lead ++ (middle ++ trail) ∧ (∀ c ∈ lead, p c) ∧ (∀ c ∈ trail, p c) ∧
      (∀ c ∈ middle.head?, p c = false) ∧ ∀ c ∈ middle.getLast?, p c = false := by
  refine ⟨cs.takeWhile p, (cs.dropWhile p).rdropWhile p, (cs.dropWhile p).rtakeWhile p, ?_,
    fun c => List.mem_takeWhile_imp, fun c => List.mem_rtakeWhile_imp, ?_, ?_⟩
  · rw [List.rdropWhile_append_rtakeWhile, List.takeWhile_append_dropWhile]
  · intro c hc
    obtain ⟨rest, hrest⟩ := List.rdropWhile_prefix p (cs.dropWhile p)
    obtain ⟨front, hfront⟩ := List.head?_eq_some_iff.mp hc
    have hhead := List.head?_dropWhile_not p cs
    rw [← hrest, hfront] at hhead
    simpa using hhead
  · intro c hc
    obtain ⟨hne, rfl⟩ := List.mem_getLast?_eq_getLast hc
    simpa using List.rdropWhile_last_not p _ hne

/-- What a character stripped from either end does not change, stripping does not change. -/
theorem strip_induction {p : Char → Bool} {γ : Type*} {g : List Char → γ}
    (hcons : ∀ c cs, p c → g (c :: cs) = g cs) (hconcat : ∀ cs c, p c → g (cs ++ [c]) = g cs)
    (cs : List Char) : g (strip p cs) = g cs := by
  have hdrop : ∀ l, g (l.dropWhile p) = g l := by
    intro l
    induction l with
    | nil => rfl
    | cons c l ih =>
      by_cases hc : p c
      · rw [List.dropWhile_cons_of_pos hc, ih, hcons c l hc]
      · rw [List.dropWhile_cons_of_neg hc]
  have hrdrop : ∀ l : List Char, g (l.rdropWhile p) = g l := by
    intro l
    induction l using List.reverseRecOn with
    | nil => rfl
    | append_singleton l c ih =>
      by_cases hc : p c
      · rw [List.rdropWhile_concat_pos _ _ _ hc, ih, hconcat l c hc]
      · rw [List.rdropWhile_concat_neg _ _ _ hc]
  exact (hrdrop _).trans (hdrop cs)

theorem infix_dropWhile_iff {p : Char → Bool} {t : List Char} (hhead : ∀ c ∈ t.head?, p c = false)
    (cs : List Char) : t <:+: cs.dropWhile p ↔ t <:+: cs := by
  induction cs with
  | nil => rfl
  | cons c cs ih =>
    by_cases hc : p c
    · have hstart : t <+: c :: cs → t <:+: cs := by
        intro h
        cases t with
        | nil => simp
        | cons d t =>
          rw [List.cons_prefix_cons] at h
          have := hhead d rfl
          simp [h.1, hc] at this
      rw [List.dropWhile_cons_of_pos hc, ih, List.infix_cons_iff, or_iff_right_of_imp hstart]
    · rw [List.dropWhile_cons_of_neg hc]

/-- A text that neither starts nor ends with a character stripped is not cut. -/
theorem infix_strip_iff {p : Char → Bool} {t : List Char} (hhead : ∀ c ∈ t.head?, p c = false)
    (hlast : ∀ c ∈ t.getLast?, p c = false) (cs : List Char) :
    t <:+: strip p cs ↔ t <:+: cs := by
  rw [strip, ← List.reverse_infix, List.reverse_reverse,
    infix_dropWhile_iff (by simpa using hlast), List.reverse_infix, infix_dropWhile_iff hhead]

theorem length_strip_le (p : Char → Bool) (cs : List Char) : (strip p cs).length ≤ cs.length := by
  have hle := ((cs.dropWhile p).reverse.dropWhile_suffix p).length_le
  have hle' := (cs.dropWhile_suffix p).length_le
  simp only [strip, List.length_reverse] at hle ⊢
  omega

theorem length_collapse_le (inRun : Bool) (cs : List Char) :
    (collapse keep sep inRun cs).length ≤ cs.length := by
  induction cs generalizing inRun with
  | nil => rfl
  | cons c cs ih =>
    unfold collapse
    split_ifs
    · simpa using ih false
    · exact (ih true).trans (by simp)
    · simpa using ih true

theorem collapse_append (inRun : Bool) (xs : List Char) :
    ∃ inRun', ∀ ys, collapse keep sep inRun (xs ++ ys) =
      collapse keep sep inRun xs ++ collapse keep sep inRun' ys := by
  induction xs generalizing inRun with
  | nil => exact ⟨inRun, fun ys => rfl⟩
  | cons c xs ih =>
    obtain ⟨afterKept, hkept⟩ := ih false
    obtain ⟨afterRun, hrun⟩ := ih true
    by_cases hc : keep c
    · exact ⟨afterKept, fun ys => by simp [collapse, hc, hkept]⟩
    · exact ⟨afterRun, fun ys => by cases inRun <;> simp [collapse, hc, hrun]⟩

theorem collapse_append_of_forall {w : List Char} (hne : w ≠ []) (hw : ∀ c ∈ w, keep c)
    (inRun : Bool) (ys : List Char) :
    collapse keep sep inRun (w ++ ys) = w ++ collapse keep sep false ys := by
  induction w generalizing inRun with
  | nil => contradiction
  | cons c w ih =>
    obtain ⟨hc, hrest⟩ := List.forall_mem_cons.mp hw
    rw [List.cons_append, collapse, if_pos hc]
    by_cases hnil : w = []
    · simp [hnil]
    · rw [ih hnil hrest, List.cons_append]

/-- Collapsing runs of fewer characters first changes nothing, also when the characters that are
left are then spelled out. -/
theorem collapse_flatMap_collapse {hard : Char → Bool} {spell : Char → List Char}
    (hsep : hard sep = false)
    (hsoft : ∀ c, hard c = false → spell c = [c] ∧ keep c = false)
    {inRun inRun' : Bool} (hrun : inRun' → inRun) (cs : List Char) :
    collapse keep sep inRun ((collapse hard sep inRun' cs).flatMap spell) =
      collapse keep sep inRun (cs.flatMap spell) := by
  obtain ⟨hspell, hkeep⟩ := hsoft sep hsep
  induction cs generalizing inRun inRun' with
  | nil => rfl
  | cons c cs ih =>
    by_cases hc : hard c
    · obtain ⟨after, hafter⟩ := @collapse_append keep sep inRun (spell c)
      rw [collapse, if_pos hc, List.flatMap_cons, List.flatMap_cons, hafter, hafter,
        ih (by simp)]
    · obtain ⟨hspellc, hkeepc⟩ := hsoft c (by simpa using hc)
      cases inRun' with
      | true =>
        obtain rfl : inRun = true := hrun rfl
        rw [collapse, if_neg hc, if_pos rfl, ih (fun _ => rfl), List.flatMap_cons, hspellc]
        simp [collapse, hkeepc]
      | false =>
        rw [collapse, if_neg hc, if_neg (by simp), List.flatMap_cons, List.flatMap_cons, hspellc,
          hspell]
        cases inRun <;> simp [collapse, hkeep, hkeepc, ih]

theorem collapse_congr {keep' : Char → Bool} {inRun : Bool} {cs : List Char}
    (h : ∀ c ∈ cs, keep c = keep' c) : collapse keep sep inRun cs =
      collapse keep' sep inRun cs := by
  induction cs generalizing inRun with
  | nil => rfl
  | cons c cs ih =>
    have hrest : ∀ d ∈ cs, keep d = keep' d := fun d hd => h d (List.mem_cons_of_mem c hd)
    rw [collapse, collapse, h c List.mem_cons_self, ih hrest, ih hrest]

theorem dropWhile_collapse (hsep : keep sep = false) (inRun : Bool) (cs : List Char) :
    (collapse keep sep inRun cs).dropWhile (· = sep) = collapse keep sep true cs := by
  induction cs generalizing inRun with
  | nil => rfl
  | cons c cs ih =>
    have hdrop := ih true
    by_cases hkeep : keep c
    · have hne : c ≠ sep := by
        rintro rfl
        simp [hsep] at hkeep
      simp [collapse, hkeep, hne]
    · cases inRun <;> simp [collapse, hkeep, hdrop]

theorem rdropWhile_cons (p : Char → Bool) (c : Char) (cs : List Char) :
    (c :: cs).rdropWhile p =
      if p c ∧ cs.rdropWhile p = [] then [] else c :: cs.rdropWhile p := by
  by_cases hc : p c <;> by_cases hcs : cs.reverse.dropWhile p = [] <;>
    simp [List.rdropWhile, List.dropWhile_append, hc, hcs]

/-- Collapsed after a run or after a kept character, a text is its words put together once the
separators at its end are gone. -/
theorem rdropWhile_collapse (hsep : keep sep = false) (cs : List Char) :
    (collapse keep sep true cs).rdropWhile (· = sep) = unwords sep (words keep cs) ∧
      ∀ c, keep c → c :: (collapse keep sep false cs).rdropWhile (· = sep) =
        unwords sep (words keep (c :: cs)) := by
  induction cs with
  | nil =>
    refine ⟨rfl, fun c hc => ?_⟩
    rw [words_of_forall (by simp) (by simpa using hc)]
    simp [collapse, unwords]
  | cons d cs ih =>
    obtain ⟨hgap, hword⟩ := ih
    cases hd : keep d with
    | true =>
      have hne : d ≠ sep := by
        rintro rfl
        simp [hsep] at hd
      have hcons : d :: (collapse keep sep false cs).rdropWhile (· = sep) =
          unwords sep (words keep (d :: cs)) := hword d hd
      have hrdrop : (d :: collapse keep sep false cs).rdropWhile (· = sep) =
          unwords sep (words keep (d :: cs)) := by
        rw [rdropWhile_cons, if_neg (by simp [hne]), hcons]
      refine ⟨by simpa [collapse, hd] using hrdrop, fun c hc => ?_⟩
      rw [collapse, if_pos hd, hrdrop, words_cons_cons hc hd]
      obtain ⟨v, vs, hwords⟩ : ∃ v vs, words keep (d :: cs) = v :: vs := by
        refine List.exists_cons_of_ne_nil fun hnil => ?_
        simp [hnil, unwords] at hcons
      rw [hwords, List.modifyHead_cons]
      by_cases hvs : vs = []
      · simp [hvs, unwords]
      · rw [unwords_cons hvs, unwords_cons hvs, List.cons_append]
    | false =>
      refine ⟨by simpa [collapse, hd, words_cons_of_not hd] using hgap, fun c hc => ?_⟩
      rw [show c :: d :: cs = [c] ++ d :: cs from rfl, words_append_cons [c] cs hd,
        words_of_forall (by simp) (by simpa using hc), List.singleton_append]
      simp only [collapse, hd, Bool.false_eq_true, if_false, rdropWhile_cons, hgap,
        decide_true, true_and, unwords_eq_nil_iff (words_words keep cs)]
      by_cases hnil : words keep cs = []
      · simp [hnil, unwords]
      · rw [if_neg hnil, unwords_cons hnil, List.singleton_append]

/-- Runs of other characters made one separator and the ends stripped: the words put together. -/
theorem strip_collapse (hsep : keep sep = false) (cs : List Char) :
    strip (· = sep) (collapse keep sep false cs) = unwords sep (words keep cs) := by
  rw [← (rdropWhile_collapse hsep cs).1, ← dropWhile_collapse hsep false]
  rfl

/-- What becomes of the other characters makes no difference, as long as none is kept. -/
theorem collapse_map {f : Char → Char} (hkeep : ∀ c, keep c → f c = c)
    (hother : ∀ c, keep c = false → keep (f c) = false) (inRun : Bool) (cs : List Char) :
    collapse keep sep inRun (cs.map f) = collapse keep sep inRun cs := by
  induction cs generalizing inRun with
  | nil => rfl
  | cons c cs ih =>
    cases hc : keep c with
    | true => simp [collapse, hkeep c hc, hc, ih]
    | false => simp [collapse, hother c hc, hc, ih]

theorem words_eq_of_collapse_eq (hsep : keep sep = false) {xs ys : List Char}
    (h : collapse keep sep false xs = collapse keep sep false ys) :
    words keep xs = words keep ys := by
  rw [← words_unwords hsep (words_words keep xs), ← strip_collapse hsep, h, strip_collapse hsep,
    words_unwords hsep (words_words keep ys)]

end Normalized

end FixZone.Library
