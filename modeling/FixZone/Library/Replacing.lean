import FixZone.Library.Words

/-!
# Replacing a part of a text

`replaceAll` reads a text once from its start: where the part stands it writes the replacement
and goes on after the part, everywhere else it copies a character (`replaceAll_induction`). When
the first character of the part, of its replacement and of a third text occurs in none of them
again, that third text comes through a replacement exactly where it is not a start of the part
(`infix_replaceAll_iff`). A class of characters that a text is collapsed by may first be
collapsed further out (`collapse_flatMap`).
-/

namespace FixZone.Library

section Replacing

variable {part by' cs : List Char}

theorem replaceAll_skip (xs ys : List Char) :
    replaceAll part by' xs.length (xs ++ ys) = replaceAll part by' 0 ys := by
  induction xs with
  | nil => rfl
  | cons x xs ih => exact ih

theorem replaceAll_append (hne : part ≠ []) (ys : List Char) :
    replaceAll part by' 0 (part ++ ys) = by' ++ replaceAll part by' 0 ys := by
  obtain ⟨c, rest, rfl⟩ := List.exists_cons_of_ne_nil hne
  rw [List.cons_append, replaceAll, if_pos (by simp), ← replaceAll_skip rest ys]
  rfl

theorem replaceAll_cons {c : Char} (h : ¬part <+: c :: cs) :
    replaceAll part by' 0 (c :: cs) = c :: replaceAll part by' 0 cs := by
  rw [replaceAll, if_neg (by simpa using h)]

/-- A text is read from its start: the part, or one character where the part does not stand. -/
theorem replaceAll_induction (hne : part ≠ []) {motive : List Char → Prop} (nil : motive [])
    (append : ∀ ys, motive ys → motive (part ++ ys))
    (cons : ∀ c cs, ¬part <+: c :: cs → motive cs → motive (c :: cs)) (cs : List Char) :
    motive cs := by
  induction hlength : cs.length using Nat.strong_induction_on generalizing cs with
  | _ n ih =>
    subst hlength
    by_cases hpart : part <+: cs
    · obtain ⟨ys, rfl⟩ := hpart
      refine append ys (ih ys.length ?_ ys rfl)
      simpa using List.length_pos_iff.mpr hne
    · cases cs with
      | nil => exact nil
      | cons c cs => exact cons c cs hpart (ih cs.length (by simp) cs rfl)

theorem replaceAll_of_not_infix (h : ¬part <:+: cs) : replaceAll part by' 0 cs = cs := by
  induction cs with
  | nil => rfl
  | cons c cs ih =>
    rw [List.infix_cons_iff, not_or] at h
    rw [replaceAll_cons h.1, ih h.2]

/-- A character the part does not end with is copied at the end of a text. -/
theorem replaceAll_concat {c : Char} (hne : part ≠ []) (hlast : c ∉ part.getLast?)
    (cs : List Char) :
    replaceAll part by' 0 (cs ++ [c]) = replaceAll part by' 0 cs ++ [c] := by
  have hstart : ∀ xs, part <+: xs ++ [c] → part <+: xs := by
    intro xs h
    rcases List.prefix_concat_iff.mp h with rfl | h
    · simp at hlast
    · exact h
  induction cs using replaceAll_induction hne with
  | nil =>
    rw [List.nil_append, replaceAll_cons fun h => hne (List.prefix_nil.mp (hstart [] h))]
    rfl
  | append ys ih =>
    rw [List.append_assoc, replaceAll_append hne, ih, replaceAll_append hne, List.append_assoc]
  | cons d cs hpart ih =>
    have hend : ¬part <+: d :: (cs ++ [c]) := fun h => hpart (hstart _ h)
    rw [List.cons_append, replaceAll_cons hend, ih, replaceAll_cons hpart, List.cons_append]

theorem mem_replaceAll (hne : part ≠ []) {c : Char} (hc : c ∈ replaceAll part by' 0 cs) :
    c ∈ by' ∨ c ∈ cs := by
  induction cs using replaceAll_induction hne with
  | nil => exact .inr hc
  | append ys ih =>
    rw [replaceAll_append hne, List.mem_append] at hc
    exact hc.elim .inl fun h => (ih h).imp_right (List.mem_append_right part)
  | cons d cs hpart ih =>
    rw [replaceAll_cons hpart, List.mem_cons] at hc
    rcases hc with rfl | hc
    · exact .inr List.mem_cons_self
    · exact (ih hc).imp_right (List.mem_cons_of_mem d)

theorem length_replaceAll_le (hne : part ≠ []) (hlength : by'.length ≤ part.length)
    (cs : List Char) : (replaceAll part by' 0 cs).length ≤ cs.length := by
  induction cs using replaceAll_induction hne with
  | nil => rfl
  | append ys ih =>
    rw [replaceAll_append hne]
    simp only [List.length_append]
    omega
  | cons c cs hpart ih =>
    rw [replaceAll_cons hpart]
    simpa using ih

/-- A shorter replacement shortens a text the part occurs in. -/
theorem length_replaceAll_lt (hne : part ≠ []) (hlength : by'.length < part.length)
    (h : part <:+: cs) : (replaceAll part by' 0 cs).length < cs.length := by
  induction cs using replaceAll_induction hne with
  | nil => exact absurd (List.infix_nil.mp h) hne
  | append ys ih =>
    have hle := length_replaceAll_le hne hlength.le ys
    rw [replaceAll_append hne]
    simp only [List.length_append]
    omega
  | cons c cs hpart ih =>
    rw [replaceAll_cons hpart]
    simpa using ih ((List.infix_cons_iff.mp h).resolve_left hpart)

/-- One character is replaced wherever it stands. -/
theorem replaceAll_singleton (a : Char) (by' cs : List Char) :
    replaceAll [a] by' 0 cs = cs.flatMap fun c => if c = a then by' else [c] := by
  induction cs with
  | nil => rfl
  | cons c cs ih =>
    rw [List.flatMap_cons, ← ih]
    by_cases hc : c = a
    · subst hc
      rw [if_pos rfl, ← replaceAll_append (by simp) cs]
      rfl
    · rw [if_neg hc, replaceAll_cons (by simpa [eq_comm] using hc)]
      rfl

/-- A text may be collapsed before a part is replaced, unless collapsing brings the part about. -/
theorem collapse_replaceAll {hard : Char → Bool} {sep : Char} (hne : part ≠ [])
    (hsep : sep ∉ part.head?)
    (hpart : ∀ inRun ys, collapse hard sep inRun (part ++ ys) = part ++ collapse hard sep false ys)
    (hby : by' ≠ []) (hhard : ∀ c ∈ by', hard c) (inRun : Bool)
    (hfree : ∀ ys, ys <:+ cs → part <+: collapse hard sep false ys → part <+: ys) :
    collapse hard sep inRun (replaceAll part by' 0 cs) =
      replaceAll part by' 0 (collapse hard sep inRun cs) := by
  induction cs using replaceAll_induction hne generalizing inRun with
  | nil => rfl
  | append ys ih =>
    rw [replaceAll_append hne, collapse_append_of_forall hby hhard, hpart, replaceAll_append hne,
      ih false fun zs hzs => hfree zs (hzs.trans (List.suffix_append part ys))]
  | cons c cs hstart ih =>
    have ih' := fun b => ih b fun zs hzs => hfree zs (hzs.trans (List.suffix_cons c cs))
    rw [replaceAll_cons hstart]
    by_cases hc : hard c
    · have hkept : ¬part <+: c :: collapse hard sep false cs := by
        intro h
        refine hstart (hfree (c :: cs) List.suffix_rfl ?_)
        rwa [collapse, if_pos hc]
      rw [collapse, if_pos hc, ih', collapse, if_pos hc, replaceAll_cons hkept]
    · have hgap : ∀ ys, ¬part <+: sep :: ys := by
        intro ys h
        obtain ⟨d, rest, rfl⟩ := List.exists_cons_of_ne_nil hne
        rw [List.cons_prefix_cons] at h
        exact hsep (by simp [h.1])
      cases inRun with
      | true => rw [collapse, if_neg hc, if_pos rfl, ih', collapse, if_neg hc, if_pos rfl]
      | false =>
        rw [collapse, if_neg hc, if_neg (by simp), ih', collapse, if_neg hc, if_neg (by simp),
          replaceAll_cons (hgap _)]

/-! ### What comes through a replacement -/

section Through

variable {f : Char} {rest rest' u t : List Char}

/-- Without the first character of the part a text is copied. -/
theorem replaceAll_append_of_not_mem (ht : f ∉ t) (ys : List Char) :
    replaceAll (f :: rest) by' 0 (t ++ ys) = t ++ replaceAll (f :: rest) by' 0 ys := by
  induction t with
  | nil => rfl
  | cons c t ih =>
    rw [List.mem_cons, not_or] at ht
    rw [List.cons_append, replaceAll_cons (by simp [List.cons_prefix_cons, ht.1]), ih ht.2,
      List.cons_append]

theorem prefix_of_prefix_replaceAll (ht : f ∉ t)
    (h : t <+: replaceAll (f :: rest) (f :: rest') 0 cs) : t <+: cs := by
  induction cs using replaceAll_induction (List.cons_ne_nil f rest) generalizing t with
  | nil => simpa [replaceAll] using h
  | append ys ih =>
    rw [replaceAll_append (by simp)] at h
    cases t with
    | nil => simp
    | cons c t =>
      rw [List.cons_append, List.cons_prefix_cons] at h
      exact absurd h.1 (by rintro rfl; simp at ht)
  | cons c cs hpart ih =>
    rw [replaceAll_cons hpart] at h
    cases t with
    | nil => simp
    | cons d t =>
      rw [List.cons_prefix_cons] at h ⊢
      exact ⟨h.1, ih (fun hmem => ht (List.mem_cons_of_mem d hmem)) h.2⟩

/-- A text that does not start the replacement is in what comes out exactly if it was in the text
before, where the part did not stand. -/
theorem infix_replaceAll_iff (hrest : f ∉ rest) (hrest' : f ∉ rest') (hu : f ∉ u)
    (hstart : ∀ ys, ¬f :: u <+: f :: rest' ++ ys) :
    f :: u <:+: replaceAll (f :: rest) (f :: rest') 0 cs ↔
      ∃ before after, cs = before ++ (f :: u ++ after) ∧ ¬f :: rest <+: f :: u ++ after := by
  have hskip : ∀ {xs ys : List Char}, f ∉ xs → f :: u <:+: xs ++ ys → f :: u <:+: ys := by
    intro xs ys hxs h
    induction xs with
    | nil => exact h
    | cons x xs ih =>
      rw [List.mem_cons, not_or] at hxs
      rw [List.cons_append, List.infix_cons_iff, List.cons_prefix_cons] at h
      exact ih hxs.2 (h.resolve_left fun h => hxs.1 h.1)
  constructor
  · intro h
    induction cs using replaceAll_induction (List.cons_ne_nil f rest) with
    | nil => simp [replaceAll] at h
    | append ys ih =>
      rw [replaceAll_append (by simp), List.cons_append, List.infix_cons_iff] at h
      rcases h with h | h
      · exact absurd h (hstart _)
      · obtain ⟨before, after, rfl, hpart⟩ := ih (hskip hrest' h)
        exact ⟨f :: rest ++ before, after, by simp, hpart⟩
    | cons c cs hpart ih =>
      rw [replaceAll_cons hpart, List.infix_cons_iff] at h
      rcases h with h | h
      · rw [List.cons_prefix_cons] at h
        obtain ⟨rfl, h⟩ := h
        obtain ⟨after, rfl⟩ := prefix_of_prefix_replaceAll hu h
        exact ⟨[], after, rfl, hpart⟩
      · obtain ⟨before, after, rfl, hfree⟩ := ih h
        exact ⟨c :: before, after, rfl, hfree⟩
  · rintro ⟨before, after, rfl, hpart⟩
    induction hlength : before.length using Nat.strong_induction_on generalizing before with
    | _ n ih =>
      subst hlength
      cases before with
      | nil =>
        have hpart : ¬f :: rest <+: f :: (u ++ after) := hpart
        rw [List.nil_append, List.cons_append, replaceAll_cons hpart,
          replaceAll_append_of_not_mem hu]
        exact ⟨[], replaceAll (f :: rest) (f :: rest') 0 after, by simp⟩
      | cons c before =>
        by_cases hc : f :: rest <+: c :: before ++ (f :: u ++ after)
        · -- The part ends before the text, whose first character it does not have again.
          obtain ⟨before', hbefore⟩ : ∃ before', c :: before = f :: rest ++ before' := by
            obtain ⟨ys, hys⟩ := hc
            rcases List.append_eq_append_iff.mp hys with ⟨xs, hxs, -⟩ | ⟨xs, hxs, hys⟩
            · exact ⟨xs, hxs⟩
            · cases xs with
              | nil => exact ⟨[], by simpa using hxs.symm⟩
              | cons x xs =>
                obtain ⟨rfl, -⟩ := List.cons.inj hys
                have hmem : f ∈ rest := by
                  rw [(List.cons.inj hxs).2]
                  simp
                exact absurd hmem hrest
          rw [hbefore, List.append_assoc, replaceAll_append (by simp)]
          refine (ih before'.length ?_ before' rfl).trans (List.suffix_append _ _).isInfix
          have := congrArg List.length hbefore
          simp only [List.length_append, List.length_cons] at this ⊢
          omega
        · have hc : ¬f :: rest <+: c :: (before ++ (f :: u ++ after)) := hc
          rw [List.cons_append, replaceAll_cons hc]
          exact (ih before.length (by simp) before rfl).trans (List.suffix_cons _ _).isInfix

end Through

end Replacing

end FixZone.Library
