import Mathlib.Data.List.Infix

/-!
# Permission patterns

A permission is a word such as `audit.read`; a word that ends in `.*` stands for every word
with the same beginning up to the dot. `Covers` is the order this makes of words: a word
covers itself, and `area.*` covers whatever begins with `area.`. It is reflexive and
transitive where the signs differ, so being covered by somebody's words is passed on along any chain
(`Within.trans`). The two signs are parameters.
-/

namespace FixZone.Library.Wildcard

universe u

variable {α : Type u} {sep star : α}

/-- The word `p` stands for the word `q`: it is the same, or a pattern that `q` fits. -/
def Covers (sep star : α) (p q : List α) : Prop :=
  p = q ∨ ∃ area, p = area ++ [sep, star] ∧ area ++ [sep] <+: q

/-- Every word of `qs` is one that a word of `ps` stands for. -/
def Within (sep star : α) (ps qs : List (List α)) : Prop := ∀ q ∈ qs, ∃ p ∈ ps, Covers sep star p q

variable {p q r area : List α} {ps qs rs : List (List α)}

theorem Covers.refl (p : List α) : Covers sep star p p := .inl rfl

theorem Covers.trans (hne : sep ≠ star) (h : Covers sep star p q) (h' : Covers sep star q r) :
    Covers sep star p r := by
  rcases h with rfl | ⟨area, rfl, hstart⟩
  · exact h'
  · rcases h' with rfl | ⟨area', rfl, hstart'⟩
    · exact .inr ⟨area, rfl, hstart⟩
    · -- the pattern that is covered cannot end within the beginning of the one that covers it
      have hlength : (area ++ [sep]).length ≤ (area' ++ [sep]).length := by
        by_contra hlong
        have hsame : area ++ [sep] = area' ++ [sep, star] :=
          hstart.eq_of_length_le (by simp at hlong ⊢; omega)
        have hlast := congrArg List.getLast? hsame
        simp only [List.getLast?_append, List.getLast?_cons_cons, List.getLast?_singleton,
          Option.some_or, Option.some.injEq] at hlast
        exact hne hlast
      have hbegin : area' ++ [sep] <+: area' ++ [sep, star] := ⟨[star], by simp⟩
      exact .inr ⟨area, rfl,
        (List.prefix_of_prefix_length_le hstart hbegin hlength).trans hstart'⟩

/-- A pattern stands for what begins like it. -/
theorem covers_pattern_iff : Covers sep star (area ++ [sep, star]) q ↔ area ++ [sep] <+: q := by
  constructor
  · rintro (rfl | ⟨area', harea, hstart⟩)
    · exact ⟨[star], by simp⟩
    · have hsame : area = area' := List.append_inj_left' harea rfl
      rwa [hsame]
  · exact fun hstart => .inr ⟨area, rfl, hstart⟩

/-- A word that is no pattern stands for itself. -/
theorem covers_word_iff (h : ¬ [sep, star] <:+ p) : Covers sep star p q ↔ p = q := by
  refine or_iff_left ?_
  rintro ⟨area, rfl, -⟩
  exact h (List.suffix_append area [sep, star])

/-- The order can be computed: the sign at the end, and the beginning without it. -/
theorem covers_iff : Covers sep star p q ↔ p = q ∨ [sep, star] <:+ p ∧ p.dropLast <+: q := by
  refine or_congr_right ⟨?_, ?_⟩
  · rintro ⟨area, rfl, hstart⟩
    exact ⟨List.suffix_append area [sep, star], by simpa using hstart⟩
  · rintro ⟨⟨area, rfl⟩, hstart⟩
    exact ⟨area, rfl, by simpa using hstart⟩

instance [DecidableEq α] : Decidable (Covers sep star p q) := decidable_of_iff' _ covers_iff

instance [DecidableEq α] : Decidable (Within sep star ps qs) :=
  inferInstanceAs (Decidable (∀ q ∈ qs, ∃ p ∈ ps, Covers sep star p q))

theorem Within.refl (ps : List (List α)) : Within sep star ps ps := fun q hq => ⟨q, hq, .refl q⟩

theorem Within.trans (hne : sep ≠ star) (h : Within sep star ps qs) (h' : Within sep star qs rs) :
    Within sep star ps rs := by
  intro r hr
  obtain ⟨q, hq, hcovers'⟩ := h' r hr
  obtain ⟨p, hp, hcovers⟩ := h q hq
  exact ⟨p, hp, hcovers.trans hne hcovers'⟩

end FixZone.Library.Wildcard
