import FixZone.Library.Run
import Mathlib.Data.List.Nodup
import Mathlib.Data.Set.Basic

/-!
# Codes that are good for once

An owner is issued codes, which replace those the owner had, and uses a code. The machine knows
the codes that are open: an issue closes the codes of the owner and opens the new ones, a use takes
an open code and closes it.

A code that is open after a run goes back to the last issue to its owner (`mem_run_iff`), and where
all codes are told apart, no code is used twice (`uses_nodup`).
-/

namespace FixZone.Library

universe u v w

/-- What happens to codes. -/
inductive CodeEvent (ο : Type u) (κ : Type v) where
  | issue (owner : ο) (codes : List κ)
  | use (owner : ο) (code : κ)

namespace CodeEvent

variable {ο : Type u} {κ : Type v}

/-- The codes that are open afterwards. -/
def next : CodeEvent ο κ → Set (ο × κ) → Set (ο × κ)
  | issue owner codes, opened => {x | x.1 ≠ owner ∧ x ∈ opened ∨ x.1 = owner ∧ x.2 ∈ codes}
  | use owner code, opened => {x | x ∈ opened ∧ x ≠ (owner, code)}

/-- A code that is used is open. -/
def Allowed (opened : Set (ο × κ)) : CodeEvent ο κ → Prop
  | issue _ _ => True
  | use owner code => (owner, code) ∈ opened

/-- The codes an event issues. -/
def issued : CodeEvent ο κ → List κ
  | issue _ codes => codes
  | use _ _ => []

/-- The code an event uses. -/
def used? : CodeEvent ο κ → Option κ
  | issue _ _ => none
  | use _ code => some code

/-- The event neither replaces the codes of the owner nor uses the code. -/
def Keeps (owner : ο) (code : κ) : CodeEvent ο κ → Prop
  | issue other _ => other ≠ owner
  | use other code' => (other, code') ≠ (owner, code)

variable {opened : Set (ο × κ)} {owner : ο} {code : κ} {event : CodeEvent ο κ}
  {events : List (CodeEvent ο κ)}

/-- A code is open after an event that issues it, or that keeps it open. -/
theorem mem_next_iff : (owner, code) ∈ event.next opened ↔
    (∃ codes, event = issue owner codes ∧ code ∈ codes) ∨
      (owner, code) ∈ opened ∧ event.Keeps owner code := by
  cases event with
  | issue other codes =>
    constructor
    · rintro (⟨hne, hopen⟩ | ⟨rfl, hcode⟩)
      · exact .inr ⟨hopen, Ne.symm hne⟩
      · exact .inl ⟨codes, rfl, hcode⟩
    · rintro (⟨_, heq, hcode⟩ | ⟨hopen, hne⟩)
      · cases heq
        exact .inr ⟨rfl, hcode⟩
      · exact .inl ⟨Ne.symm hne, hopen⟩
  | use other code' =>
    constructor
    · exact fun ⟨hopen, hne⟩ => .inr ⟨hopen, Ne.symm hne⟩
    · rintro (⟨_, heq, -⟩ | ⟨hopen, hne⟩)
      · cases heq
      · exact ⟨hopen, Ne.symm hne⟩

/-- A code is open after a run that issues it to the owner, or finds it open, and afterwards neither
replaces the codes of the owner nor uses it. -/
theorem mem_run_iff : (owner, code) ∈ run next opened events ↔
    (∃ before codes after, events = before ++ issue owner codes :: after ∧ code ∈ codes ∧
      ∀ event ∈ after, event.Keeps owner code) ∨
    (owner, code) ∈ opened ∧ ∀ event ∈ events, event.Keeps owner code := by
  induction events generalizing opened with
  | nil => simp
  | cons event events ih =>
    rw [run_cons, ih, mem_next_iff, List.forall_mem_cons]
    constructor
    · rintro (⟨before, codes, after, rfl, hcode, hafter⟩ | ⟨⟨codes, rfl, hcode⟩ | ⟨hopen, hkeeps⟩,
        hafter⟩)
      · exact .inl ⟨event :: before, codes, after, rfl, hcode, hafter⟩
      · exact .inl ⟨[], codes, events, rfl, hcode, hafter⟩
      · exact .inr ⟨hopen, hkeeps, hafter⟩
    · rintro (⟨before, codes, after, hsplit, hcode, hafter⟩ | ⟨hopen, hkeeps, hafter⟩)
      · cases before with
        | nil =>
          obtain ⟨rfl, rfl⟩ := List.cons.inj hsplit
          exact .inr ⟨.inl ⟨codes, rfl, hcode⟩, hafter⟩
        | cons first before =>
          obtain ⟨rfl, rfl⟩ := List.cons.inj hsplit
          exact .inl ⟨before, codes, after, rfl, hcode, hafter⟩
      · exact .inr ⟨.inr ⟨hopen, hkeeps⟩, hafter⟩

/-- A code that is used was open, or is issued before. -/
theorem used_origin (h : Along next Allowed opened events) (hused : code ∈ events.filterMap used?) :
    (∃ owner, (owner, code) ∈ opened) ∨ code ∈ events.flatMap issued := by
  induction events generalizing opened with
  | nil => cases hused
  | cons event events ih =>
    obtain ⟨hallowed, hrest⟩ := h
    rw [List.flatMap_cons, List.mem_append]
    cases event with
    | issue owner codes =>
      rcases ih hrest hused with ⟨owner', hopen⟩ | hissued
      · rcases hopen with ⟨-, hopen⟩ | ⟨-, hcode⟩
        · exact .inl ⟨owner', hopen⟩
        · exact .inr (.inl hcode)
      · exact .inr (.inr hissued)
    | use owner code' =>
      rcases List.mem_cons.mp hused with rfl | hused
      · exact .inl ⟨owner, hallowed⟩
      · rcases ih hrest hused with ⟨owner', hopen, -⟩ | hissued
        · exact .inl ⟨owner', hopen⟩
        · exact .inr (.inr hissued)

/-- No code is used twice, if what tells codes apart tells all of them apart, those that are open
and those that are issued. -/
theorem uses_nodup {δ : Type w} (f : κ → δ) (h : Along next Allowed opened events)
    (hopened : ∀ x ∈ opened, ∀ y ∈ opened, f x.2 = f y.2 → x = y)
    (hissued : ((events.flatMap issued).map f).Nodup)
    (hnew : ∀ x ∈ opened, f x.2 ∉ (events.flatMap issued).map f) :
    ((events.filterMap used?).map f).Nodup := by
  induction events generalizing opened with
  | nil => exact List.nodup_nil
  | cons event events ih =>
    obtain ⟨hallowed, hrest⟩ := h
    rw [List.flatMap_cons, List.map_append] at hissued hnew
    obtain ⟨hcodes, hlater, hapart⟩ := List.nodup_append.mp hissued
    cases event with
    | issue owner codes =>
      refine ih hrest ?_ hlater ?_
      · rintro x (⟨-, hx⟩ | ⟨hx, hxcode⟩) y (⟨-, hy⟩ | ⟨hy, hycode⟩) heq
        · exact hopened x hx y hy heq
        · exact absurd (List.mem_append_left _ (heq ▸ List.mem_map_of_mem hycode)) (hnew x hx)
        · exact absurd (List.mem_append_left _ (heq ▸ List.mem_map_of_mem hxcode)) (hnew y hy)
        · exact Prod.ext (hx.trans hy.symm)
            (List.inj_on_of_nodup_map hcodes hxcode hycode heq)
      · rintro x (⟨-, hx⟩ | ⟨-, hxcode⟩) hmem
        · exact hnew x hx (List.mem_append_right _ hmem)
        · exact hapart _ (List.mem_map_of_mem hxcode) _ hmem rfl
    | use owner code =>
      have hstill : ((events.filterMap used?).map f).Nodup := by
        refine ih hrest ?_ hlater fun x hx hmem => hnew x hx.1 (List.mem_append_right _ hmem)
        exact fun x hx y hy heq => hopened x hx.1 y hy.1 heq
      refine List.nodup_cons.mpr ⟨fun hmem => ?_, hstill⟩
      obtain ⟨code', hused, heq⟩ := List.mem_map.mp hmem
      rcases used_origin hrest hused with ⟨owner', hopen, hne⟩ | hissued'
      · exact hne (hopened _ hopen _ hallowed heq)
      · exact hnew _ hallowed (List.mem_append_right _ (heq ▸ List.mem_map_of_mem hissued'))

end CodeEvent

end FixZone.Library
