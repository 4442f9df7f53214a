import FixZone.Library.Run

/-!
# Overlays

A state that holds values under keys, and steps that write some of them. `Overlays writes before
after` says that a step leaves under a key what it writes there, or else what it finds there; the
latest writes stand first. Overlays compose, so after a run whose steps are overlays a key holds
what was written to it last (`read_run`).
-/

namespace FixZone.Library

universe u v w x

variable {σ : Type u} {ε : Type v} {κ : Type w} {β : Type x} [DecidableEq κ]

/-- After the writes a key holds what was written there, or else what it held before. -/
def Overlays (writes : List (κ × β)) (before after : κ → Option β) : Prop :=
  ∀ key, after key = (writes.lookup key).or (before key)

/-- Nothing stands under a key exactly where it is none of the keys. -/
theorem lookup_eq_none_iff_not_mem {entries : List (κ × β)} {key : κ} :
    entries.lookup key = none ↔ key ∉ entries.map Prod.fst := by
  rw [List.lookup_eq_none_iff]
  constructor
  · intro hnone hmem
    obtain ⟨entry, hentry, rfl⟩ := List.mem_map.mp hmem
    exact bne_iff_ne.mp (hnone entry hentry) rfl
  · intro hmem entry hentry
    exact bne_iff_ne.mpr fun heq => hmem (heq ▸ List.mem_map_of_mem hentry)

section Renaming

variable {α : Type w} {rename : α → κ} (entries : List (α × β))

/-- Under keys that are renamed one to one stands what stood under the keys. -/
theorem lookup_map_rename [DecidableEq α] (hinjective : Function.Injective rename) (key : α) :
    (entries.map fun entry => (rename entry.1, entry.2)).lookup (rename key) =
      entries.lookup key := by
  induction entries with
  | nil => rfl
  | cons entry entries ih =>
    have hsame : (rename key == rename entry.1) = (key == entry.1) := by
      rw [Bool.eq_iff_iff, beq_iff_eq, beq_iff_eq, hinjective.eq_iff]
    rw [List.map_cons, List.lookup_cons, hsame, ih, ← List.lookup_cons]

/-- Nothing stands under the others. -/
theorem lookup_map_of_ne {key : κ} (hne : ∀ a, key ≠ rename a) :
    (entries.map fun entry => (rename entry.1, entry.2)).lookup key = none := by
  rw [lookup_eq_none_iff_not_mem, List.map_map]
  intro hmem
  obtain ⟨entry, -, heq⟩ := List.mem_map.mp hmem
  exact hne entry.1 heq.symm

end Renaming

namespace Overlays

variable {writes later : List (κ × β)} {f g h : κ → Option β}

theorem refl (f : κ → Option β) : Overlays [] f f := fun _ => rfl

/-- Overlays compose, the later one first. -/
theorem trans (hfg : Overlays writes f g) (hgh : Overlays later g h) :
    Overlays (later ++ writes) f h := by
  intro key
  rw [hgh, hfg, List.lookup_append, Option.or_assoc]

end Overlays

variable (step : ε → σ → σ) (writes : σ → ε → List (κ × β)) (read : σ → κ → Option β)

/-- What a run writes, the latest first. -/
def journal (s : σ) : List ε → List (κ × β)
  | [] => []
  | e :: es => journal (step e s) es ++ writes s e

variable {step writes read}

/-- After a run whose steps are overlays a key holds what was written to it last. -/
theorem read_run {s : σ} {es : List ε}
    (h : Along step (fun s e => Overlays (writes s e) (read s) (read (step e s))) s es) :
    Overlays (journal step writes s es) (read s) (read (run step s es)) := by
  induction es generalizing s with
  | nil => exact .refl _
  | cons e es ih => exact h.1.trans (ih h.2)

end FixZone.Library
