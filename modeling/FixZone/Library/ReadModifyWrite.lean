import FixZone.Library.Protocol

/-!
# A value that is read, changed and written back

Calls that run side by side change one value: each reads it, and writes back what it makes of what
it read. Where two of them read the same value, the second to write takes back what the first one
did. Of a quantity that every change raises by one, the value shows at most as much as was written,
and exactly that when every write found what its call had read (`total_eq_iff`): a change that was
lost once is never made up for.
-/

namespace FixZone.Library

universe u v w x y

/-- A call: it is about to read, or has read. -/
inductive Update (β : Type v) (σ : Type u) where
  | reads (request : β)
  | writes (request : β) (seen : σ)

variable {σ : Type u} {β : Type v} {ε : Type w} {α : Type x} {ι : Type y} [DecidableEq ι]

/-- Read the value, and write back what becomes of it. -/
def readModifyWrite (change : ε → β → σ → σ) (answer : ε → β → σ → α) :
    Protocol σ β (Update β σ) ε α where
  init := .reads
  advance input call s :=
    match call with
    | .reads request => (s, .goesOn (.writes request s))
    | .writes request seen => (change input request seen, .returns (answer input request seen))

/-- A write finds what its call has read. -/
def FindsSeen (_ : ε) (call : Update β σ) (s : σ) : Prop :=
  match call with
  | .reads _ => True
  | .writes _ seen => seen = s

/-- A turn writes the value. -/
def isWrite (st : Calls σ ι (Update β σ)) : Turn ι β ε → Bool
  | .start _ _ => false
  | .advance i _ =>
    match st.running i with
    | some (.writes _ _) => true
    | _ => false

variable {change : ε → β → σ → σ} {answer : ε → β → σ → α} {st : Calls σ ι (Update β σ)}

/-- How many writes a run makes. -/
def writes (change : ε → β → σ → σ) (answer : ε → β → σ → α) (st : Calls σ ι (Update β σ))
    (turns : List (Turn ι β ε)) : ℕ :=
  countAlong (readModifyWrite change answer).step isWrite st turns

/-! ### What every change keeps -/

/-- What every change keeps holds of the value, and of what the calls have read. -/
theorem readModifyWrite_keeps {P : σ → Prop} (hchange : ∀ input request s, P s →
      P (change input request s)) {s : σ} (hs : P s) (turns : List (Turn ι β ε)) :
    P (run (readModifyWrite change answer).step (Calls.quiet s) turns).state := by
  have hquiet : (Calls.quiet s : Calls σ ι (Update β σ)).Meets P fun call _ =>
      ∀ request seen, call = .writes request seen → P seen := Calls.quiet_meets hs
  refine (hquiet.run (readModifyWrite change answer) ?_ ?_ ?_ ?_ turns).state
  · intro request s _ _ _ h
    cases h
  · intro input call s hs hcall
    cases call with
    | reads request => exact hs
    | writes request seen => exact hchange input request seen (hcall request seen rfl)
  · intro input call s hs _ call' hnext
    cases call with
    | reads request =>
      cases hnext
      intro _ _ h
      cases h
      exact hs
    | writes request seen => cases hnext
  · exact fun _ _ _ _ _ _ hother => hother

/-! ### A quantity that every change raises -/

variable {total : σ → ℕ}

/-- At most `k` is shown by the value and by what was read; what shows `k` is the value. -/
structure ShowsAtMost (total : σ → ℕ) (k : ℕ) (st : Calls σ ι (Update β σ)) : Prop where
  state : total st.state ≤ k
  seen : ∀ i request seen, st.running i = some (.writes request seen) →
    total seen ≤ k ∧ (total seen = k → seen = st.state)

omit [DecidableEq ι] in
/-- A turn in which nobody writes leaves what is shown. -/
theorem ShowsAtMost.of_reads {k : ℕ} (h : ShowsAtMost total k st) {st' : Calls σ ι (Update β σ)}
    (hstate : st'.state = st.state)
    (hrunning : ∀ i request seen, st'.running i = some (.writes request seen) →
      st.running i = some (.writes request seen) ∨ seen = st.state) : ShowsAtMost total k st' where
  state := hstate ▸ h.state
  seen i request seen hi := by
    rw [hstate]
    obtain hbefore | rfl := hrunning i request seen hi
    · exact h.seen i request seen hbefore
    · exact ⟨h.state, fun _ => rfl⟩

variable (answer) in
/-- A write shows all that was written exactly when it finds what its call has read, and everything
was shown before. -/
theorem showsAtMost_step (hchange : ∀ input request s, total (change input request s) = total s + 1)
    {k : ℕ} (h : ShowsAtMost total k st) (turn : Turn ι β ε) :
    let st' := (readModifyWrite change answer).step turn st
    ShowsAtMost total (k + (isWrite st turn).toNat) st' ∧
      (total st'.state = k + (isWrite st turn).toNat ↔
        total st.state = k ∧ st.StepMeets FindsSeen turn) := by
  intro st'
  cases turn with
  | start i request =>
    have hmeets : st.StepMeets FindsSeen (.start i request : Turn ι β ε) := by
      intro _ _ _ hadvances
      cases hadvances.turn
    have hsame : st'.state = st.state ∧ ∀ j request' seen,
        st'.running j = some (.writes request' seen) →
          st.running j = some (.writes request' seen) := by
      cases hfree : st.running i with
      | some call =>
        have hstep : st' = st := by simp only [st', Protocol.step, hfree]
        rw [hstep]
        exact ⟨rfl, fun _ _ _ hj => hj⟩
      | none =>
        have hstep : st' = { st with
            running := Function.update st.running i (some (.reads request)) } := by
          simp only [st', Protocol.step, hfree]
          rfl
        rw [hstep]
        refine ⟨rfl, fun j request' seen hj => ?_⟩
        dsimp only at hj
        by_cases hij : j = i
        · subst hij
          rw [Function.update_self] at hj
          cases hj
        · rwa [Function.update_of_ne hij] at hj
    obtain ⟨hstate, hrunning⟩ := hsame
    refine ⟨h.of_reads hstate fun j request' seen hj => .inl (hrunning j request' seen hj), ?_⟩
    rw [hstate]
    exact (and_iff_left hmeets).symm
  | advance i input =>
    cases hrunning : st.running i with
    | none =>
      have hstep : st' = st := by simp only [st', Protocol.step, hrunning]
      have hidle : isWrite st (.advance i input : Turn ι β ε) = false := by
        simp only [isWrite, hrunning]
      rw [hidle, hstep]
      exact ⟨h, (and_iff_left (Calls.stepMeets_of_idle hrunning)).symm⟩
    | some call =>
      have hadvances : st.Advances (.advance i input : Turn ι β ε) i input call := ⟨rfl, hrunning⟩
      have hstep := (readModifyWrite change answer).step_of_advances hadvances
      change st' = _ at hstep
      rw [Calls.stepMeets_iff hadvances, hstep]
      cases call with
      | reads request =>
        have hreads : isWrite st (.advance i input : Turn ι β ε) = false := by
          simp only [isWrite, hrunning]
        rw [hreads]
        refine ⟨h.of_reads rfl fun j request' seen hj => ?_, (and_iff_left trivial).symm⟩
        dsimp only at hj
        by_cases hij : j = i
        · subst hij
          rw [Function.update_self] at hj
          cases hj
          exact .inr rfl
        · rw [Function.update_of_ne hij] at hj
          exact .inl hj
      | writes request seen =>
        have hwrites : isWrite st (.advance i input : Turn ι β ε) = true := by
          simp only [isWrite, hrunning]
        obtain ⟨hle, heq⟩ := h.seen i request seen hrunning
        rw [hwrites, Bool.toNat_true]
        have hafter : total ((readModifyWrite change answer).advance input (.writes request seen)
            st.state).1 = total seen + 1 := hchange input request seen
        refine ⟨⟨?_, fun j request' seen' hj => ?_⟩, ?_⟩
        · dsimp only
          rw [hafter]
          omega
        · -- What others have read shows less than what is written now.
          have hbefore : st.running j = some (.writes request' seen') := by
            dsimp only at hj
            by_cases hij : j = i
            · subst hij
              rw [Function.update_self] at hj
              cases hj
            · rwa [Function.update_of_ne hij] at hj
          have hless := (h.seen j request' seen' hbefore).1
          exact ⟨by omega, fun heq => absurd heq (by omega)⟩
        · dsimp only
          rw [hafter, Nat.add_right_cancel_iff]
          constructor
          · intro hk
            obtain rfl := heq hk
            exact ⟨hk, rfl⟩
          · rintro ⟨hk, hfinds⟩
            change seen = st.state at hfinds
            rwa [hfinds]

variable (answer) in
/-- What a run shows of `k` and its own writes. -/
theorem total_run (hchange : ∀ input request s, total (change input request s) = total s + 1)
    {k : ℕ} (h : ShowsAtMost total k st) (turns : List (Turn ι β ε)) :
    let final := run (readModifyWrite change answer).step st turns
    total final.state ≤ k + writes change answer st turns ∧
      (total final.state = k + writes change answer st turns ↔ total st.state = k ∧
        Along (readModifyWrite change answer).step (Calls.StepMeets FindsSeen) st turns) := by
  induction turns generalizing st k with
  | nil =>
    refine ⟨h.state, ?_⟩
    rw [writes, countAlong, Nat.add_zero]
    exact (and_iff_left trivial).symm
  | cons turn turns ih =>
    obtain ⟨hshows, hexact⟩ := showsAtMost_step answer hchange h turn
    obtain ⟨hle, hiff⟩ := ih hshows
    have hwrites : k + writes change answer st (turn :: turns) =
        k + (isWrite st turn).toNat +
          writes change answer ((readModifyWrite change answer).step turn st) turns := by
      rw [writes, countAlong, Nat.add_assoc]
      rfl
    intro final
    rw [hwrites]
    refine ⟨hle, hiff.trans ?_⟩
    rw [hexact, Along, and_assoc]

/-- **No lost changes.** The value shows every write of a run exactly when every write finds what
its call has read. -/
theorem total_eq_iff (hchange : ∀ input request s, total (change input request s) = total s + 1)
    (s : σ) (turns : List (Turn ι β ε)) :
    let final := run (readModifyWrite change answer).step (Calls.quiet s) turns
    total final.state ≤ total s + writes change answer (Calls.quiet s) turns ∧
      (total final.state = total s + writes change answer (Calls.quiet s) turns ↔
        Along (readModifyWrite change answer).step (Calls.StepMeets FindsSeen) (Calls.quiet s)
          turns) := by
  have hquiet : ShowsAtMost total (total s) (Calls.quiet s : Calls σ ι (Update β σ)) :=
    ⟨Nat.le_refl _, fun _ _ _ h => by cases h⟩
  obtain ⟨hle, hiff⟩ := total_run answer hchange hquiet turns
  exact ⟨hle, hiff.trans (and_iff_right rfl)⟩

end FixZone.Library
