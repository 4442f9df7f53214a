import FixZone.Library.JsText

/-!
# Reading ISO dates

The inverse of `toISOString` on the years of four digits: `readDate` takes the text apart, field by
field. The calendar comes back because `daysFromCivil` is the inverse of `civilFromDays`.
-/

namespace FixZone.Library

/-! ### The calendar -/

/-- The year of a day in its era of four hundred years, and the day in that year, which begins in
March. -/
theorem dayOfYear_bounds {dayOfEra : ℤ} (h : 0 ≤ dayOfEra ∧ dayOfEra < 146097) :
    let year := (dayOfEra - dayOfEra / 1460 + dayOfEra / 36524 - dayOfEra / 146096) / 365
    0 ≤ year ∧ year < 400 ∧ 0 ≤ dayOfEra - (365 * year + year / 4 - year / 100) ∧
      dayOfEra - (365 * year + year / 4 - year / 100) ≤ 366 := by
  intro year
  have hyear : 365 * year ≤ dayOfEra - dayOfEra / 1460 + dayOfEra / 36524 - dayOfEra / 146096 := by
    omega
  have hyear' : dayOfEra - dayOfEra / 1460 + dayOfEra / 36524 - dayOfEra / 146096 <
      365 * year + 365 := by omega
  clear_value year
  -- the leap days before the year, and the centuries without one
  have hfour : year / 4 ≤ dayOfEra / 1460 := by omega
  have hfour' : dayOfEra / 1460 ≤ year / 4 + 1 := by omega
  have hcentury : dayOfEra / 36524 - dayOfEra / 146096 ≤ year / 100 := by omega
  have hcentury' : year / 100 ≤ dayOfEra / 36524 - dayOfEra / 146096 + 1 := by omega
  exact ⟨by omega, by omega, by omega, by omega⟩

/-- The month of a date is one of twelve and its day one of thirty-one. -/
theorem civilFromDays_bounds (days : ℤ) :
    1 ≤ (civilFromDays days).2.1 ∧ (civilFromDays days).2.1 ≤ 12 ∧
      1 ≤ (civilFromDays days).2.2 ∧ (civilFromDays days).2.2 ≤ 31 := by
  simp only [civilFromDays]
  split_ifs <;> omega

/-- The day of a month counted from March in a year of its era of four hundred years. -/
theorem daysFromCivil_shifted {era yearOfEra shifted : ℤ} (day : ℤ)
    (hyear : 0 ≤ yearOfEra ∧ yearOfEra < 400) (hshifted : 0 ≤ shifted ∧ shifted < 12) :
    let month := if shifted < 10 then shifted + 3 else shifted - 9
    daysFromCivil (yearOfEra + era * 400 + (if month ≤ 2 then 1 else 0)) month day =
      era * 146097 + (yearOfEra * 365 + yearOfEra / 4 - yearOfEra / 100 +
        ((153 * shifted + 2) / 5 + day - 1)) - 719468 := by
  intro month
  have hmonth : month ≤ 2 ↔ ¬ shifted < 10 := by
    simp only [month]
    split_ifs <;> omega
  have hera : (yearOfEra + era * 400) / 400 = era := by omega
  have hmod : (yearOfEra + era * 400) % 400 = yearOfEra := by omega
  simp only [daysFromCivil]
  split_ifs with hlate
  · have hback : month + 9 = shifted := by
      simp only [month, if_neg (hmonth.mp hlate)]
      omega
    rw [hback, add_sub_cancel_right, hera, hmod]
  · have hback : month - 3 = shifted := by
      simp only [month, if_pos (not_not.mp (mt hmonth.mpr hlate))]
      omega
    rw [hback, add_zero, hera, hmod]

theorem daysFromCivil_civilFromDays (days : ℤ) :
    daysFromCivil (civilFromDays days).1 (civilFromDays days).2.1 (civilFromDays days).2.2 =
      days := by
  have hera : 0 ≤ (days + 719468) % 146097 ∧ (days + 719468) % 146097 < 146097 := by omega
  obtain ⟨hyear, hyear', hday, hday'⟩ := dayOfYear_bounds hera
  simp only [civilFromDays]
  rw [daysFromCivil_shifted _ ⟨hyear, hyear'⟩ (by omega)]
  omega

/-! ### Fields -/

/-- The number written with `width` digits at the start of a text, and what follows it. -/
def readField (width : ℕ) (cs : List Char) : Option (ℕ × List Char) :=
  if (cs.take width).length = width ∧ (cs.take width).all Char.isDigit then
    some (Nat.ofDigitChars 10 (cs.take width) 0, cs.drop width)
  else none

/-- What follows the character `c` at the start of a text. -/
def readSign (c : Char) : List Char → Option (List Char)
  | c' :: cs => if c' = c then some cs else none
  | [] => none

theorem readSign_cons (c : Char) (cs : List Char) : readSign c (c :: cs) = some cs := if_pos rfl

/-- A number written with leading zeros is read. -/
theorem readField_padded {width n : ℕ} (hwidth : 0 < width) (hn : n < 10 ^ width)
    (cs : List Char) : readField width ((padded width n).toList ++ cs) = some (n, cs) := by
  have hdigits : (padded width n).toList =
      List.replicate (width - (Nat.toDigits 10 n).length) '0' ++ Nat.toDigits 10 n := by
    simp [padded, Nat.toString_eq_repr, Nat.toList_repr, String.length]
  have hlength : (padded width n).toList.length = width := by
    have := (Nat.length_toDigits_le_iff (b := 10) (by decide) hwidth).mpr hn
    rw [hdigits, List.length_append, List.length_replicate]
    omega
  unfold readField
  rw [List.take_left' hlength, List.drop_left' hlength, if_pos]
  · rw [hdigits, Nat.ofDigitChars_append, Nat.ofDigitChars_replicate_zero, Nat.mul_zero,
      Nat.ofDigitChars_ten_toDigits]
  · refine ⟨hlength, ?_⟩
    rw [hdigits, List.all_append, Bool.and_eq_true, List.all_eq_true, List.all_eq_true]
    refine ⟨fun c hc => ?_, fun c hc => Nat.isDigit_of_mem_toDigits (by decide) (by decide) hc⟩
    rw [List.eq_of_mem_replicate hc]
    decide

/-! ### Dates -/

/-- So is one that a sign follows. -/
theorem readField_readSign {β : Type} {width n : ℕ} (hwidth : 0 < width) (hn : n < 10 ^ width)
    {sign : Char} {cs : List Char} {next : ℕ × List Char → List Char → Option β} :
    (readField width ((padded width n).toList ++ sign :: cs) >>= fun part =>
      readSign sign part.2 >>= next part) = next (n, sign :: cs) cs := by
  rw [readField_padded hwidth hn]
  exact congrArg (· >>= next (n, sign :: cs)) (readSign_cons sign cs)

/-- The instant of an ISO date in UTC with a year of four digits. -/
def readDate (text : String) : Option ℤ := do
  let (year, cs) ← readField 4 text.toList
  let cs ← readSign '-' cs
  let (month, cs) ← readField 2 cs
  let cs ← readSign '-' cs
  let (day, cs) ← readField 2 cs
  let cs ← readSign 'T' cs
  let (hours, cs) ← readField 2 cs
  let cs ← readSign ':' cs
  let (minutes, cs) ← readField 2 cs
  let cs ← readSign ':' cs
  let (seconds, cs) ← readField 2 cs
  let cs ← readSign '.' cs
  let (millis, cs) ← readField 3 cs
  if cs = ['Z'] then
    some (daysFromCivil year month day * 86400000 +
      (hours * 3600000 + minutes * 60000 + seconds * 1000 + millis : ℕ))
  else none

/-- The year of an instant has four digits. -/
def hasShortYear (millis : ℤ) : Bool :=
  decide (0 ≤ (civilFromDays (millis / 86400000)).1) &&
    decide ((civilFromDays (millis / 86400000)).1 ≤ 9999)

/-- **The text of an instant is read as that instant**, if its year has four digits, and not at all
otherwise. -/
theorem readDate_toISOString (millis : ℤ) :
    readDate (toISOString millis) = if hasShortYear millis then some millis else none := by
  obtain ⟨hmonth, hmonth', hday, hday'⟩ := civilFromDays_bounds (millis / 86400000)
  have hback := daysFromCivil_civilFromDays (millis / 86400000)
  unfold readDate toISOString hasShortYear
  revert hmonth hmonth' hday hday' hback
  generalize civilFromDays (millis / 86400000) = civil
  obtain ⟨year, month, day⟩ := civil
  intro hmonth hmonth' hday hday' hback
  dsimp only at hmonth hmonth' hday hday' hback ⊢
  have hsigns : "-".toList = ['-'] ∧ "T".toList = ['T'] ∧ ":".toList = [':'] ∧
      ".".toList = ['.'] ∧ "Z".toList = ['Z'] := by decide
  by_cases hshort : 0 ≤ year ∧ year ≤ 9999
  · rw [if_pos hshort, if_pos (by simp [hshort])]
    generalize htime : (millis % 86400000).toNat = time
    have hbound : time < 86400000 := by omega
    -- field by field, each followed by its sign
    simp only [String.toList_append, List.append_assoc, hsigns, List.cons_append, List.nil_append]
    rw [readField_readSign (by decide) (by omega), readField_readSign (by decide) (by omega),
      readField_readSign (by decide) (by omega), readField_readSign (by decide) (by omega),
      readField_readSign (by decide) (by omega), readField_readSign (by decide) (by omega),
      readField_padded (by decide) (by omega), Option.bind_eq_bind, Option.bind_some, if_pos rfl]
    rw [Int.toNat_of_nonneg hshort.1, Int.toNat_of_nonneg (by omega),
      Int.toNat_of_nonneg (by omega), hback]
    congr 1
    omega
  · have hlong : (decide (0 ≤ year) && decide (year ≤ 9999)) = false := by
      rw [← Bool.decide_and]
      exact decide_eq_false hshort
    rw [if_neg hshort, hlong, if_neg Bool.false_ne_true]
    -- the text begins with the sign of the year
    have hsign : (if year < 0 then "-" else "+").toList = ['-'] ∨
        (if year < 0 then "-" else "+").toList = ['+'] := by
      split_ifs
      · exact .inl (by decide)
      · exact .inr (by decide)
    simp only [String.toList_append, List.append_assoc]
    rcases hsign with hsign | hsign
    · rw [hsign, List.singleton_append, readField, if_neg (by simp)]
      rfl
    · rw [hsign, List.singleton_append, readField, if_neg (by simp)]
      rfl

end FixZone.Library
