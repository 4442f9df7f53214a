import FixZone.Library.Words
import FixZone.Organization.RoutingJurisdiction

/-!
# Token matching

A normalized location text is its words with one blank between any two
(`normalizeLocationText_eq`), and `containsPlace` finds a place in it exactly when the words of
the place stand next to each other in it (`containsPlace_iff`): the pattern only starts after a
blank and only ends before one. A zone matches by the narrowest place it names, and any of the
active zones decides.
-/

namespace FixZone.Organization

open Library

/-- What a text is spelled as before everything but letters and digits becomes a blank. -/
def spelled (values : List (Option String)) : List Char :=
  replaceAll "&".toList " and ".toList 0
    (replaceAll "federal capital territory".toList "fct".toList 0
      (toLowerCase (String.intercalate " " (values.filterMap clean))).toList)

/-- The tokens of a normalized text. -/
def tokens (text : String) : List (List Char) := words isLowerAlnum text.toList

theorem isLowerAlnum_blank : isLowerAlnum ' ' = false := by decide

theorem isJsSpace_eq {c : Char} (hc : isLowerAlnum c ∨ c = ' ') :
    isJsSpace c = !isLowerAlnum c := by
  rcases hc with hc | rfl
  · rw [(lowerChar_of_isLowerAlnum (.inl hc)).1, hc, Bool.not_true]
  · decide

/-- The characters of a normalized text. -/
def Normal (cs : List Char) : Prop := ∀ c ∈ cs, isLowerAlnum c ∨ c = ' '

/-- There, white space is the blanks. -/
theorem Normal.strip_eq {cs : List Char} (h : Normal cs) :
    strip isJsSpace cs = strip (· = ' ') cs := by
  refine strip_congr fun c hc => ?_
  rcases h c hc with hkept | rfl
  · have hne : c ≠ ' ' := by
      rintro rfl
      cases hkept
    rw [isJsSpace_eq (.inl hkept), hkept, decide_eq_false hne, Bool.not_true]
  · decide

/-- A collapsed text is only trimmed by what follows. -/
theorem trim_collapse {cs : List Char} (hcollapsed : Collapsed isLowerAlnum ' ' false cs) :
    trim (String.ofList (collapse (fun c => !isJsSpace c) ' ' false cs)) =
      String.ofList (strip (· = ' ') cs) := by
  have hnormal : Normal cs := fun c hc => hcollapsed.mem hc
  have hsame : collapse (fun c => !isJsSpace c) ' ' false cs = collapse isLowerAlnum ' ' false cs :=
    collapse_congr fun c hc => by rw [isJsSpace_eq (hnormal c hc), Bool.not_not]
  rw [hsame, collapse_of_collapsed hcollapsed, trim, String.toList_ofList, hnormal.strip_eq]

/-- A normalized text is its tokens put together. -/
theorem normalizeLocationText_eq (values : List (Option String)) :
    normalizeLocationText values =
      String.ofList (unwords ' ' (words isLowerAlnum (spelled values))) := by
  rw [← strip_collapse isLowerAlnum_blank,
    ← trim_collapse (collapsed_collapse isLowerAlnum_blank false _)]
  rfl

theorem tokens_normalizeLocationText (values : List (Option String)) :
    tokens (normalizeLocationText values) = words isLowerAlnum (spelled values) := by
  rw [normalizeLocationText_eq, tokens, String.toList_ofList,
    words_unwords isLowerAlnum_blank (words_words _ _)]

/-! ### The pattern -/

section Pattern

variable {place text : List Char}

theorem toLower_of_normal {c : Char} (hc : isLowerAlnum c ∨ c = ' ') : c.toLower = c := by
  rcases hc with hc | rfl
  · have hsmall : c.toNat < 0x80 := by
      simp only [isLowerAlnum, Bool.or_eq_true, Bool.and_eq_true, decide_eq_true_eq] at hc
      rcases hc with ⟨-, hc⟩ | ⟨-, hc⟩
      · exact hc.trans_lt (by decide)
      · exact hc.trans_lt (by decide)
    have hlower := (lowerChar_of_isLowerAlnum (.inl hc)).2.1
    rw [lowerChar_of_lt hsmall] at hlower
    exact (List.cons.inj hlower).1
  · decide

/-- The pattern matches a place and then the end of the text or a blank. -/
theorem startsWithPlace_iff (hplace : Normal place) (htext : Normal text) :
    startsWithPlace place text ↔
      ∃ rest, text = place ++ rest ∧ AtBoundary isLowerAlnum rest := by
  induction place generalizing text with
  | nil =>
    cases text with
    | nil => simp [startsWithPlace, AtBoundary]
    | cons c text => simp [startsWithPlace, AtBoundary, isJsSpace_eq (htext c List.mem_cons_self)]
  | cons p place ih =>
    cases text with
    | nil => simp [startsWithPlace]
    | cons c text =>
      have hp := toLower_of_normal (hplace p List.mem_cons_self)
      have hc := toLower_of_normal (htext c List.mem_cons_self)
      rw [startsWithPlace, hp, hc, Bool.and_eq_true, decide_eq_true_eq,
        ih (fun d hd => hplace d (List.mem_cons_of_mem p hd))
          (fun d hd => htext d (List.mem_cons_of_mem c hd))]
      constructor
      · rintro ⟨rfl, rest, rfl, hrest⟩
        exact ⟨rest, rfl, hrest⟩
      · rintro ⟨rest, heq, hrest⟩
        obtain ⟨rfl, rfl⟩ := List.cons.inj heq
        exact ⟨rfl, rest, rfl, hrest⟩

theorem searchPlace_blank (place text : List Char) :
    searchPlace place false (' ' :: text) = searchPlace place true text := by
  rw [searchPlace, Bool.false_and, Bool.false_or]
  rfl

/-- Inside a word the search goes on to its end. -/
theorem searchPlace_word {w : List Char} (hw : ∀ c ∈ w, isLowerAlnum c) :
    searchPlace place false (w ++ text) = searchPlace place false text := by
  induction w with
  | nil => rfl
  | cons c w ih =>
    rw [List.cons_append, searchPlace, Bool.false_and, Bool.false_or,
      (lowerChar_of_isLowerAlnum (.inl (hw c List.mem_cons_self))).1]
    exact ih fun d hd => hw d (List.mem_cons_of_mem c hd)

/-- From the start of a word the pattern is found there, or after the word. -/
theorem searchPlace_unwords_cons {w : List Char} {ws : List (List Char)}
    (hws : Words isLowerAlnum (w :: ws)) :
    searchPlace place true (unwords ' ' (w :: ws)) =
      (startsWithPlace place (unwords ' ' (w :: ws)) ||
        searchPlace place true (unwords ' ' ws)) := by
  obtain ⟨⟨hne, hw⟩, -⟩ := Words.cons_iff.mp hws
  obtain ⟨c, w, rfl⟩ := List.exists_cons_of_ne_nil hne
  have hc : isJsSpace c = false := (lowerChar_of_isLowerAlnum (.inl (hw c List.mem_cons_self))).1
  have hrest : ∀ d ∈ w, isLowerAlnum d := fun d hd => hw d (List.mem_cons_of_mem c hd)
  have hafter : ∀ text, searchPlace place true (c :: (w ++ text)) =
      (startsWithPlace place (c :: (w ++ text)) || searchPlace place false text) := by
    intro text
    rw [searchPlace, Bool.true_and, hc, searchPlace_word hrest]
  by_cases hnil : ws = []
  · subst hnil
    simpa [unwords, searchPlace] using hafter []
  · rw [unwords_cons hnil, List.cons_append, hafter, searchPlace_blank]

theorem normal_unwords {ws : List (List Char)} (hws : Words isLowerAlnum ws) :
    Normal (unwords ' ' ws) := fun _ hc => hws.mem_unwords hc

/-- The pattern occurs in a text where the words of the place stand next to each other. -/
theorem searchPlace_iff {ps ws : List (List Char)} (hps : Words isLowerAlnum ps) (hne : ps ≠ [])
    (hws : Words isLowerAlnum ws) :
    searchPlace (unwords ' ' ps) true (unwords ' ' ws) ↔ ps <:+: ws := by
  induction ws with
  | nil => simpa [unwords, searchPlace] using hne
  | cons w ws ih =>
    rw [searchPlace_unwords_cons hws, Bool.or_eq_true, List.infix_cons_iff,
      ih (Words.cons_iff.mp hws).2,
      startsWithPlace_iff (normal_unwords hps) (normal_unwords hws),
      unwords_prefix_iff isLowerAlnum_blank hps hne hws]

end Pattern

/-- The tokens of a place are found, next to each other, among those of a text. -/
def TokensOccur (text place : String) : Prop :=
  tokens (normalizeLocationText [some place]) ≠ [] ∧
    tokens (normalizeLocationText [some place]) <:+: tokens text

theorem containsPlace_iff (values : List (Option String)) (place : String) :
    containsPlace (normalizeLocationText values) place ↔
      TokensOccur (normalizeLocationText values) place := by
  have hps : Words isLowerAlnum (words isLowerAlnum (spelled [some place])) := words_words _ _
  have hws : Words isLowerAlnum (words isLowerAlnum (spelled values)) := words_words _ _
  have hempty : normalizeLocationText [some place] ≠ "" ↔
      words isLowerAlnum (spelled [some place]) ≠ [] := by
    rw [normalizeLocationText_eq, ne_eq, ← String.toList_inj, String.toList_ofList]
    exact (unwords_eq_nil_iff hps).not
  rw [TokensOccur, tokens_normalizeLocationText, tokens_normalizeLocationText, containsPlace,
    Bool.and_eq_true, decide_eq_true_eq, hempty]
  refine and_congr_right fun hne => ?_
  rw [normalizeLocationText_eq, normalizeLocationText_eq, String.toList_ofList,
    String.toList_ofList, searchPlace_iff hps hne hws]

/-! ### Zones -/

/-- The narrowest place a zone names. -/
def namedPlace (zone : RoutingJurisdictionZone) : Option String :=
  ((clean zone.lga).or (clean zone.state)).or (clean zone.country)

/-- A zone matches a location text when the tokens of its narrowest place occur in it. -/
def ZoneMatches (text : String) (zone : RoutingJurisdictionZone) : Prop :=
  ∃ place ∈ namedPlace zone, TokensOccur text place

theorem ZoneMatches.text_ne {text : String} {zone : RoutingJurisdictionZone}
    (h : ZoneMatches text zone) : text ≠ "" := by
  rintro rfl
  obtain ⟨place, -, hne, hoccur⟩ := h
  exact hne (List.infix_nil.mp hoccur)

theorem matchZone_isSome_iff (zone : RoutingJurisdictionZone) (values : List (Option String)) :
    (matchZone zone (normalizeLocationText values)).isSome ↔
      ZoneMatches (normalizeLocationText values) zone := by
  by_cases hempty : normalizeLocationText values = ""
  · rw [matchZone, if_pos hempty]
    simpa using fun h : ZoneMatches (normalizeLocationText values) zone => h.text_ne hempty
  · rw [matchZone, if_neg hempty]
    cases hlga : clean zone.lga with
    | some lga => simp [ZoneMatches, namedPlace, hlga, apply_ite, ← containsPlace_iff]
    | none =>
      cases hstate : clean zone.state with
      | some state => simp [ZoneMatches, namedPlace, hlga, hstate, apply_ite, ← containsPlace_iff]
      | none =>
        cases hcountry : clean zone.country with
        | some country =>
          simp [ZoneMatches, namedPlace, hlga, hstate, hcountry, apply_ite, ← containsPlace_iff]
        | none => simp [ZoneMatches, namedPlace, hlga, hstate, hcountry]

theorem firstMatchedZone_isSome_iff (zones : List RoutingJurisdictionZone)
    (values : List (Option String)) :
    (firstMatchedZone zones (normalizeLocationText values)).isSome ↔
      ∃ zone ∈ zones, ZoneMatches (normalizeLocationText values) zone := by
  simp [firstMatchedZone, List.findSome?_isSome_iff, ← matchZone_isSome_iff]

/-- A report is in the jurisdiction of an organization: an active zone matches it, or without
one the locality of the organization. -/
def InJurisdiction (organization : RoutingOrganizationLocality) (report : RoutingLocationInput) :
    Prop :=
  (∃ zone ∈ organization.jurisdictionZones, zone.active ≠ some false ∧
      ZoneMatches (routingLocationText report) zone) ∨
    (∀ zone ∈ organization.jurisdictionZones, zone.active = some false) ∧
      ∃ legacy ∈ legacyFallbackZone organization, ZoneMatches (routingLocationText report) legacy

theorem evaluateRoutingJurisdiction_matched_iff (locale : LocaleOrder)
    (organization : RoutingOrganizationLocality) (report : RoutingLocationInput) :
    (evaluateRoutingJurisdiction locale organization report).matched ↔
      InJurisdiction organization report := by
  have hcomparable : InJurisdiction organization report → routingLocationText report ≠ "" := by
    rintro (⟨zone, -, -, hmatch⟩ | ⟨-, legacy, -, hmatch⟩) <;> exact hmatch.text_ne
  rw [evaluateRoutingJurisdiction_matched, Bool.and_eq_true, decide_eq_true_eq]
  suffices hfound : (if (activeRoutingJurisdictionZones organization.jurisdictionZones).isEmpty then
        (legacyFallbackZone organization).any fun zone =>
          (matchZone zone (routingLocationText report)).isSome
      else (firstMatchedZone (activeRoutingJurisdictionZones organization.jurisdictionZones)
        (routingLocationText report)).isSome) = true ↔ InJurisdiction organization report by
    rw [hfound, and_iff_left_of_imp hcomparable]
  by_cases hzones : activeRoutingJurisdictionZones organization.jurisdictionZones = []
  · have hinactive : ∀ zone ∈ organization.jurisdictionZones, zone.active = some false := by
      simpa [activeRoutingJurisdictionZones] using hzones
    rw [if_pos (by simp [hzones]), Option.any_eq_true]
    constructor
    · rintro ⟨legacy, hlegacy, hmatch⟩
      exact .inr ⟨hinactive, legacy, hlegacy, (matchZone_isSome_iff legacy _).mp hmatch⟩
    · rintro (⟨zone, hzone, hactive, -⟩ | ⟨-, legacy, hlegacy, hmatch⟩)
      · exact absurd (hinactive zone hzone) hactive
      · exact ⟨legacy, hlegacy, (matchZone_isSome_iff legacy _).mpr hmatch⟩
  · rw [if_neg (by simp [hzones]), routingLocationText, firstMatchedZone_isSome_iff]
    constructor
    · rintro ⟨zone, hzone, hmatch⟩
      obtain ⟨hzone, hactive⟩ := List.mem_filter.mp hzone
      exact .inl ⟨zone, hzone, by simpa using hactive, hmatch⟩
    · rintro (⟨zone, hzone, hactive, hmatch⟩ | ⟨hinactive, -⟩)
      · exact ⟨zone, List.mem_filter.mpr ⟨hzone, by simpa using hactive⟩, hmatch⟩
      · exact absurd (by simpa [activeRoutingJurisdictionZones] using hinactive) hzones

/-- **Exact matching.** A place is found in a normalized text exactly when it has tokens and they
stand next to each other among those of the text; an organization matches a report exactly when
one of its active zones does, or without one its locality; and the order of the zones plays no
part. -/
theorem matching_token_exact (locale : LocaleOrder) (values : List (Option String))
    (place : String) (organization : RoutingOrganizationLocality) (report : RoutingLocationInput)
    (zones : List RoutingJurisdictionZone) :
    (containsPlace (normalizeLocationText values) place ↔
        TokensOccur (normalizeLocationText values) place) ∧
      ((evaluateRoutingJurisdiction locale organization report).matched ↔
        InJurisdiction organization report) ∧
      (zones.Perm organization.jurisdictionZones →
        (evaluateRoutingJurisdiction locale { organization with jurisdictionZones := zones }
            report).matched =
          (evaluateRoutingJurisdiction locale organization report).matched) := by
  refine ⟨containsPlace_iff values place,
    evaluateRoutingJurisdiction_matched_iff locale organization report, fun hperm => ?_⟩
  rw [Bool.eq_iff_iff, evaluateRoutingJurisdiction_matched_iff,
    evaluateRoutingJurisdiction_matched_iff]
  simp only [InJurisdiction, hperm.mem_iff]
  rfl

namespace Example

/-- An office for two districts. -/
def office : RoutingOrganizationLocality where
  jurisdictionZones := [{ state := some "Lagos", lga := some "Ikeja" }, { lga := some "Garki" }]

/-- A report from one of them. -/
def garkiReport : RoutingLocationInput where
  location := some "12 Cross St., GARKI (Abuja)"

end Example

open Example in
/-- The district is found in the address whatever surrounds it, and the office matches with its
zones in either order. -/
theorem garki_matches :
    containsPlace (normalizeLocationText [some "12 Cross St., GARKI (Abuja)"]) "Garki" ∧
      (evaluateRoutingJurisdiction (fun a b => a ≤ b) office garkiReport).matched ∧
      (evaluateRoutingJurisdiction (fun a b => a ≤ b)
        { office with jurisdictionZones := office.jurisdictionZones.reverse } garkiReport).matched := by
  obtain ⟨hplace, hmatched, horder⟩ := matching_token_exact (fun a b => a ≤ b)
    [some "12 Cross St., GARKI (Abuja)"] "Garki" office garkiReport office.jurisdictionZones.reverse
  have hfound : TokensOccur (routingLocationText garkiReport) "Garki" := by
    unfold TokensOccur
    decide +kernel
  have hoffice := hmatched.mpr
    (.inl ⟨{ lga := some "Garki" }, by decide, by decide, "Garki", rfl, hfound⟩)
  exact ⟨hplace.mpr hfound, hoffice, (horder (List.reverse_perm _)).trans hoffice⟩

/-- The pattern sees a text as it is given. A raw text has its punctuation, and in a normalized one
the phrase that a doubled blank has kept is no `FCT` to it, though normalizing again makes it one. -/
theorem text_searched_as_given :
    ¬(containsPlace "Garki, Abuja" "Garki" ↔
        TokensOccur (normalizeLocationText [some "Garki, Abuja"]) "Garki") ∧
      ¬(containsPlace (normalizeLocationText [some "Federal  Capital Territory"]) "FCT" ↔
        TokensOccur (normalizeLocationText
          [some (normalizeLocationText [some "Federal  Capital Territory"])]) "FCT") := by
  unfold TokensOccur
  decide +kernel

end FixZone.Organization
