import MarketBrief.Proofs.Lexicon.Places

/-!
# Phrases listed beside their plurals

A token scores once, whether it is a word of the vocabulary, or its singular is one, or both. A window scores for each
phrase that it stands for. It stands for no more than two: the phrase that it is, and the one that it is in the plural.
So it scores twice just where a vocabulary lists a phrase beside its plural.

* `singularized?_ne_some_self`: no phrase is its own plural;
* `windows`, `phraseWindows`, `twofoldWindows`: the windows of a list of tokens, those that stand for a phrase, and those
  that stand for two;
* `card_phrasePlaces_eq`: the places of phrases, counted by windows;
* `score_once_iff`: the score, and the vocabularies for which each window scores once;
* `Contracts.score_twice`: a smart contract beside smart contracts.
-/

namespace MarketBrief

theorem singular?_ne_some_self (token : String) : singular? token ≠ some token := by
  intro h
  unfold singular? at h
  split at h
  · exact absurd h (Option.some_ne_none token).symm
  · next stem hrev =>
    split at h
    · have hlength := congrArg (fun s : String => s.toList.length) (Option.some.inj h)
      have hlength' := congrArg List.length hrev
      simp only [String.toList_ofList, List.length_reverse, List.length_cons] at hlength hlength'
      omega
    · exact absurd h (Option.some_ne_none token).symm
  · exact absurd h (Option.some_ne_none token).symm

namespace Lexicon

theorem singularized?_ne_some_self (tokens : List String) : singularized? tokens ≠ some tokens := by
  fun_induction singularized? tokens with
  | case1 => exact (Option.some_ne_none []).symm
  | case2 token =>
    intro h
    obtain ⟨stem, hstem, heq⟩ := Option.map_eq_some_iff.1 h
    obtain rfl : stem = token := by simpa using heq
    exact singular?_ne_some_self stem hstem
  | case3 token next tokens ih =>
    intro h
    obtain ⟨rest, hrest, heq⟩ := Option.map_eq_some_iff.1 h
    obtain rfl := (List.cons.inj heq).2
    exact ih hrest

/-! ### Windows -/

/-- The windows of at least two tokens: their positions and lengths. -/
def windows (tokens : List String) : Finset (Nat × Nat) :=
  (Finset.range tokens.length ×ˢ Finset.range (tokens.length + 1)).filter fun w =>
    2 ≤ w.2 ∧ w.1 + w.2 ≤ tokens.length

theorem mem_windows_iff {tokens : List String} {start length : Nat} :
    (start, length) ∈ windows tokens ↔ 2 ≤ length ∧ start + length ≤ tokens.length := by
  simp only [windows, Finset.mem_filter, Finset.mem_product, Finset.mem_range]
  omega

/-- The windows of a list of tokens that stand for some phrase of the vocabulary. -/
def phraseWindows (l : Lexicon) (tokens : List String) : Finset (Nat × Nat) :=
  (windows tokens).filter fun w => ∃ phrase ∈ l.phrases, StandsFor (window tokens w.1 w.2) phrase

/-- The windows that are a phrase of the vocabulary, and are another one in the plural. -/
def twofoldWindows (l : Lexicon) (tokens : List String) : Finset (Nat × Nat) :=
  (windows tokens).filter fun w => window tokens w.1 w.2 ∈ l.phrases ∧
    ∃ phrase ∈ l.phrases, singularized? (window tokens w.1 w.2) = some phrase

/-- If a reading of tokens keeps their number, the places at which a phrase is read are windows in which one is read. -/
theorem card_readings (read? : List String → Option (List String))
    (hread : ∀ tokens phrase, read? tokens = some phrase → phrase.length = tokens.length) (terms tokens : List String) :
    (((ofTerms terms).phrases.toFinset ×ˢ Finset.range tokens.length).filter fun place =>
        read? (window tokens place.2 place.1.length) = some place.1).card =
      ((windows tokens).filter fun w =>
        ∃ phrase ∈ (ofTerms terms).phrases, read? (window tokens w.1 w.2) = some phrase).card := by
  -- a place gives the window of its phrase, and a window can be read as no other phrase
  refine Finset.card_bij (fun place _ => (place.2, place.1.length)) ?_ ?_ ?_
  · rintro ⟨phrase, start⟩ hplace
    simp only [Finset.mem_filter, Finset.mem_product, List.mem_toFinset, Finset.mem_range] at hplace
    obtain ⟨⟨hphrase, hstart⟩, hwindow⟩ := hplace
    have hlength := hread _ _ hwindow
    rw [length_window] at hlength
    have hin : (start, phrase.length) ∈ windows tokens :=
      mem_windows_iff.2 ⟨two_le_length_of_mem_phrases hphrase, by omega⟩
    exact Finset.mem_filter.2 ⟨hin, phrase, hphrase, hwindow⟩
  · rintro ⟨p, m⟩ hp ⟨q, n⟩ hq heq
    obtain ⟨hstart, hlength⟩ := Prod.mk.inj heq
    have hp := (Finset.mem_filter.1 hp).2
    have hq := (Finset.mem_filter.1 hq).2
    simp only at hstart hlength hp hq
    rw [hstart, hlength, hq] at hp
    rw [hstart, Option.some.inj hp]
  · rintro ⟨start, length⟩ hw
    obtain ⟨hin, phrase, hphrase, hwindow⟩ := Finset.mem_filter.1 hw
    obtain ⟨htwo, hend⟩ := mem_windows_iff.1 hin
    have hlength := hread _ _ hwindow
    rw [length_window] at hlength
    obtain rfl : phrase.length = length := by omega
    refine ⟨(phrase, start), ?_, rfl⟩
    simp only [Finset.mem_filter, Finset.mem_product, List.mem_toFinset, Finset.mem_range]
    exact ⟨⟨hphrase, by omega⟩, hwindow⟩

/-- A window scores for the phrase that it is, and for the one that it is in the plural. -/
theorem card_phrasePlaces_eq (terms tokens : List String) :
    ((ofTerms terms).phrasePlaces tokens).card =
      ((ofTerms terms).phraseWindows tokens).card + ((ofTerms terms).twofoldWindows tokens).card := by
  have hplaces : (ofTerms terms).phrasePlaces tokens =
      (((ofTerms terms).phrases.toFinset ×ˢ Finset.range tokens.length).filter fun place =>
          some (window tokens place.2 place.1.length) = some place.1) ∪
        ((ofTerms terms).phrases.toFinset ×ˢ Finset.range tokens.length).filter fun place =>
          singularized? (window tokens place.2 place.1.length) = some place.1 := by
    rw [← Finset.filter_or]
    exact Finset.filter_congr fun place _ => by rw [Option.some_inj, StandsFor]
  have hwindows : (ofTerms terms).phraseWindows tokens =
      ((windows tokens).filter fun w =>
          ∃ phrase ∈ (ofTerms terms).phrases, some (window tokens w.1 w.2) = some phrase) ∪
        (windows tokens).filter fun w =>
          ∃ phrase ∈ (ofTerms terms).phrases, singularized? (window tokens w.1 w.2) = some phrase := by
    rw [← Finset.filter_or]
    refine Finset.filter_congr fun w _ => ?_
    simp only [StandsFor, Option.some_inj, and_or_left, exists_or]
  have htwofold : (ofTerms terms).twofoldWindows tokens =
      ((windows tokens).filter fun w =>
          ∃ phrase ∈ (ofTerms terms).phrases, some (window tokens w.1 w.2) = some phrase) ∩
        (windows tokens).filter fun w =>
          ∃ phrase ∈ (ofTerms terms).phrases, singularized? (window tokens w.1 w.2) = some phrase := by
    rw [← Finset.filter_and]
    refine Finset.filter_congr fun w _ => ?_
    simp only [Option.some_inj, exists_eq_right']
  rw [hplaces, Finset.card_union_of_disjoint, card_readings some, card_readings singularized?, hwindows, htwofold,
    Finset.card_union_add_card_inter]
  · exact fun _ _ => length_of_singularized?
  · exact fun _ _ h => congrArg List.length (Option.some.inj h).symm
  · refine Finset.disjoint_filter.2 fun place _ hwhole hfolded => ?_
    rw [Option.some.inj hwhole] at hfolded
    exact singularized?_ne_some_self place.1 hfolded

/-! ### Scores -/

/-- A phrase is listed beside its plural. -/
def ListsPlural (l : Lexicon) : Prop := ∃ plural ∈ l.phrases, ∃ phrase ∈ l.phrases, singularized? plural = some phrase

theorem twofoldWindows_eq_empty {l : Lexicon} (h : ¬ l.ListsPlural) (tokens : List String) :
    l.twofoldWindows tokens = ∅ :=
  Finset.filter_false_of_mem fun _ _ ⟨hplural, hphrase⟩ => h ⟨_, hplural, hphrase⟩

/-- The plural is a window of itself. -/
theorem mem_twofoldWindows_self {terms plural phrase : List String} (hplural : plural ∈ (ofTerms terms).phrases)
    (hphrase : phrase ∈ (ofTerms terms).phrases) (h : singularized? plural = some phrase) :
    (0, plural.length) ∈ (ofTerms terms).twofoldWindows plural := by
  have hself : window plural 0 plural.length = plural := by rw [window_zero, List.take_length]
  refine Finset.mem_filter.2 ⟨mem_windows_iff.2 ⟨two_le_length_of_mem_phrases hplural, (Nat.zero_add _).le⟩, ?_⟩
  rw [hself]
  exact ⟨hplural, phrase, hphrase, h⟩

/-- **One hit for a place.** The score of tokens is the number of positions at which a word stands, and of windows that
stand for a phrase, and once more of the windows that are a phrase and are another one in the plural. So all windows
score at most once just if no phrase is listed beside its plural. -/
theorem score_once_iff (terms : List String) :
    (∀ tokens : List String, (ofTerms terms).scoreTokens tokens =
      ((ofTerms terms).wordPlaces tokens).card + ((ofTerms terms).phraseWindows tokens).card +
        ((ofTerms terms).twofoldWindows tokens).card) ∧
    ((∀ tokens : List String, (ofTerms terms).scoreTokens tokens =
      ((ofTerms terms).wordPlaces tokens).card + ((ofTerms terms).phraseWindows tokens).card) ↔
        ¬ (ofTerms terms).ListsPlural) := by
  have hscore : ∀ tokens : List String, (ofTerms terms).scoreTokens tokens =
      ((ofTerms terms).wordPlaces tokens).card + ((ofTerms terms).phraseWindows tokens).card +
        ((ofTerms terms).twofoldWindows tokens).card := fun tokens => by
    rw [scoreTokens_ofTerms_eq_card, card_phrasePlaces_eq, Nat.add_assoc]
  refine ⟨hscore, fun honce => ?_, fun hnone tokens => ?_⟩
  · rintro ⟨plural, hplural, phrase, hphrase, h⟩
    have hpos := Finset.card_pos.2 ⟨_, mem_twofoldWindows_self hplural hphrase h⟩
    have htwice := hscore plural
    rw [honce] at htwice
    omega
  · rw [hscore, twofoldWindows_eq_empty hnone, Finset.card_empty, Nat.add_zero]

/-! A smart contract beside smart contracts. -/

namespace Contracts

def terms : List String := ["smart contract", "smart contracts"]

def tokens : List String := ["smart", "contracts"]

/-- There is one window, but each of the two phrases scores. -/
theorem score_twice : ¬ ∀ terms tokens : List String, (ofTerms terms).scoreTokens tokens =
    ((ofTerms terms).wordPlaces tokens).card + ((ofTerms terms).phraseWindows tokens).card := by
  intro h
  have hscore : (ofTerms terms).scoreTokens tokens = 2 := by decide +kernel
  have hplaces : ((ofTerms terms).wordPlaces tokens).card = 0 := by decide +kernel
  have hwindows : ((ofTerms terms).phraseWindows tokens).card = 1 := by decide +kernel
  have honce := h terms tokens
  rw [hscore, hplaces, hwindows] at honce
  exact absurd honce (by decide)

end Contracts

/-! A word and its plural score once. -/

example : (ofTerms ["loan", "loans"]).scoreTokens ["loans"] = 1 := by decide +kernel

end Lexicon

end MarketBrief
