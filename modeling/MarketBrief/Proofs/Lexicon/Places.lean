import MarketBrief.Proofs.Lexicon.Score
import MarketBrief.Proofs.Lists

/-!
# Places of terms

A score is counted along the tokens. Here the same hits are places: positions at which a word stands, and pairs of a
phrase and a position at which it stands.

* `singularized?`, `StandsFor`: tokens stand for a phrase as they are, or with the last one in the singular;
* `window`, `beginsPhrase_eq_true_iff`: a phrase begins where a window of its length stands for it;
* `wordPlaces`, `phrasePlaces`: the places of the words and phrases of a vocabulary;
* `scoreTokens_eq_card`: the score is the number of places, if no phrase is listed twice; in a vocabulary of terms none
  is (`scoreTokens_ofTerms_eq_card`).
-/

namespace MarketBrief.Lexicon

/-! ### The last token in the singular -/

def singularized? : List String → Option (List String)
  | [] => none
  | [token] => (singular? token).map fun stem => [stem]
  | token :: next :: tokens => (singularized? (next :: tokens)).map (token :: ·)

/-- The tokens stand for the phrase: they are the phrase, or they are it with the last one in the singular. -/
def StandsFor (tokens phrase : List String) : Prop := tokens = phrase ∨ singularized? tokens = some phrase

instance (tokens phrase : List String) : Decidable (StandsFor tokens phrase) := inferInstanceAs (Decidable (_ ∨ _))

theorem length_of_singularized? {tokens phrase : List String} (h : singularized? tokens = some phrase) :
    phrase.length = tokens.length := by
  fun_induction singularized? tokens generalizing phrase with
  | case1 => exact absurd h (Option.some_ne_none phrase).symm
  | case2 token =>
    obtain ⟨stem, -, rfl⟩ := Option.map_eq_some_iff.1 h
    rfl
  | case3 token next tokens ih =>
    obtain ⟨rest, hrest, rfl⟩ := Option.map_eq_some_iff.1 h
    exact congrArg (· + 1) (ih hrest)

theorem StandsFor.length_eq {tokens phrase : List String} (h : StandsFor tokens phrase) :
    phrase.length = tokens.length := by
  rcases h with rfl | h
  · rfl
  · exact length_of_singularized? h

theorem standsFor_singleton_iff {token word : String} :
    StandsFor [token] [word] ↔ token = word ∨ singular? token = some word := by
  simp [StandsFor, singularized?]

theorem not_standsFor_nil {p : String} {phrase : List String} : ¬ StandsFor [] (p :: phrase) := by
  simp [StandsFor, singularized?]

theorem standsFor_cons_iff {t p : String} {tokens phrase : List String} (h : phrase ≠ []) :
    StandsFor (t :: tokens) (p :: phrase) ↔ t = p ∧ StandsFor tokens phrase := by
  obtain ⟨q, phrase, rfl⟩ := List.exists_cons_of_ne_nil h
  cases tokens with
  | nil => simp [StandsFor, singularized?]
  | cons u tokens =>
    simp only [StandsFor, singularized?, List.cons.injEq, Option.map_eq_some_iff, exists_eq_right_right]
    rw [and_comm (b := t = p), ← and_or_left]

/-! ### Windows -/

/-- The tokens from a position on, no more than `length` of them. -/
def window (tokens : List String) (start length : Nat) : List String := (tokens.drop start).take length

theorem window_zero (tokens : List String) (length : Nat) : window tokens 0 length = tokens.take length := rfl

theorem length_window (tokens : List String) (start length : Nat) :
    (window tokens start length).length = min length (tokens.length - start) := by
  rw [window, List.length_take, List.length_drop]

theorem beginsPhrase_eq_true_iff {phrase tokens : List String} :
    beginsPhrase phrase tokens = true ↔ StandsFor (tokens.take phrase.length) phrase := by
  fun_induction beginsPhrase phrase tokens with
  | case1 => simp [StandsFor]
  | case2 => simpa using not_standsFor_nil
  | case3 last t ts => simp [standsFor_singleton_iff]
  | case4 p ps t ts hps ih =>
    have hne : ps ≠ [] := by simpa using hps
    rw [Bool.and_eq_true, ih, List.length_cons, List.take_succ_cons, standsFor_cons_iff hne, beq_iff_eq]

theorem phraseHits_eq_count (phrase tokens : List String) :
    phraseHits phrase tokens = Nat.count (fun i => StandsFor (window tokens i phrase.length) phrase) tokens.length := by
  induction tokens with
  | nil => rfl
  | cons t tokens ih =>
    rw [List.length_cons, Nat.count_succ', phraseHits, ih, Nat.add_comm]
    exact congrArg (_ + ·) (if_congr beginsPhrase_eq_true_iff rfl rfl)

theorem hasWord_eq_true_iff {l : Lexicon} {token : String} :
    l.hasWord token = true ↔ ∃ word ∈ l.words, StandsFor [token] [word] := by
  simp only [hasWord, Bool.or_eq_true, List.contains_iff_mem, Option.any_eq_true, standsFor_singleton_iff]
  constructor
  · rintro (h | ⟨stem, hstem, h⟩)
    · exact ⟨token, h, Or.inl rfl⟩
    · exact ⟨stem, h, Or.inr hstem⟩
  · rintro ⟨word, h, rfl | hstem⟩
    · exact Or.inl h
    · exact Or.inr ⟨word, hstem, h⟩

/-! ### Places -/

/-- The positions at which a word of the vocabulary stands. -/
def wordPlaces (l : Lexicon) (tokens : List String) : Finset Nat :=
  (Finset.range tokens.length).filter fun i => ∃ word ∈ l.words, StandsFor (window tokens i 1) [word]

/-- The phrases of the vocabulary with the positions at which they stand. -/
def phrasePlaces (l : Lexicon) (tokens : List String) : Finset (List String × Nat) :=
  (l.phrases.toFinset ×ˢ Finset.range tokens.length).filter fun place =>
    StandsFor (window tokens place.2 place.1.length) place.1

section Places

variable {l : Lexicon} {tokens phrase : List String} {start : Nat}

theorem mem_phrasePlaces_iff :
    (phrase, start) ∈ l.phrasePlaces tokens ↔
      phrase ∈ l.phrases ∧ start < tokens.length ∧ StandsFor (window tokens start phrase.length) phrase := by
  simp [phrasePlaces, and_assoc]

/-- A phrase that stands at a position ends within the tokens. -/
theorem add_length_le_of_mem_phrasePlaces (h : (phrase, start) ∈ l.phrasePlaces tokens) :
    start + phrase.length ≤ tokens.length := by
  obtain ⟨-, hstart, hstands⟩ := mem_phrasePlaces_iff.1 h
  have hlength := hstands.length_eq
  rw [length_window] at hlength
  omega

end Places

theorem countP_hasWord_eq_card (l : Lexicon) (tokens : List String) :
    tokens.countP l.hasWord = (l.wordPlaces tokens).card := by
  rw [wordPlaces, ← Nat.count_eq_card_filter_range]
  induction tokens with
  | nil => rfl
  | cons t tokens ih =>
    rw [List.countP_cons, List.length_cons, Nat.count_succ', ih]
    exact congrArg (_ + ·) (if_congr hasWord_eq_true_iff rfl rfl)

theorem sum_phraseHits_eq_card {l : Lexicon} (h : l.phrases.Nodup) (tokens : List String) :
    (l.phrases.map (phraseHits · tokens)).sum = (l.phrasePlaces tokens).card := by
  rw [← List.sum_toFinset _ h, phrasePlaces, Finset.card_filter, Finset.sum_product]
  refine Finset.sum_congr rfl fun phrase _ => ?_
  rw [phraseHits_eq_count, Nat.count_eq_card_filter_range, Finset.card_filter]

/-- The score is the number of places of words and phrases. -/
theorem scoreTokens_eq_card {l : Lexicon} (h : l.phrases.Nodup) (tokens : List String) :
    l.scoreTokens tokens = (l.wordPlaces tokens).card + (l.phrasePlaces tokens).card := by
  rw [scoreTokens_eq_sum, countP_hasWord_eq_card, sum_phraseHits_eq_card h]

/-! ### Vocabularies of terms -/

variable {terms : List String}

theorem nodup_phrases_ofTerms : (ofTerms terms).phrases.Nodup := Lists.nodup_eraseDups _

theorem two_le_length_of_mem_phrases {phrase : List String} (h : phrase ∈ (ofTerms terms).phrases) :
    2 ≤ phrase.length := by
  simpa using (List.mem_filter.1 (List.mem_eraseDups.1 h)).2

theorem scoreTokens_ofTerms_eq_card (terms tokens : List String) :
    (ofTerms terms).scoreTokens tokens =
      ((ofTerms terms).wordPlaces tokens).card + ((ofTerms terms).phrasePlaces tokens).card :=
  scoreTokens_eq_card nodup_phrases_ofTerms tokens

end MarketBrief.Lexicon
