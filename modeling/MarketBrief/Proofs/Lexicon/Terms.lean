import MarketBrief.Proofs.Lexicon.Places

/-!
# A vocabulary is known from the tokens of its terms

How its terms are written, in which order, and how often each of them is given does not matter to a vocabulary: the set
of their token lists tells its size and all of its scores.

* `termTokens`: the token lists of some terms, without the empty one;
* `mem_words_ofTerms_iff`, `mem_phrases_ofTerms_iff`: words and phrases are token lists of terms;
* `size_eq_card`, `size_eq_zero_iff`: the number of terms;
* `scoreTokens_mono`: more terms score no less;
* `score_of_termTokens`: vocabularies with the same token lists, and with more of them;
* `Handwritten.score_of_handwritten`: terms written in two ways.
-/

namespace MarketBrief.Lexicon

open Token

/-! ### Token lists of terms -/

/-- The token lists of terms. A term without tokens adds none. -/
def termTokens (terms : List String) : Finset (List String) := (terms.map tokenize).toFinset.erase []

variable {terms others : List String}

theorem mem_termTokens_iff {tokens : List String} :
    tokens ∈ termTokens terms ↔ tokens ≠ [] ∧ tokens ∈ terms.map tokenize := by
  rw [termTokens, Finset.mem_erase, List.mem_toFinset]

theorem mem_words_ofTerms_iff {word : String} : word ∈ (ofTerms terms).words ↔ [word] ∈ termTokens terms := by
  rw [mem_termTokens_iff, ofTerms]
  simp only [List.mem_eraseDups, List.mem_flatten, List.mem_filter, decide_eq_true_eq, List.length_eq_one_iff]
  constructor
  · rintro ⟨_, ⟨hmem, other, rfl⟩, hword⟩
    obtain rfl := List.mem_singleton.1 hword
    exact ⟨List.cons_ne_nil _ _, hmem⟩
  · rintro ⟨-, hmem⟩
    exact ⟨[word], ⟨hmem, word, rfl⟩, List.mem_singleton_self word⟩

theorem mem_phrases_ofTerms_iff {phrase : List String} :
    phrase ∈ (ofTerms terms).phrases ↔ phrase ∈ termTokens terms ∧ 2 ≤ phrase.length := by
  rw [mem_termTokens_iff, ofTerms]
  simp only [List.mem_eraseDups, List.mem_filter, decide_eq_true_eq]
  constructor
  · rintro ⟨hmem, hlength⟩
    refine ⟨⟨?_, hmem⟩, hlength⟩
    rintro rfl
    exact absurd hlength (by decide)
  · rintro ⟨⟨-, hmem⟩, hlength⟩
    exact ⟨hmem, hlength⟩

/-! ### The number of terms -/

theorem length_words_ofTerms :
    (ofTerms terms).words.length = ((termTokens terms).filter fun tokens => tokens.length = 1).card := by
  have hnodup : (ofTerms terms).words.Nodup := Lists.nodup_eraseDups _
  have hsingletons : ((ofTerms terms).words.toFinset.image fun word => [word]) =
      (termTokens terms).filter fun tokens => tokens.length = 1 := by
    ext tokens
    simp only [Finset.mem_image, List.mem_toFinset, mem_words_ofTerms_iff, Finset.mem_filter, List.length_eq_one_iff]
    constructor
    · rintro ⟨word, hword, rfl⟩
      exact ⟨hword, word, rfl⟩
    · rintro ⟨hmem, word, rfl⟩
      exact ⟨word, hmem, rfl⟩
  rw [← hsingletons, Finset.card_image_of_injective _ fun a b h => List.singleton_inj.1 h,
    List.toFinset_card_of_nodup hnodup]

theorem length_phrases_ofTerms :
    (ofTerms terms).phrases.length = ((termTokens terms).filter fun tokens => ¬ tokens.length = 1).card := by
  have hlong : (ofTerms terms).phrases.toFinset = (termTokens terms).filter fun tokens => ¬ tokens.length = 1 := by
    ext tokens
    simp only [List.mem_toFinset, mem_phrases_ofTerms_iff, Finset.mem_filter]
    refine and_congr_right fun hmem => ?_
    have hpos := List.length_pos_iff.2 (mem_termTokens_iff.1 hmem).1
    omega
  rw [← hlong, List.toFinset_card_of_nodup nodup_phrases_ofTerms]

/-- Each token list is one term. -/
theorem size_eq_card (terms : List String) : (ofTerms terms).size = (termTokens terms).card := by
  rw [size, length_words_ofTerms, length_phrases_ofTerms, Finset.card_filter_add_card_filter_not]

theorem size_eq_zero_iff (l : Lexicon) : l.size = 0 ↔ l.isEmpty = true := by
  rw [size, isEmpty, Bool.and_eq_true, List.isEmpty_iff_length_eq_zero, List.isEmpty_iff_length_eq_zero]
  omega

/-! ### Scores -/

section Mono

variable (h : termTokens terms ⊆ termTokens others) (tokens : List String)

include h

theorem wordPlaces_mono : (ofTerms terms).wordPlaces tokens ⊆ (ofTerms others).wordPlaces tokens := by
  refine Finset.monotone_filter_right _ fun start _ => ?_
  rintro ⟨word, hword, hstands⟩
  exact ⟨word, mem_words_ofTerms_iff.2 (h (mem_words_ofTerms_iff.1 hword)), hstands⟩

theorem phrasePlaces_mono : (ofTerms terms).phrasePlaces tokens ⊆ (ofTerms others).phrasePlaces tokens := by
  refine Finset.filter_subset_filter _ (Finset.product_subset_product_left fun phrase hphrase => ?_)
  rw [List.mem_toFinset, mem_phrases_ofTerms_iff] at hphrase ⊢
  exact ⟨h hphrase.1, hphrase.2⟩

/-- More terms score no less. -/
theorem scoreTokens_mono : (ofTerms terms).scoreTokens tokens ≤ (ofTerms others).scoreTokens tokens := by
  rw [scoreTokens_ofTerms_eq_card, scoreTokens_ofTerms_eq_card]
  exact Nat.add_le_add (Finset.card_le_card (wordPlaces_mono h tokens)) (Finset.card_le_card (phrasePlaces_mono h tokens))

end Mono

/-- **Terms and their tokens.** Vocabularies of terms with the same token lists have the same size and give the same
scores, whatever the terms are and in whichever order they are given. The size is the number of these lists, and it is
zero just if the vocabulary is empty. A vocabulary with more of them gives no text a lower score. -/
theorem score_of_termTokens (terms others : List String) :
    (termTokens terms = termTokens others →
      (ofTerms terms).size = (ofTerms others).size ∧ (ofTerms terms).isEmpty = (ofTerms others).isEmpty ∧
        (∀ tokens, (ofTerms terms).scoreTokens tokens = (ofTerms others).scoreTokens tokens) ∧
        ∀ text, (ofTerms terms).score text = (ofTerms others).score text) ∧
    (ofTerms terms).size = (termTokens terms).card ∧
    ((ofTerms terms).size = 0 ↔ (ofTerms terms).isEmpty = true) ∧
    (termTokens terms ⊆ termTokens others → ∀ text, (ofTerms terms).score text ≤ (ofTerms others).score text) := by
  refine ⟨fun h => ?_, size_eq_card terms, size_eq_zero_iff _, fun h text => scoreTokens_mono h (tokenize text)⟩
  have hsize : (ofTerms terms).size = (ofTerms others).size := by rw [size_eq_card, size_eq_card, h]
  have hscore : ∀ tokens, (ofTerms terms).scoreTokens tokens = (ofTerms others).scoreTokens tokens := fun tokens =>
    Nat.le_antisymm (scoreTokens_mono h.subset tokens) (scoreTokens_mono h.superset tokens)
  refine ⟨hsize, ?_, hscore, fun text => hscore (tokenize text)⟩
  rw [Bool.eq_iff_iff, ← size_eq_zero_iff, ← size_eq_zero_iff, hsize]

/-! Terms written in two ways. -/

namespace Handwritten

/-- One of the terms is given twice, and one has no tokens. -/
def given : List String := ["Payment", "payment!", "cash app", "--"]

def other : List String := ["cash,  APP", "payment"]

def longer : List String := "robo-advisor" :: other

theorem score_of_handwritten :
    (termTokens given = termTokens other ∧ (ofTerms given).size = (ofTerms other).size ∧
      (ofTerms given).score "Cash apps take payments." = (ofTerms other).score "Cash apps take payments.") ∧
    termTokens given ⊆ termTokens longer ∧
      (ofTerms given).score "Cash apps take payments." ≤ (ofTerms longer).score "Cash apps take payments." := by
  have hsame : termTokens given = termTokens other := by decide +kernel
  have hmore : termTokens given ⊆ termTokens longer := by decide +kernel
  obtain ⟨hsize, -, -, hscore⟩ := (score_of_termTokens given other).1 hsame
  exact ⟨⟨hsame, hsize, hscore _⟩, hmore, (score_of_termTokens given longer).2.2.2 hmore _⟩

end Handwritten

end MarketBrief.Lexicon
