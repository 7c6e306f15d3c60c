import MarketBrief.Proofs.Lexicon.Score
import MarketBrief.Proofs.Sentence.Layout
import MarketBrief.Proofs.Token

/-!
# Tokens of a text and of its sentences

A text is cut into sentences at blanks, and no token reaches over a blank.

* `loweredTokens_eq_flatMap`: a text has the tokens of its sentences;
* `tokens_of_sentences`: the same for stored texts, and what it means for their scores.
-/

namespace MarketBrief.Sentence

open Text Token Unicode

theorem loweredTokens_eq_flatMap (cs : List Char) : loweredTokens cs = (splitChars cs).flatMap loweredTokens := by
  induction cs using cut_induction with
  | whole cs h =>
    rw [splitChars_of_one_piece h, ← loweredTokens_trim]
    split
    · next hnil => rw [hnil]; rfl
    · rw [List.flatMap_cons, List.flatMap_nil, List.append_nil]
  | cut front after hfront hafter hpieces ih =>
    rw [splitChars_of_cut hfront hpieces, List.flatMap_cons, ← ih, loweredTokens_trim,
      loweredTokens_append (isBlank_of_maySplitBefore hafter)]

theorem tokenize_eq_flatMap (text : String) : tokenize text = (split text).flatMap tokenize := by
  have hsentences : (split text).flatMap tokenize =
      (splitChars text.toList).flatMap fun s => (loweredTokens s).map String.ofList := by
    rw [← map_toList_split, List.flatMap_map]
    rfl
  rw [hsentences, ← List.map_flatMap, ← loweredTokens_eq_flatMap, tokenize_eq_map]

/-- **Splitting and reading tokens commute.** A text has the tokens of its sentences, in their order. So for every
vocabulary the scores of the sentences add up to no more than the score of the text, and to just that score if no phrase
has several words. -/
theorem tokens_of_sentences (text : String) :
    tokenize text = (split text).flatMap tokenize ∧
      ∀ l : Lexicon, ((split text).map l.score).sum ≤ l.score text ∧
        (l.IsWordwise → ((split text).map l.score).sum = l.score text) := by
  have htokens : tokenize text = ((split text).map tokenize).flatten := tokenize_eq_flatMap text
  have hscores : ∀ l : Lexicon, (split text).map l.score = ((split text).map tokenize).map l.scoreTokens :=
    fun l => List.map_map.symm
  refine ⟨tokenize_eq_flatMap text, fun l => ?_⟩
  rw [hscores, Lexicon.score, htokens]
  exact ⟨l.sum_scoreTokens_le _, fun h => Lexicon.sum_scoreTokens_eq h _⟩

/-! A phrase that begins in one sentence and ends in the next counts in the text alone. -/

example :
    let l := Lexicon.ofTerms ["cash app"]
    ((split "They paid cash. App users agree.").map l.score).sum = 0 ∧
      l.score "They paid cash. App users agree." = 1 := by decide +kernel

end MarketBrief.Sentence
