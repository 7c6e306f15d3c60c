import Mathlib
import MarketBrief.Lexicon.Basic

/-!
# Scores of tokens in parts

What is found in one part of a list of tokens is found in the whole. The whole may hold more: phrases that begin in one
part and end in another.

* `phraseHits_append_le`, `phraseHits_append`: the places of a phrase in two parts, and of a phrase of one word;
* `IsWordwise`: no phrase has several words; `isWordwise_ofTerms_iff`: the vocabularies of terms of which that is true;
* `sum_scoreTokens_le`, `sum_scoreTokens_eq`: the score of any number of parts.
-/

namespace MarketBrief.Lexicon

open Token

/-! ### Places of a phrase -/

theorem beginsPhrase_append {phrase tokens : List String} (h : beginsPhrase phrase tokens = true)
    (more : List String) : beginsPhrase phrase (tokens ++ more) = true := by
  fun_induction beginsPhrase phrase tokens with
  | case1 => rfl
  | case2 => exact Bool.noConfusion h
  | case3 last t ts => exact h
  | case4 p ps t ts hps ih =>
    obtain ⟨hp, hrest⟩ := Bool.and_eq_true_iff.1 h
    rw [List.cons_append, beginsPhrase, hp, ih hrest]
    · rfl
    · exact hps

theorem phraseHits_append_le (phrase a b : List String) :
    phraseHits phrase a + phraseHits phrase b ≤ phraseHits phrase (a ++ b) := by
  induction a with
  | nil => exact (Nat.zero_add _).le
  | cons t a ih =>
    have hhead : beginsPhrase phrase (t :: a) = true → beginsPhrase phrase (t :: (a ++ b)) = true :=
      fun h => beginsPhrase_append h b
    rw [List.cons_append, phraseHits, phraseHits]
    split
    · next h =>
      rw [if_pos (hhead h)]
      omega
    · omega

theorem phraseHits_append {phrase : List String} (h : phrase.length ≤ 1) (a b : List String) :
    phraseHits phrase (a ++ b) = phraseHits phrase a + phraseHits phrase b := by
  induction a with
  | nil => rw [phraseHits, Nat.zero_add, List.nil_append]
  | cons t a ih =>
    -- one token decides whether so short a phrase begins
    have hhead : beginsPhrase phrase (t :: (a ++ b)) = beginsPhrase phrase (t :: a) := by
      match phrase, h with
      | [], _ => rfl
      | [_], _ => rfl
    rw [List.cons_append, phraseHits, phraseHits, hhead, ih, Nat.add_assoc]

/-! ### Vocabularies without phrases of several words -/

/-- No phrase of the vocabulary has several words. -/
def IsWordwise (l : Lexicon) : Prop := ∀ phrase ∈ l.phrases, phrase.length ≤ 1

theorem isWordwise_ofTerms_iff {terms : List String} :
    (ofTerms terms).IsWordwise ↔ ∀ term ∈ terms, (tokenize term).length ≤ 1 := by
  simp only [IsWordwise, ofTerms, List.mem_eraseDups, List.mem_filter, List.mem_map, decide_eq_true_eq]
  constructor
  · intro h term hterm
    by_contra hlong
    exact hlong (h _ ⟨⟨term, hterm, rfl⟩, by omega⟩)
  · rintro h _ ⟨⟨term, hterm, rfl⟩, -⟩
    exact h term hterm

/-! ### Scores -/

theorem scoreTokens_eq_sum (l : Lexicon) (tokens : List String) :
    l.scoreTokens tokens = tokens.countP l.hasWord + (l.phrases.map (phraseHits · tokens)).sum := rfl

theorem scoreTokens_nil (l : Lexicon) : l.scoreTokens [] = 0 := by
  have hnone : (l.phrases.map (phraseHits · [])).sum = 0 :=
    List.sum_eq_zero fun n hn => by
      obtain ⟨phrase, -, rfl⟩ := List.mem_map.1 hn
      rfl
  rw [scoreTokens_eq_sum, hnone, List.countP_nil]

theorem scoreTokens_append_le (l : Lexicon) (a b : List String) :
    l.scoreTokens a + l.scoreTokens b ≤ l.scoreTokens (a ++ b) := by
  have hphrases : (l.phrases.map (phraseHits · a)).sum + (l.phrases.map (phraseHits · b)).sum ≤
      (l.phrases.map (phraseHits · (a ++ b))).sum := by
    rw [← List.sum_map_add]
    exact List.sum_le_sum fun phrase _ => phraseHits_append_le phrase a b
  simp only [scoreTokens_eq_sum, List.countP_append]
  omega

theorem scoreTokens_append {l : Lexicon} (h : l.IsWordwise) (a b : List String) :
    l.scoreTokens (a ++ b) = l.scoreTokens a + l.scoreTokens b := by
  have hphrases : (l.phrases.map (phraseHits · (a ++ b))).sum =
      (l.phrases.map (phraseHits · a)).sum + (l.phrases.map (phraseHits · b)).sum := by
    rw [← List.sum_map_add]
    exact congrArg List.sum (List.map_congr_left fun phrase hphrase => phraseHits_append (h phrase hphrase) a b)
  simp only [scoreTokens_eq_sum, List.countP_append]
  omega

theorem sum_scoreTokens_le (l : Lexicon) (parts : List (List String)) :
    (parts.map l.scoreTokens).sum ≤ l.scoreTokens parts.flatten := by
  induction parts with
  | nil => exact Nat.zero_le _
  | cons part parts ih =>
    rw [List.map_cons, List.sum_cons, List.flatten_cons]
    exact (Nat.add_le_add_left ih _).trans (l.scoreTokens_append_le part parts.flatten)

theorem sum_scoreTokens_eq {l : Lexicon} (h : l.IsWordwise) (parts : List (List String)) :
    (parts.map l.scoreTokens).sum = l.scoreTokens parts.flatten := by
  induction parts with
  | nil => exact l.scoreTokens_nil.symm
  | cons part parts ih => rw [List.map_cons, List.sum_cons, List.flatten_cons, ih, scoreTokens_append h]

end MarketBrief.Lexicon
