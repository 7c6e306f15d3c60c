import MarketBrief.Lexicon.Basic
import MarketBrief.Overlap
import MarketBrief.Proofs.Article.Promotion
import MarketBrief.Proofs.Thesis.Ranking
import MarketBrief.Proofs.Unicode.Ascii

/-!
# Texts that differ in case alone

Tokens, vocabularies, overlaps and categories read a text in lowercase, and promotional phrases are read letter by
letter. Either way the case of ASCII letters makes no difference, nor does it change what becomes of a capital sigma.

* `SameButCase`: texts that differ in nothing but the case of ASCII letters;
* `afterPromotion?_map_toLower`, `holdsPromotion_map_toLower`: promotional phrases are found whatever their case;
* `scoring_ignores_case`: such texts are scored the same everywhere.
-/

namespace MarketBrief

open Article Category Text Token Unicode

/-- The texts differ in nothing but the case of ASCII letters. -/
def SameButCase (x y : String) : Prop := x.toList.map Char.toLower = y.toList.map Char.toLower

instance (x y : String) : Decidable (SameButCase x y) := inferInstanceAs (Decidable (_ = _))

/-! ### Fixed phrases -/

namespace Text

theorem foldsTo_iff {p c : Char} (hp : p.toLower = p) :
    foldsTo p c = true ↔ c.toLower = p ∨ (p = 's' ∧ c.toLower = '\u017f') ∨ (p = 'k' ∧ c.toLower = '\u212a') := by
  have hlongS : c.toLower = '\u017f' ↔ c = '\u017f' := toLower_eq_iff_of_caseless (by decide) (by decide)
  have hkelvin : c.toLower = '\u212a' ↔ c = '\u212a' := toLower_eq_iff_of_caseless (by decide) (by decide)
  rw [hlongS, hkelvin, toLower_eq_iff hp]
  simp only [foldsTo, Bool.or_eq_true, Bool.and_eq_true, beq_iff_eq, or_assoc]

theorem ignoresCase_foldsTo {p : Char} (hp : p.toLower = p) : IgnoresCase (foldsTo p) := by
  intro c
  rw [Bool.eq_iff_iff, foldsTo_iff hp, foldsTo_iff hp, Char.toLower_toLower_eq_toLower]

theorem afterPhrase?_map_toLower {phrase : List Char} (h : ∀ p ∈ phrase, IgnoresCase (foldsTo p)) (cs : List Char) :
    afterPhrase? phrase (cs.map Char.toLower) = (afterPhrase? phrase cs).map (List.map Char.toLower) := by
  induction phrase generalizing cs with
  | nil => rfl
  | cons p phrase ih =>
    obtain ⟨hp, hphrase⟩ := List.forall_mem_cons.1 h
    cases cs with
    | nil => rfl
    | cons c cs =>
      rw [List.map_cons, afterPhrase?, afterPhrase?, hp c]
      split
      · exact ih hphrase cs
      · rfl

theorem findSome?_afterPhrase?_map_toLower {phrases : List (List Char)}
    (h : ∀ phrase ∈ phrases, ∀ p ∈ phrase, IgnoresCase (foldsTo p)) (cs : List Char) :
    phrases.findSome? (afterPhrase? · (cs.map Char.toLower)) =
      (phrases.findSome? (afterPhrase? · cs)).map (List.map Char.toLower) := by
  induction phrases with
  | nil => rfl
  | cons phrase phrases ih =>
    obtain ⟨hphrase, hphrases⟩ := List.forall_mem_cons.1 h
    rw [List.findSome?_cons, List.findSome?_cons, afterPhrase?_map_toLower hphrase, ih hphrases]
    cases afterPhrase? phrase cs <;> rfl

end Text

/-! ### Promotional phrases -/

namespace Article

/-- The phrases hold no capital letters; for a capital letter no small one would stand. -/
theorem forall_ignoresCase_foldsTo :
    ∀ phrase ∈ " off".toList :: promotionalPhrases, ∀ p ∈ phrase, IgnoresCase (foldsTo p) := by
  have hsmall : ((" off".toList :: promotionalPhrases).all fun phrase => phrase.all fun p => p.toLower == p) = true := by
    decide +kernel
  intro phrase hphrase p hp
  exact ignoresCase_foldsTo (beq_iff_eq.1 (List.all_eq_true.1 (List.all_eq_true.1 hsmall phrase hphrase) p hp))

theorem ignoresCase_isSettledDigit : IgnoresCase isSettledDigit := ignoresCase_of_capitals (by decide +kernel)

theorem afterDiscount?_map_toLower (cs : List Char) :
    afterDiscount? (cs.map Char.toLower) = (afterDiscount? cs).map (List.map Char.toLower) := by
  match cs with
  | [] => rfl
  | [c] => simp [afterDiscount?]
  | c :: d :: cs =>
    have hdollar : c.toLower = '$' ↔ c = '$' := toLower_eq_iff_of_caseless (by decide) (by decide)
    by_cases hc : c = '$'
    · subst hc
      rw [List.map_cons, List.map_cons, hdollar.2 rfl, afterDiscount?, afterDiscount?, ignoresCase_isSettledDigit,
        ignoresCase_isSettledDigit.dropWhile_map]
      split
      · exact afterPhrase?_map_toLower (forall_ignoresCase_foldsTo _ List.mem_cons_self) _
      · rfl
    · simp [afterDiscount?, hdollar, hc]

theorem afterPromotion?_map_toLower (cs : List Char) :
    afterPromotion? (cs.map Char.toLower) = (afterPromotion? cs).map (List.map Char.toLower) := by
  have hphrases := (List.forall_mem_cons.1 forall_ignoresCase_foldsTo).2
  rw [afterPromotion?, findSome?_afterPhrase?_map_toLower hphrases, afterDiscount?_map_toLower, ← Option.map_or,
    afterPromotion?]

theorem holdsPromotion_map_toLower (cs : List Char) : holdsPromotion (cs.map Char.toLower) = holdsPromotion cs := by
  induction cs with
  | nil => rfl
  | cons c cs ih =>
    rw [List.map_cons, holdsPromotion, ← List.map_cons, afterPromotion?_map_toLower, Option.isSome_map, ih,
      holdsPromotion]

end Article

/-! ### Scoring -/

section Scoring

variable {x y : String} (h : SameButCase x y)

include h

theorem lowered_eq_of_sameButCase : lowered x = lowered y := by
  rw [lowered, ← lower_map_toLower, h, lower_map_toLower, lowered]

theorem tokenize_eq_of_sameButCase : tokenize x = tokenize y := by
  rw [tokenize, ← lower_map_toLower, h, lower_map_toLower, tokenize]

theorem isPromotional_eq_of_sameButCase : isPromotional x = isPromotional y := by
  rw [isPromotional, ← holdsPromotion_map_toLower, h, holdsPromotion_map_toLower, isPromotional]

theorem wordSet_eq_of_sameButCase : wordSet x = wordSet y := by
  rw [wordSet, tokenize_eq_of_sameButCase h, wordSet]

theorem rank_eq_of_sameButCase (s : Scorer) (group : Group) : s.rank x group = s.rank y group := by
  rw [Scorer.rank, lowered_eq_of_sameButCase h, Scorer.rank]

theorem thesis_eq_of_sameButCase (s : Scorer) (documents : List Document) :
    s.thesis x documents = s.thesis y documents := by
  simp only [Scorer.thesis, Scorer.topLabels, rank_eq_of_sameButCase h]

/-- **Case.** Texts that differ in nothing but the case of ASCII letters have the same tokens, the same score in every
vocabulary, the same overlap with any text, the same promotional phrases, and the same thesis. -/
theorem scoring_ignores_case :
    tokenize x = tokenize y ∧
    (∀ l : Lexicon, l.score x = l.score y) ∧
    (∀ z, overlapRatio x z = overlapRatio y z ∧ overlapRatio z x = overlapRatio z y) ∧
    isPromotional x = isPromotional y ∧
    ∀ s : Scorer, (∀ group, s.rank x group = s.rank y group) ∧
      ∀ documents, s.thesis x documents = s.thesis y documents := by
  refine ⟨tokenize_eq_of_sameButCase h, fun l => ?_, fun z => ⟨?_, ?_⟩, isPromotional_eq_of_sameButCase h,
    fun s => ⟨rank_eq_of_sameButCase h s, thesis_eq_of_sameButCase h s⟩⟩
  · rw [Lexicon.score, tokenize_eq_of_sameButCase h, Lexicon.score]
  · rw [overlapRatio, wordSet_eq_of_sameButCase h, overlapRatio]
  · rw [overlapRatio, wordSet_eq_of_sameButCase h, overlapRatio]

end Scoring

/-- A sigma stays final or not, whichever case the letter beside it has. -/
theorem scoring_ignores_case_beside_sigma :
    SameButCase "Sign UP: AΣ and ΣA" "sIGN up: aΣ AND Σa" ∧
    tokenize "Sign UP: AΣ and ΣA" = ["sign", "up", "aς", "and", "σa"] ∧
    tokenize "Sign UP: AΣ and ΣA" = tokenize "sIGN up: aΣ AND Σa" ∧
    isPromotional "Sign UP: AΣ and ΣA" = true ∧
    isPromotional "sIGN up: aΣ AND Σa" = true ∧
    ∀ (s : Scorer) documents, s.thesis "Sign UP: AΣ and ΣA" documents = s.thesis "sIGN up: aΣ AND Σa" documents := by
  have h : SameButCase "Sign UP: AΣ and ΣA" "sIGN up: aΣ AND Σa" := by decide +kernel
  have hpromotional : isPromotional "Sign UP: AΣ and ΣA" = true := by decide +kernel
  obtain ⟨htokens, -, -, hsame, hscorer⟩ := scoring_ignores_case h
  exact ⟨h, by decide +kernel, htokens, hpromotional, hsame ▸ hpromotional, fun s => (hscorer s).2⟩

end MarketBrief
