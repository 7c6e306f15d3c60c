import MarketBrief.Text.Phrase
import MarketBrief.Unicode.Settled

/-!
# Promotional phrases

News pages carry offers between their sentences: fixed phrases, and discounts such as `$200 off`.

* `afterPromotion?`: the text behind a promotional phrase at its beginning;
* `isPromotional`: whether a text holds such a phrase;
* `blankPromotions`: the text with each phrase, from the left, replaced by a space.
-/

namespace MarketBrief.Article

open Text Unicode

/-- The fixed phrases. No text begins with two of them. -/
def promotionalPhrases : List (List Char) :=
  ["register now", "early bird", "save up to", "buy tickets", "get tickets", "sign up", "subscribe now", "learn more",
   "click here", "limited time"].map String.toList

/-- The text behind a discount: a dollar sign, decimal digits and the word `off`. -/
def afterDiscount? : List Char → Option (List Char)
  | '$' :: c :: cs => if isSettledDigit c then afterPhrase? " off".toList (cs.dropWhile isSettledDigit) else none
  | _ => none

/-- The text behind a promotional phrase, if the text begins with one. -/
def afterPromotion? (cs : List Char) : Option (List Char) :=
  (promotionalPhrases.findSome? (afterPhrase? · cs)).or (afterDiscount? cs)

theorem length_of_afterDiscount? {cs rest : List Char} (h : afterDiscount? cs = some rest) :
    rest.length < cs.length := by
  unfold afterDiscount? at h
  split at h
  · next c cs =>
    split at h
    · have h1 := length_of_afterPhrase? h
      have h2 := length_dropWhile_le isSettledDigit cs
      simp only [List.length_cons]
      omega
    · simp at h
  · simp at h

theorem length_of_afterPromotion? {cs rest : List Char} (h : afterPromotion? cs = some rest) :
    rest.length < cs.length := by
  rcases Option.or_eq_some_iff.1 h with h | ⟨_, h⟩
  · obtain ⟨p, hp, h⟩ := List.exists_of_findSome?_eq_some h
    have h1 := length_of_afterPhrase? h
    have h2 : ∀ p ∈ promotionalPhrases, 0 < p.length := by decide +kernel
    have h3 := h2 p hp
    omega
  · exact length_of_afterDiscount? h

/-- Whether a promotional phrase begins somewhere in the text. -/
def holdsPromotion : List Char → Bool
  | [] => false
  | c :: cs => (afterPromotion? (c :: cs)).isSome || holdsPromotion cs

def isPromotional (text : String) : Bool := holdsPromotion text.toList

/-- The text with a space for each promotional phrase, taken from the left. -/
def blankPromotions : List Char → List Char
  | [] => []
  | c :: cs =>
    match _ : afterPromotion? (c :: cs) with
    | some rest => ' ' :: blankPromotions rest
    | none => c :: blankPromotions cs
termination_by cs => cs.length
decreasing_by
  · exact length_of_afterPromotion? (by assumption)
  · simp

end MarketBrief.Article
