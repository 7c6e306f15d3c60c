import MarketBrief.Proofs.Text.Trim
import MarketBrief.Proofs.Unicode.Lowercase
import MarketBrief.Token

/-!
# Tokens of a text in parts

No token reaches over a blank: a blank belongs to no group, and a hyphen before it joins nothing. The lowercase mapping
does not look over a blank either.

* `tokensOf_append_of_isBlank`: on both sides of a blank the tokens can be read apart;
* `loweredTokens_append`, `loweredTokens_trim`: so can the tokens of any text, and blanks around it add none.
-/

namespace MarketBrief.Token

open Text Unicode

theorem isTokenChar_of_isBlank {c : Char} (h : isBlank c = true) : isTokenChar c = false := by
  rw [isTokenChar, isSettledLetter, isLetter_of_isBlank h, isSettledNumber, isNumber_of_isBlank h]
  rfl

/-! ### Lowercase texts -/

theorem tokensAfter_append_of_isBlank {b : Char} (hb : isBlank b = true) (token x y : List Char) :
    tokensAfter token (x ++ b :: y) = tokensAfter token x ++ tokensOf y := by
  have hseparates := isTokenChar_of_isBlank hb
  have hhyphen : b ≠ '-' := by
    rintro rfl
    exact absurd hb (by decide)
  induction x generalizing token with
  | nil => simp [tokensAfter, tokensOf, hseparates, hhyphen]
  | cons c x ih =>
    -- what a hyphen sees behind it is the same with the blank and with the end of the text
    have hnext : (x ++ b :: y).head?.any isTokenChar = x.head?.any isTokenChar := by
      cases x with
      | nil => simp [hseparates]
      | cons d x => rfl
    rw [List.cons_append, tokensAfter, tokensAfter, hnext, ih (c :: token), ih []]
    split
    · rfl
    · split
      · rfl
      · rw [List.append_assoc]

/-- A blank parts the tokens of a text. -/
theorem tokensOf_append_of_isBlank {b : Char} (hb : isBlank b = true) (x y : List Char) :
    tokensOf (x ++ b :: y) = tokensOf x ++ tokensOf y :=
  tokensAfter_append_of_isBlank hb [] x y

/-! ### Any texts -/

/-- The tokens of a text that need not be in lowercase. -/
def loweredTokens (cs : List Char) : List (List Char) := tokensOf (lower cs)

theorem tokenize_eq_map (text : String) : tokenize text = (loweredTokens text.toList).map String.ofList := rfl

theorem loweredTokens_append_of_isBlank {b : Char} (hb : isBlank b = true) (x y : List Char) :
    loweredTokens (x ++ b :: y) = loweredTokens x ++ loweredTokens y := by
  rw [loweredTokens, lower_append_of_isBlank hb, tokensOf_append_of_isBlank hb, loweredTokens, loweredTokens]

theorem loweredTokens_blanks_append {lead : List Char} (hlead : ∀ c ∈ lead, isBlank c = true) (cs : List Char) :
    loweredTokens (lead ++ cs) = loweredTokens cs := by
  induction lead with
  | nil => rfl
  | cons b lead ih =>
    obtain ⟨hb, hlead⟩ := List.forall_mem_cons.1 hlead
    have hstep := loweredTokens_append_of_isBlank hb [] (lead ++ cs)
    rw [ih hlead] at hstep
    exact hstep

/-- Before a text that is empty or begins with a blank the tokens end. -/
theorem loweredTokens_append {y : List Char} (hy : ∀ c ∈ y.head?, isBlank c = true) (x : List Char) :
    loweredTokens (x ++ y) = loweredTokens x ++ loweredTokens y := by
  cases y with
  | nil => simp [loweredTokens, lower, lowerAfter, tokensOf, tokensAfter, finished]
  | cons b y =>
    have hb : isBlank b = true := hy b rfl
    have hrest := loweredTokens_append_of_isBlank hb [] y
    rw [loweredTokens_append_of_isBlank hb]
    exact congrArg (loweredTokens x ++ ·) hrest.symm

theorem loweredTokens_trim (cs : List Char) : loweredTokens (trim cs) = loweredTokens cs := by
  obtain ⟨lead, trail, hlead, htrail, heq⟩ := exists_eq_append_trim cs
  have hhead : ∀ c ∈ trail.head?, isBlank c = true := fun c hc => htrail c (List.mem_of_head? hc)
  have hnone := loweredTokens_blanks_append htrail []
  rw [List.append_nil] at hnone
  conv_rhs => rw [heq, loweredTokens_append hhead, loweredTokens_blanks_append hlead, hnone]
  exact (List.append_nil _).symm

end MarketBrief.Token
