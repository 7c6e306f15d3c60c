import MarketBrief.Proofs.Lexicon.Places

/-!
# Scores of two lists of tokens, one behind the other

A place in the whole list lies in the first part, or in the second one, or it begins in the first and ends in the
second.

* `straddling`: the phrases that stand across the seam;
* `filter_phrasePlaces_left`, `filter_phrasePlaces_right`, `card_phrasePlaces_append`: the places in the parts, and all;
* `scoreTokens_append_eq`: the score of the whole;
* `scoreTokens_over_seam`: what follows for vocabularies of terms.
-/

namespace MarketBrief.Lexicon

/-! ### Windows -/

section Windows

variable (xs ys : List String)

theorem window_append_left {start length : Nat} (h : start + length ≤ xs.length) :
    window (xs ++ ys) start length = window xs start length := by
  rw [window, List.drop_append_of_le_length (by omega), List.take_append_of_le_length]
  · rfl
  · rw [List.length_drop]
    omega

theorem window_append_right (start length : Nat) :
    window (xs ++ ys) (xs.length + start) length = window ys start length := by
  rw [window, List.drop_append, List.drop_eq_nil_of_le (Nat.le_add_right _ _), List.nil_append, Nat.add_sub_cancel_left,
    window]

end Windows

/-! ### Places in the parts and across the seam -/

/-- The phrases of the vocabulary with the positions at which they stand across the seam: the window holds the last
token of the first part and the first token of the second one. -/
def straddling (l : Lexicon) (xs ys : List String) : Finset (List String × Nat) :=
  (l.phrasePlaces (xs ++ ys)).filter fun place => place.2 < xs.length ∧ xs.length < place.2 + place.1.length

/-- The places that begin in the second part are its own, further on. -/
theorem filter_phrasePlaces_right (l : Lexicon) (xs ys : List String) :
    (l.phrasePlaces (xs ++ ys)).filter (fun place => xs.length ≤ place.2) =
      (l.phrasePlaces ys).image fun place => (place.1, xs.length + place.2) := by
  ext ⟨phrase, start⟩
  simp only [Finset.mem_filter, mem_phrasePlaces_iff, List.length_append, Finset.mem_image]
  constructor
  · rintro ⟨⟨hphrase, hstart, hstands⟩, hbegin⟩
    obtain ⟨n, rfl⟩ := Nat.exists_eq_add_of_le hbegin
    rw [window_append_right] at hstands
    exact ⟨(phrase, n), mem_phrasePlaces_iff.2 ⟨hphrase, by omega, hstands⟩, rfl⟩
  · rintro ⟨⟨p, n⟩, hplace, heq⟩
    obtain ⟨hphrase, hstart, hstands⟩ := mem_phrasePlaces_iff.1 hplace
    obtain ⟨rfl, rfl⟩ := Prod.mk.inj heq
    rw [window_append_right]
    exact ⟨⟨hphrase, by omega, hstands⟩, Nat.le_add_right _ _⟩

section Parts

variable {l : Lexicon} (h : ∀ phrase ∈ l.phrases, phrase ≠ []) (xs ys : List String)

include h

/-- The places that end in the first part are its own. -/
theorem filter_phrasePlaces_left :
    (l.phrasePlaces (xs ++ ys)).filter (fun place => place.2 + place.1.length ≤ xs.length) = l.phrasePlaces xs := by
  ext ⟨phrase, start⟩
  simp only [Finset.mem_filter, mem_phrasePlaces_iff, List.length_append]
  constructor
  · rintro ⟨⟨hphrase, -, hstands⟩, hend⟩
    have hpos := List.length_pos_iff.2 (h phrase hphrase)
    rw [window_append_left xs ys hend] at hstands
    exact ⟨hphrase, by omega, hstands⟩
  · rintro ⟨hphrase, hstart, hstands⟩
    have hend := add_length_le_of_mem_phrasePlaces (mem_phrasePlaces_iff.2 ⟨hphrase, hstart, hstands⟩)
    rw [window_append_left xs ys hend]
    exact ⟨⟨hphrase, by omega, hstands⟩, hend⟩

/-- What does not end in the first part begins in the second one, or stands across the seam. -/
theorem card_filter_not_left :
    ((l.phrasePlaces (xs ++ ys)).filter fun place => ¬ place.2 + place.1.length ≤ xs.length).card =
      (l.phrasePlaces ys).card + (l.straddling xs ys).card := by
  have hshift : Function.Injective fun place : List String × Nat => (place.1, xs.length + place.2) := fun p q heq =>
    Prod.ext (Prod.mk.inj heq).1 (Nat.add_left_cancel (Prod.mk.inj heq).2)
  have hright : ((l.phrasePlaces (xs ++ ys)).filter fun place => ¬ place.2 + place.1.length ≤ xs.length).filter
      (fun place => xs.length ≤ place.2) = (l.phrasePlaces ys).image fun place => (place.1, xs.length + place.2) := by
    rw [← filter_phrasePlaces_right, Finset.filter_filter]
    refine Finset.filter_congr fun place hplace => and_iff_right_of_imp fun hbegin => ?_
    have hpos := List.length_pos_iff.2 (h place.1 (mem_phrasePlaces_iff.1 hplace).1)
    omega
  have hacross : ((l.phrasePlaces (xs ++ ys)).filter fun place => ¬ place.2 + place.1.length ≤ xs.length).filter
      (fun place => ¬ xs.length ≤ place.2) = l.straddling xs ys := by
    rw [straddling, Finset.filter_filter]
    exact Finset.filter_congr fun place _ => by omega
  rw [← Finset.card_filter_add_card_filter_not fun place : List String × Nat => xs.length ≤ place.2, hright, hacross,
    Finset.card_image_of_injective _ hshift]

theorem card_phrasePlaces_append :
    (l.phrasePlaces (xs ++ ys)).card =
      (l.phrasePlaces xs).card + (l.phrasePlaces ys).card + (l.straddling xs ys).card := by
  have hends := Finset.card_filter_add_card_filter_not (s := l.phrasePlaces (xs ++ ys))
    fun place => place.2 + place.1.length ≤ xs.length
  rw [← hends, filter_phrasePlaces_left h, card_filter_not_left h, Nat.add_assoc]

end Parts

/-! ### Scores -/

theorem scoreTokens_append_eq (terms xs ys : List String) :
    (ofTerms terms).scoreTokens (xs ++ ys) =
      (ofTerms terms).scoreTokens xs + (ofTerms terms).scoreTokens ys + ((ofTerms terms).straddling xs ys).card := by
  have hne : ∀ phrase ∈ (ofTerms terms).phrases, phrase ≠ [] := by
    rintro phrase hphrase rfl
    exact absurd (two_le_length_of_mem_phrases hphrase) (by decide)
  simp only [scoreTokens_ofTerms_eq_card, ← countP_hasWord_eq_card, List.countP_append, card_phrasePlaces_append hne]
  omega

/-- A phrase of several words stands across a seam inside it. -/
theorem straddling_pos {l : Lexicon} {front : List String} (hfront : front ≠ []) {last : String}
    (h : front ++ [last] ∈ l.phrases) : 0 < (l.straddling front [last]).card := by
  refine Finset.card_pos.2 ⟨(front ++ [last], 0), Finset.mem_filter.2 ⟨mem_phrasePlaces_iff.2 ⟨h, by simp, ?_⟩, ?_⟩⟩
  · rw [window_zero, List.take_length]
    exact Or.inl rfl
  · simpa using List.length_pos_iff.2 hfront

/-- **Scores and seams.** The score of two lists of tokens, one behind the other, is the sum of their scores and of the
number of phrases that stand across the seam. So tokens before and behind others take nothing from their score, and all
scores are sums just if no phrase has several words. -/
theorem scoreTokens_over_seam (terms : List String) :
    (∀ xs ys : List String,
      (ofTerms terms).scoreTokens (xs ++ ys) =
          (ofTerms terms).scoreTokens xs + (ofTerms terms).scoreTokens ys + ((ofTerms terms).straddling xs ys).card ∧
        (ofTerms terms).scoreTokens xs ≤ (ofTerms terms).scoreTokens (xs ++ ys) ∧
        (ofTerms terms).scoreTokens ys ≤ (ofTerms terms).scoreTokens (xs ++ ys)) ∧
    ((∀ xs ys : List String,
      (ofTerms terms).scoreTokens (xs ++ ys) = (ofTerms terms).scoreTokens xs + (ofTerms terms).scoreTokens ys) ↔
        (ofTerms terms).IsWordwise) := by
  refine ⟨fun xs ys => ?_, fun hadd phrase hphrase => ?_, fun hwordwise => scoreTokens_append hwordwise⟩
  · have hsum := scoreTokens_append_eq terms xs ys
    exact ⟨hsum, by omega, by omega⟩
  · by_contra hlong
    obtain ⟨front, last, rfl⟩ := (List.eq_nil_or_concat' phrase).resolve_left (by rintro rfl; exact hlong (by decide))
    have hfront : front ≠ [] := by
      rintro rfl
      exact hlong (by simp)
    have hpos := straddling_pos hfront hphrase
    have hsum := scoreTokens_append_eq terms front [last]
    rw [hadd] at hsum
    omega

/-! The phrase begins in the first part, and its last word is a plural. -/

example :
    let l := ofTerms ["smart contract", "contract"]
    l.scoreTokens ["smart"] = 0 ∧ l.scoreTokens ["contracts"] = 1 ∧ l.scoreTokens ["smart", "contracts"] = 2 := by
  decide +kernel

end MarketBrief.Lexicon
