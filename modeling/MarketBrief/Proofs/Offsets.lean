import MarketBrief.Proofs.Category.Offsets
import MarketBrief.Proofs.Lexicon.Windows
import MarketBrief.Proofs.Sentence.Offsets

/-!
# No text is cut where it cannot be

Sentences are split, dots guarded and keywords counted by cuts at offsets in bytes, and phrases found in windows. Each
of these functions has a form in which a cut that misses, a window of no tokens or the last word of no words leaves no
result.

* `no_cut_misses`: for all texts, keywords, tokens and vocabularies of terms there is a result, the one of the functions
  on characters and lists;
* `Accents.no_cut_misses_in_accents`: a text with characters of one to four bytes.
-/

namespace MarketBrief

open Category Lexicon Sentence Text

/-- **No cut misses.** There is a stretch of a text between two offsets just if they are in order, within the text, and
not inside a character. Every cut of every text is of that kind: splitting it, looking for an abbreviation before a dot
and counting a keyword in it have results, those of the functions on characters. So has the score of any tokens in any
vocabulary of terms, as each of its phrases has at least two words. -/
theorem no_cut_misses :
    (∀ text low high, (stretch? text low high).isSome = true ↔ low ≤ high ∧ high ≤ text.utf8ByteSize ∧
      String.Pos.Raw.IsValid text ⟨low⟩ ∧ String.Pos.Raw.IsValid text ⟨high⟩) ∧
    (∀ text, splitAt? text = some (split text)) ∧
    (∀ before, endsAbbreviatedAt? before = some (endsAbbreviated before.toList.reverse)) ∧
    (∀ text keyword, countOccurrencesAt? text keyword = some (countOccurrences text keyword)) ∧
    ∀ terms, (∀ phrase ∈ (ofTerms terms).phrases, 2 ≤ phrase.length) ∧
      ∀ tokens, scoreTokensAt? (ofTerms terms) tokens = some ((ofTerms terms).scoreTokens tokens) := by
  refine ⟨fun _ _ _ => isSome_stretch?_iff, splitAt?_eq, endsAbbreviatedAt?_eq, countOccurrencesAt?_eq, ?_⟩
  intro terms
  exact ⟨fun _ => two_le_length_of_mem_phrases, scoreTokensAt?_eq terms⟩

namespace Accents

def text : String := "“Né à Zürich.” “Élan, ça 東京!”  Über J. Ö. 𝄞 élan."

def terms : List String := ["Élan", "ça 東京"]

theorem no_cut_misses_in_accents :
    splitAt? text = some ["“Né à Zürich.”", "“Élan, ça 東京!”", "Über J. Ö. 𝄞 élan."] ∧
    endsAbbreviatedAt? "Über J. Ö" = some true ∧
    countOccurrencesAt? text "élan" = some 1 ∧
    ["ça", "東京"] ∈ (ofTerms terms).phrases ∧ 2 ≤ ["ça", "東京"].length ∧
    scoreTokensAt? (ofTerms terms) (Token.tokenize text) = some 3 := by
  obtain ⟨-, hsplit, hguard, hcount, hphrases⟩ := no_cut_misses
  have hphrase : ["ça", "東京"] ∈ (ofTerms terms).phrases := by decide +kernel
  obtain ⟨hlength, hscore⟩ := hphrases terms
  rw [hsplit, hguard, hcount, hscore]
  exact ⟨by decide +kernel, by decide +kernel, by decide +kernel, hphrase, hlength _ hphrase, by decide +kernel⟩

end Accents

end MarketBrief
