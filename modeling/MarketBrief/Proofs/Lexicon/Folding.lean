import MarketBrief.Lexicon.Fintech
import MarketBrief.Proofs.Lexicon.Terms

/-!
# Short tokens and their singulars

A short word keeps its final `s`. Short is a word of at most three bytes, so three characters are enough for a singular
if one of them takes up more than one byte.

* `singular?_eq_some_iff`: which word is the singular of which;
* `IsWide`: the stems of at most two characters whose plurals are no longer short;
* `KeepsShort`: every token of at most three characters counts for itself only, as a word and at the end of a phrase;
* `keepsShort_iff_of_wide`, `keepsShort_iff`: the vocabularies that keep short tokens, and what a short token stands for
  in any other one;
* `keepsShort_ofTerms`, `keepsShort_fintech`: terms that end in no wide stem, and the built-in vocabulary;
* `Crowns.not_keepsShort`: crowns of two countries.
-/

namespace MarketBrief

open Token

theorem singular?_eq_some_iff {word stem : String} :
    singular? word = some stem ↔
      word = stem ++ "s" ∧ stem.toList.getLast? ≠ some 's' ∧ 3 ≤ stem.utf8ByteSize := by
  have hword : word = stem ++ "s" ↔ word.toList.reverse = 's' :: stem.toList.reverse := by
    rw [← String.toList_inj, String.toList_append, ← List.reverse_inj, List.reverse_append]
    rfl
  have hsize : word = stem ++ "s" → word.utf8ByteSize = stem.utf8ByteSize + 1 := by
    rintro rfl
    exact String.utf8ByteSize_append
  rw [← List.head?_reverse]
  unfold singular?
  split
  · next rest hrev =>
    -- the stem would end in `s`
    constructor
    · intro h
      exact absurd h (Option.some_ne_none stem).symm
    · rintro ⟨h, hlast, -⟩
      rw [hword, hrev] at h
      obtain ⟨-, hrest⟩ := List.cons.inj h
      rw [← hrest] at hlast
      exact absurd rfl hlast
  · next back hback hrev =>
    have hstem : word = stem ++ "s" ↔ String.ofList back.reverse = stem := by
      rw [hword, hrev, ← String.toList_inj, String.toList_ofList, List.cons.injEq, and_iff_right rfl,
        List.reverse_eq_iff]
    constructor
    · intro h
      split at h
      · next hlong =>
        have heq := hstem.2 (Option.some.inj h)
        refine ⟨heq, ?_, ?_⟩
        · rw [← Option.some.inj h, String.toList_ofList, List.reverse_reverse]
          intro hhead
          obtain ⟨rest, hrest⟩ := List.head?_eq_some_iff.1 hhead
          exact hback rest hrest
        · have := hsize heq
          omega
      · exact absurd h (Option.some_ne_none stem).symm
    · rintro ⟨heq, -, hlong⟩
      have := hsize heq
      rw [if_pos (by omega), hstem.1 heq]
  · next hother =>
    constructor
    · intro h
      exact absurd h (Option.some_ne_none stem).symm
    · rintro ⟨h, -, -⟩
      exact absurd (hword.1 h) (hother stem.toList.reverse)

/-- The stem has at most two characters, the last of them no `s`, but takes up at least three bytes. Its plural has at
most three characters and is folded. -/
def IsWide (stem : String) : Prop :=
  stem.toList.length ≤ 2 ∧ stem.toList.getLast? ≠ some 's' ∧ 3 ≤ stem.utf8ByteSize

instance (stem : String) : Decidable (IsWide stem) := inferInstanceAs (Decidable (_ ∧ _ ∧ _))

theorem length_plural (stem : String) : (stem ++ "s").toList.length = stem.toList.length + 1 := by
  rw [String.toList_append, List.length_append]
  rfl

theorem singular?_eq_some_iff_of_short {token stem : String} (hshort : token.toList.length ≤ 3) :
    singular? token = some stem ↔ IsWide stem ∧ token = stem ++ "s" := by
  rw [singular?_eq_some_iff, IsWide]
  constructor
  · rintro ⟨rfl, hlast, hwide⟩
    rw [length_plural] at hshort
    exact ⟨⟨by omega, hlast, hwide⟩, rfl⟩
  · rintro ⟨⟨-, hlast, hwide⟩, rfl⟩
    exact ⟨rfl, hlast, hwide⟩

namespace Lexicon

/-! ### The last token of a window -/

theorem getLast?_singularized? {tokens phrase : List String} (h : singularized? tokens = some phrase) :
    ∃ token stem, tokens.getLast? = some token ∧ phrase.getLast? = some stem ∧ singular? token = some stem := by
  fun_induction singularized? tokens generalizing phrase with
  | case1 => exact absurd h (Option.some_ne_none phrase).symm
  | case2 token =>
    obtain ⟨stem, hstem, rfl⟩ := Option.map_eq_some_iff.1 h
    exact ⟨token, stem, rfl, rfl, hstem⟩
  | case3 token next tokens ih =>
    obtain ⟨rest, hrest, rfl⟩ := Option.map_eq_some_iff.1 h
    obtain ⟨last, stem, hlast, hstem, hfold⟩ := ih hrest
    refine ⟨last, stem, ?_, ?_, hfold⟩
    · rwa [List.getLast?_cons_cons]
    · rw [List.getLast?_cons, hstem, Option.getD_some]

theorem singularized?_of_getLast? {phrase : List String} {stem token : String} (hlast : phrase.getLast? = some stem)
    (h : singular? token = some stem) : singularized? (phrase.dropLast ++ [token]) = some phrase := by
  obtain ⟨front, rfl⟩ := List.getLast?_eq_some_iff.1 hlast
  rw [List.dropLast_concat]
  clear hlast
  induction front with
  | nil => simp [singularized?, h]
  | cons word front ih =>
    cases front with
    | nil => simp [singularized?, h]
    | cons next front =>
      simp only [List.cons_append] at ih ⊢
      rw [singularized?, ih, Option.map_some]

/-- What the last token of a window is if the window stands for a phrase. -/
theorem StandsFor.getLast? {tokens phrase : List String} {token : String} (h : StandsFor tokens phrase)
    (htoken : tokens.getLast? = some token) :
    phrase.getLast? = some token ∨ ∃ stem, phrase.getLast? = some stem ∧ singular? token = some stem := by
  rcases h with rfl | h
  · exact Or.inl htoken
  · obtain ⟨last, stem, hlast, hstem, hfold⟩ := getLast?_singularized? h
    rw [htoken] at hlast
    obtain rfl := Option.some.inj hlast
    exact Or.inr ⟨stem, hstem, hfold⟩

theorem getLast?_window {tokens : List String} {start length i : Nat} {token : String} (htoken : tokens[i]? = some token)
    (hend : start + length = i + 1) (hpos : 0 < length) : (window tokens start length).getLast? = some token := by
  have hi := (List.getElem?_eq_some_iff.1 htoken).1
  have hlength : (window tokens start length).length = length := by
    rw [length_window]
    omega
  rw [List.getLast?_eq_getElem?, hlength, window, List.getElem?_take_of_lt (by omega), List.getElem?_drop,
    show start + (length - 1) = i by omega, htoken]

/-! ### Places of short tokens -/

section Short

variable {l : Lexicon} {tokens : List String} {i : Nat} {token : String}

theorem mem_wordPlaces_iff (htoken : tokens[i]? = some token) :
    i ∈ l.wordPlaces tokens ↔ token ∈ l.words ∨ ∃ stem ∈ l.words, singular? token = some stem := by
  obtain ⟨hi, -⟩ := List.getElem?_eq_some_iff.1 htoken
  have hwindow : window tokens i 1 = [token] := by
    rw [window, List.drop_eq_getElem?_toList_append, htoken]
    rfl
  rw [wordPlaces, Finset.mem_filter, Finset.mem_range, and_iff_right hi, hwindow]
  simp only [standsFor_singleton_iff, and_or_left, exists_or, exists_eq_right']

theorem mem_wordPlaces_iff_of_short (htoken : tokens[i]? = some token) (hshort : token.toList.length ≤ 3) :
    i ∈ l.wordPlaces tokens ↔ token ∈ l.words ∨ ∃ stem ∈ l.words, IsWide stem ∧ token = stem ++ "s" := by
  rw [mem_wordPlaces_iff htoken]
  simp only [singular?_eq_some_iff_of_short hshort]

/-- The token at this position is the last one of a place of the phrase. -/
def Completes (l : Lexicon) (tokens : List String) (i : Nat) (phrase : List String) : Prop :=
  ∃ start ≤ i, (phrase, start) ∈ l.phrasePlaces tokens ∧ start + phrase.length = i + 1

/-- A phrase ends at a short token that is its last word, or the plural of that word if it is wide. -/
theorem Completes.getLast? {phrase : List String} (h : l.Completes tokens i phrase) (htoken : tokens[i]? = some token)
    (hshort : token.toList.length ≤ 3) :
    phrase.getLast? = some token ∨ ∃ stem, phrase.getLast? = some stem ∧ IsWide stem ∧ token = stem ++ "s" := by
  obtain ⟨start, hstart, hplace, hend⟩ := h
  obtain ⟨-, -, hstands⟩ := mem_phrasePlaces_iff.1 hplace
  have hlast := hstands.getLast? (getLast?_window htoken hend (by omega))
  simpa only [singular?_eq_some_iff_of_short hshort] using hlast

end Short

/-! ### Vocabularies that keep short tokens -/

/-- A token of at most three characters counts as a word only if it is one, and at the end of a phrase only if it is the
phrase's last word. -/
def KeepsShort (l : Lexicon) : Prop :=
  ∀ (tokens : List String) (i : Nat) (token : String), tokens[i]? = some token → token.toList.length ≤ 3 →
    (i ∈ l.wordPlaces tokens → token ∈ l.words) ∧
    ∀ phrase, l.Completes tokens i phrase → phrase.getLast? = some token

/-- A phrase with a wide last word ends at the plural of that word. -/
theorem completes_plural {l : Lexicon} {phrase : List String} {stem : String} (hphrase : phrase ∈ l.phrases)
    (hlast : phrase.getLast? = some stem) (hwide : IsWide stem) :
    l.Completes (phrase.dropLast ++ [stem ++ "s"]) phrase.dropLast.length phrase := by
  have hfold : singular? (stem ++ "s") = some stem := singular?_eq_some_iff.2 ⟨rfl, hwide.2⟩
  have hstands : StandsFor (phrase.dropLast ++ [stem ++ "s"]) phrase := Or.inr (singularized?_of_getLast? hlast hfold)
  have hlength := hstands.length_eq
  have hwindow : window (phrase.dropLast ++ [stem ++ "s"]) 0 phrase.length = phrase.dropLast ++ [stem ++ "s"] := by
    rw [window_zero, hlength, List.take_length]
  refine ⟨0, Nat.zero_le _, mem_phrasePlaces_iff.2 ⟨hphrase, ?_, hwindow.symm ▸ hstands⟩, ?_⟩
  · simp
  · rw [hlength, List.length_append, Nat.zero_add]
    rfl

theorem keepsShort_iff_of_wide (l : Lexicon) :
    l.KeepsShort ↔ (∀ word ∈ l.words, IsWide word → word ++ "s" ∈ l.words) ∧
      ∀ phrase ∈ l.phrases, ∀ last ∈ phrase.getLast?, ¬ IsWide last := by
  have hplural : ∀ {stem : String}, IsWide stem → (stem ++ "s").toList.length ≤ 3 := fun {stem} hwide => by
    have := hwide.1
    rw [length_plural]
    omega
  constructor
  · intro h
    refine ⟨fun word hword hwide => ?_, fun phrase hphrase last hlast hwide => ?_⟩
    · -- the plural alone is a list of tokens
      have hplace : 0 ∈ l.wordPlaces [word ++ "s"] :=
        (mem_wordPlaces_iff_of_short rfl (hplural hwide)).2 (Or.inr ⟨word, hword, hwide, rfl⟩)
      exact (h [word ++ "s"] 0 (word ++ "s") rfl (hplural hwide)).1 hplace
    · have htoken : (phrase.dropLast ++ [last ++ "s"])[phrase.dropLast.length]? = some (last ++ "s") := by simp
      have hsame := (h _ _ _ htoken (hplural hwide)).2 phrase (completes_plural hphrase hlast hwide)
      have hlength := congrArg (fun s : String => s.toList.length) (Option.some.inj (hlast.symm.trans hsame))
      simp only [length_plural] at hlength
      omega
  · rintro ⟨hwords, hphrases⟩ tokens i token htoken hshort
    refine ⟨fun hplace => ?_, fun phrase hcompletes => ?_⟩
    · rcases (mem_wordPlaces_iff_of_short htoken hshort).1 hplace with hword | ⟨stem, hstem, hwide, rfl⟩
      · exact hword
      · exact hwords stem hstem hwide
    · rcases hcompletes.getLast? htoken hshort with hlast | ⟨stem, hlast, hwide, -⟩
      · exact hlast
      · obtain ⟨_, -, hplace, -⟩ := hcompletes
        exact absurd hwide (hphrases phrase (mem_phrasePlaces_iff.1 hplace).1 stem hlast)

/-- Terms of which none ends in a wide stem. -/
theorem keepsShort_ofTerms {terms : List String} (h : ∀ term ∈ terms, ∀ last ∈ (tokenize term).getLast?, ¬ IsWide last) :
    (ofTerms terms).KeepsShort := by
  have hlast : ∀ tokens ∈ termTokens terms, ∀ last ∈ tokens.getLast?, ¬ IsWide last := by
    intro tokens htokens
    obtain ⟨term, hterm, rfl⟩ := List.mem_map.1 (mem_termTokens_iff.1 htokens).2
    exact h term hterm
  refine (keepsShort_iff_of_wide _).2 ⟨fun word hword hwide => ?_, fun phrase hphrase => ?_⟩
  · exact absurd hwide (hlast [word] (mem_words_ofTerms_iff.1 hword) word rfl)
  · exact hlast phrase (mem_phrases_ofTerms_iff.1 hphrase).1

theorem keepsShort_fintech : fintech.KeepsShort := keepsShort_ofTerms (by decide +kernel)

/-- **Short tokens.** A vocabulary counts every token of at most three characters for itself only, just if it has no
wide stem as a word without its plural, and no phrase that ends in one. Beside itself such a token stands for nothing
but the wide stem of which it is the plural. -/
theorem keepsShort_iff (l : Lexicon) :
    (l.KeepsShort ↔ (∀ word ∈ l.words, IsWide word → word ++ "s" ∈ l.words) ∧
      ∀ phrase ∈ l.phrases, ∀ last ∈ phrase.getLast?, ¬ IsWide last) ∧
    ∀ (tokens : List String) (i : Nat) (token : String), tokens[i]? = some token → token.toList.length ≤ 3 →
      (i ∈ l.wordPlaces tokens ↔ token ∈ l.words ∨ ∃ stem ∈ l.words, IsWide stem ∧ token = stem ++ "s") ∧
      ∀ phrase, l.Completes tokens i phrase →
        phrase.getLast? = some token ∨ ∃ stem, phrase.getLast? = some stem ∧ IsWide stem ∧ token = stem ++ "s" :=
  ⟨keepsShort_iff_of_wide l, fun _ _ _ htoken hshort =>
    ⟨mem_wordPlaces_iff_of_short htoken hshort, fun _ hcompletes => hcompletes.getLast? htoken hshort⟩⟩

/-! Crowns of Czechoslovakia, whose sign has a Czech letter of two bytes. -/

namespace Crowns

/-- Both terms are about Czech crowns. -/
def terms : List String := ["Kč", "price in Kč"]

def tokens : List String := ["price", "in", "kčs"]

theorem completes : (ofTerms terms).Completes tokens 2 ["price", "in", "kč"] :=
  ⟨0, by decide, by decide +kernel, by decide⟩

/-- The crowns of the one country count as a word and at the end of a phrase that are about those of the other. -/
theorem not_keepsShort :
    tokenize "Price in Kčs" = tokens ∧ "kčs".toList.length ≤ 3 ∧ "kčs" ∉ (ofTerms terms).words ∧
    (ofTerms terms).scoreTokens tokens = 2 ∧ ¬ (ofTerms terms).KeepsShort := by
  refine ⟨by decide +kernel, by decide, by decide +kernel, by decide +kernel, fun h => ?_⟩
  have hlast := (h tokens 2 "kčs" rfl (by decide)).2 _ completes
  exact absurd hlast (by decide)

theorem keepsShort_iff_of_crowns :
    tokens[2]? = some "kčs" ∧ "kčs".toList.length ≤ 3 ∧
    (2 ∈ (ofTerms terms).wordPlaces tokens ↔
      "kčs" ∈ (ofTerms terms).words ∨ ∃ stem ∈ (ofTerms terms).words, IsWide stem ∧ "kčs" = stem ++ "s") ∧
    (ofTerms terms).Completes tokens 2 ["price", "in", "kč"] ∧
    (["price", "in", "kč"].getLast? = some "kčs" ∨
      ∃ stem, ["price", "in", "kč"].getLast? = some stem ∧ IsWide stem ∧ "kčs" = stem ++ "s") := by
  have htoken : tokens[2]? = some "kčs" := rfl
  have hshort : "kčs".toList.length ≤ 3 := by decide
  obtain ⟨hword, hphrase⟩ := (keepsShort_iff (ofTerms terms)).2 tokens 2 "kčs" htoken hshort
  exact ⟨htoken, hshort, hword, completes, hphrase _ completes⟩

end Crowns

end Lexicon

end MarketBrief
