import MarketBrief.Proofs.Lexicon.Places

/-!
# Phrases found in windows

The same hits as those counted along the tokens, found by comparing each window of consecutive tokens with the phrase
word by word. There are no windows of no tokens, and a phrase of no words has no last one.

* `windows?`, `lastPlace?`: the windows of a length and the place of a last word, where there are any;
* `matchesPhrase?`, `phraseHitsAt?`, `scoreTokensAt?`: windows that match, and the score;
* `matchesPhrase?_eq`, `scoreTokensAt?_eq`: in a vocabulary of terms nothing is asked of an empty phrase, and the score
  is that along the tokens.
-/

namespace MarketBrief.Lexicon

/-- The windows of so many consecutive tokens. The length must not be zero. -/
def windows? : (length : Nat) → (tokens : List String) → Option (List (List String))
  | 0, _ => none
  | n + 1, tokens => some ((List.range (tokens.length - n)).map (window tokens · (n + 1)))

/-- The place of the last word of a phrase. There must be one. -/
def lastPlace? (phrase : List String) : Option Nat :=
  match phrase.length with
  | 0 => none
  | n + 1 => some n

/-- Whether each token of a window is the word of the phrase at its place; the last one may be the plural of it. -/
def matchesPhrase? (phrase tokens : List String) : Option Bool := do
  let last ← lastPlace? phrase
  return (tokens.zip phrase).zipIdx.all fun ((token, word), i) =>
    token == word || (i == last && singular? token == some word)

/-- The number of windows that match a phrase. -/
def phraseHitsAt? (phrase tokens : List String) : Option Nat := do
  let windows ← windows? phrase.length tokens
  let matched ← windows.mapM (matchesPhrase? phrase)
  return matched.count true

/-- The number of words and of windows that match a phrase. -/
def scoreTokensAt? (l : Lexicon) (tokens : List String) : Option Nat := do
  let hits ← l.phrases.mapM (phraseHitsAt? · tokens)
  return tokens.countP l.hasWord + hits.sum

/-! ### Windows that match -/

section Window

variable {phrase tokens : List String}

/-- The comparison from a place on, where `last` is the place of the last word. -/
theorem all_zipIdx_zip_eq (first last : Nat) (hlength : tokens.length = phrase.length)
    (hlast : last + 1 = first + phrase.length) :
    ((tokens.zip phrase).zipIdx first).all (fun ((token, word), i) =>
      token == word || (i == last && singular? token == some word)) = beginsPhrase phrase tokens := by
  fun_induction beginsPhrase phrase tokens generalizing first with
  | case1 tokens => simp
  | case2 => exact absurd hlength (Nat.zero_ne_add_one _)
  | case3 word t ts =>
    obtain rfl : ts = [] := List.eq_nil_of_length_eq_zero (Nat.succ.inj hlength)
    obtain rfl : last = first := Nat.succ.inj hlast
    simp
  | case4 p ps t ts hps ih =>
    have hpos : 0 < ps.length := List.length_pos_iff.2 hps
    have hrest := ih (first + 1) (Nat.succ.inj hlength) (by rw [hlast, List.length_cons]; omega)
    -- the first of several words is not the last one
    have hnotLast : (first == last) = false := beq_false_of_ne (by rw [List.length_cons] at hlast; omega)
    simp only [List.zip_cons_cons, List.zipIdx_cons, List.all_cons, hrest, hnotLast, Bool.false_and, Bool.or_false]

/-- A window of the length of a phrase matches where it stands for the phrase. -/
theorem matchesPhrase?_eq (hne : phrase ≠ []) (hlength : tokens.length = phrase.length) :
    matchesPhrase? phrase tokens = some (decide (StandsFor tokens phrase)) := by
  obtain ⟨word, words, rfl⟩ := List.exists_cons_of_ne_nil hne
  have hbegins : beginsPhrase (word :: words) tokens = decide (StandsFor tokens (word :: words)) := by
    rw [Bool.eq_iff_iff, beginsPhrase_eq_true_iff, ← hlength, List.take_length, decide_eq_true_eq]
  rw [← hbegins, ← all_zipIdx_zip_eq 0 words.length hlength (Nat.zero_add _).symm]
  rfl

/-- Behind the last window no phrase stands. -/
theorem count_standsFor_eq (n : Nat) (hlength : phrase.length = n + 1) :
    Nat.count (fun i => StandsFor (window tokens i phrase.length) phrase) tokens.length =
      Nat.count (fun i => StandsFor (window tokens i phrase.length) phrase) (tokens.length - n) := by
  have hparts : tokens.length = (tokens.length - n) + min n tokens.length := by omega
  have hbehind : Nat.count (fun i => StandsFor (window tokens (tokens.length - n + i) phrase.length) phrase)
      (min n tokens.length) = 0 := by
    rw [Nat.count_iff_forall_not]
    intro i hi hstands
    have hwindow := hstands.length_eq
    rw [length_window] at hwindow
    omega
  conv_lhs => rw [hparts]
  rw [Nat.count_add, hbehind, Nat.add_zero]

theorem phraseHitsAt?_eq (hne : phrase ≠ []) (tokens : List String) :
    phraseHitsAt? phrase tokens = some (phraseHits phrase tokens) := by
  obtain ⟨n, hlength⟩ := Nat.exists_eq_add_one_of_ne_zero (List.length_pos_iff.2 hne).ne'
  have hmatches : ∀ w ∈ (List.range (tokens.length - n)).map (window tokens · phrase.length),
      matchesPhrase? phrase w = some (decide (StandsFor w phrase)) := by
    intro w hw
    obtain ⟨i, hi, rfl⟩ := List.mem_map.1 hw
    have hi := List.mem_range.1 hi
    exact matchesPhrase?_eq hne (by rw [length_window]; omega)
  have hwindows : windows? phrase.length tokens =
      some ((List.range (tokens.length - n)).map (window tokens · phrase.length)) := by rw [hlength, windows?]
  unfold phraseHitsAt?
  rw [hwindows, phraseHits_eq_count, count_standsFor_eq n hlength]
  simp only [Option.bind_eq_bind, Option.bind_some, Lists.mapM_eq_some_map hmatches]
  simp [List.count, List.countP_map, Nat.count, Function.comp_def]

end Window

/-- Nothing is asked of an empty phrase, and the windows that match are the places counted along the tokens. -/
theorem scoreTokensAt?_eq (terms tokens : List String) :
    scoreTokensAt? (ofTerms terms) tokens = some ((ofTerms terms).scoreTokens tokens) := by
  have hhits : ∀ phrase ∈ (ofTerms terms).phrases, phraseHitsAt? phrase tokens = some (phraseHits phrase tokens) := by
    intro phrase hphrase
    have hlength := two_le_length_of_mem_phrases hphrase
    exact phraseHitsAt?_eq (List.ne_nil_of_length_pos (by omega)) tokens
  rw [scoreTokensAt?, Lists.mapM_eq_some_map hhits]
  rfl

end MarketBrief.Lexicon
