import MarketBrief.Proofs.Lists
import MarketBrief.Proofs.Text.Joined
import MarketBrief.Proofs.Text.Lowered
import MarketBrief.Proofs.Token

/-!
# The grammar of tokens

Tokens are told by a grammar that does not scan: groups of letters and numbers, joined by single hyphens, with gaps
around them that hold neither letters nor numbers. Every text is made of tokens and gaps in one way only, and these are
the tokens that are read.

* `IsGroup`, `IsToken`: groups, and groups joined by hyphens;
* `Separates`, `AreTokens`: gaps between two tokens, and tokens and gaps that make up a text;
* `exists_areTokens`, `AreTokens.tokensOf_eq`: every text is made of some, and they are those that are read;
* `AreTokens.filter_tokenChar`: no letter and no number lies outside the tokens;
* `tokensOf_intercalate`: tokens that are joined by spaces are read again;
* `tokenize_eq_iff`: the same for stored texts.
-/

namespace MarketBrief.Token

open Text Unicode

/-! ### The grammar -/

/-- Letters and numbers, at least one. -/
structure IsGroup (cs : List Char) : Prop where
  ne_nil : cs ≠ []
  tokenChar : ∀ c ∈ cs, isTokenChar c = true

/-- One or more groups, joined by single hyphens. -/
inductive IsToken : List Char → Prop
  | group {g : List Char} (hg : IsGroup g) : IsToken g
  | joined {g token : List Char} (hg : IsGroup g) (htoken : IsToken token) : IsToken (g ++ '-' :: token)

/-- Characters that belong to no token. -/
def IsGap (gap : List Char) : Prop := ∀ c ∈ gap, isTokenChar c = false

/-- A gap that parts two tokens: a single hyphen would join them. -/
structure Separates (gap : List Char) : Prop where
  ne_nil : gap ≠ []
  ne_hyphen : gap ≠ ['-']

/-- The text is made of tokens and gaps: `lead` stands before all tokens, and one of the other gaps behind each. The gaps
between two tokens separate them. -/
structure AreTokens (text : List Char) (tokens : List (List Char)) (lead : List Char) (gaps : List (List Char)) :
    Prop where
  length_eq : gaps.length = tokens.length
  text_eq : text = lead ++ (List.zipWith (· ++ ·) tokens gaps).flatten
  isToken : ∀ token ∈ tokens, IsToken token
  isGap : ∀ gap ∈ lead :: gaps, IsGap gap
  separates : ∀ gap ∈ gaps.dropLast, Separates gap

theorem isTokenChar_hyphen : isTokenChar '-' = false := by decide +kernel

theorem IsGap.cons {c : Char} (hc : isTokenChar c = false) {gap : List Char} (h : IsGap gap) : IsGap (c :: gap) :=
  List.forall_mem_cons.2 ⟨hc, h⟩

theorem isGap_nil : IsGap [] := fun _ hc => absurd hc List.not_mem_nil

/-! ### Tokens -/

theorem isGroup_singleton {c : Char} (hc : isTokenChar c = true) : IsGroup [c] :=
  ⟨List.cons_ne_nil c [], List.forall_mem_singleton.2 hc⟩

theorem IsGroup.cons {c : Char} (hc : isTokenChar c = true) {g : List Char} (h : IsGroup g) : IsGroup (c :: g) :=
  ⟨List.cons_ne_nil c g, List.forall_mem_cons.2 ⟨hc, h.tokenChar⟩⟩

/-- A letter or number in front of a token becomes part of its first group. -/
theorem IsToken.cons {c : Char} (hc : isTokenChar c = true) {token : List Char} (h : IsToken token) :
    IsToken (c :: token) := by
  cases h with
  | group hg => exact .group (hg.cons hc)
  | joined hg htoken => exact .joined (hg.cons hc) htoken

theorem IsToken.exists_eq_cons {token : List Char} (h : IsToken token) :
    ∃ c cs, token = c :: cs ∧ isTokenChar c = true := by
  cases h with
  | group hg =>
    obtain ⟨c, cs, rfl⟩ := List.exists_cons_of_ne_nil hg.ne_nil
    exact ⟨c, cs, rfl, hg.tokenChar c List.mem_cons_self⟩
  | joined hg _ =>
    obtain ⟨c, cs, rfl⟩ := List.exists_cons_of_ne_nil hg.ne_nil
    exact ⟨c, _, rfl, hg.tokenChar c List.mem_cons_self⟩

theorem IsToken.ne_nil {token : List Char} (h : IsToken token) : token ≠ [] := by
  obtain ⟨c, cs, rfl, -⟩ := h.exists_eq_cons
  exact List.cons_ne_nil c cs

/-! ### Every text is made of tokens and gaps -/

namespace AreTokens

variable {text lead : List Char} {tokens gaps : List (List Char)}

theorem of_isGap {gap : List Char} (h : IsGap gap) : AreTokens gap [] gap [] where
  length_eq := rfl
  text_eq := (List.append_nil gap).symm
  isToken := by simp
  isGap := List.forall_mem_singleton.2 h
  separates := by simp

/-- A gap and a token can be put in front. -/
theorem cons (h : AreTokens text tokens lead gaps) (hlead : tokens ≠ [] → Separates lead) {token gap : List Char}
    (htoken : IsToken token) (hgap : IsGap gap) :
    AreTokens (gap ++ token ++ text) (token :: tokens) gap (lead :: gaps) where
  length_eq := congrArg (· + 1) h.length_eq
  text_eq := by rw [List.zipWith_cons_cons, List.flatten_cons, List.append_assoc token, ← h.text_eq, List.append_assoc]
  isToken := List.forall_mem_cons.2 ⟨htoken, h.isToken⟩
  isGap := List.forall_mem_cons.2 ⟨hgap, h.isGap⟩
  separates := by
    by_cases hgaps : gaps = []
    · simp [hgaps]
    · have htokens : tokens ≠ [] := by
        rintro rfl
        exact hgaps (List.length_eq_zero_iff.1 h.length_eq)
      rw [List.dropLast_cons_of_ne_nil hgaps]
      exact List.forall_mem_cons.2 ⟨hlead htokens, h.separates⟩

/-- The first token and the gap before it can be taken away. -/
theorem cases_cons {token : List Char} (h : AreTokens text (token :: tokens) lead gaps) :
    ∃ next rest gaps', gaps = next :: gaps' ∧ text = lead ++ token ++ rest ∧ AreTokens rest tokens next gaps' ∧
      (tokens ≠ [] → Separates next) ∧ IsToken token ∧ IsGap lead := by
  obtain ⟨hlength, htext, htoken, hgap, hseparates⟩ := h
  obtain ⟨next, gaps, rfl⟩ := List.exists_cons_of_length_eq_add_one hlength
  obtain ⟨htoken, htokens⟩ := List.forall_mem_cons.1 htoken
  obtain ⟨hlead, hgaps⟩ := List.forall_mem_cons.1 hgap
  have hlength := Nat.succ.inj hlength
  have hinner : (gaps ≠ [] → Separates next) ∧ ∀ gap ∈ gaps.dropLast, Separates gap := by
    cases gaps with
    | nil => exact ⟨fun hne => absurd rfl hne, fun gap hmem => absurd hmem List.not_mem_nil⟩
    | cons g gaps => exact (List.forall_mem_cons.1 hseparates).imp_left fun hnext _ => hnext
  refine ⟨next, next ++ (List.zipWith (· ++ ·) tokens gaps).flatten, gaps, rfl, ?_,
    ⟨hlength, rfl, htokens, hgaps, hinner.2⟩, fun hne => hinner.1 ?_, htoken, hlead⟩
  · rw [htext, List.zipWith_cons_cons, List.flatten_cons, List.append_assoc, List.append_assoc]
  · rintro rfl
    exact hne (List.length_eq_zero_iff.1 hlength.symm)

theorem cons_gapChar (h : AreTokens text tokens lead gaps) {c : Char} (hc : isTokenChar c = false) :
    AreTokens (c :: text) tokens (c :: lead) gaps where
  length_eq := h.length_eq
  text_eq := congrArg (c :: ·) h.text_eq
  isToken := h.isToken
  isGap := List.forall_mem_cons.2 ⟨(h.isGap lead List.mem_cons_self).cons hc, (List.forall_mem_cons.1 h.isGap).2⟩
  separates := h.separates

/-- A letter or number in front of a text is part of the first token, or becomes its first group, or is a token. -/
theorem exists_cons_tokenChar (h : AreTokens text tokens lead gaps) {c : Char} (hc : isTokenChar c = true) :
    ∃ tokens' lead' gaps', AreTokens (c :: text) tokens' lead' gaps' := by
  by_cases hsep : tokens ≠ [] → Separates lead
  · exact ⟨_, _, _, h.cons hsep (.group (isGroup_singleton hc)) isGap_nil⟩
  · -- what stands before the first token is nothing or a hyphen
    push Not at hsep
    obtain ⟨hne, hnot⟩ := hsep
    obtain ⟨token, tokens, rfl⟩ := List.exists_cons_of_ne_nil hne
    obtain ⟨next, rest, gaps, rfl, rfl, hrest, hnext, htoken, -⟩ := h.cases_cons
    by_cases hnil : lead = []
    · exact ⟨_, _, _, by simpa [hnil] using hrest.cons hnext (htoken.cons hc) isGap_nil⟩
    · have hhyphen : lead = ['-'] := by
        by_contra hother
        exact hnot ⟨hnil, hother⟩
      exact ⟨_, _, _, by simpa [hhyphen] using hrest.cons hnext (.joined (isGroup_singleton hc) htoken) isGap_nil⟩

end AreTokens

theorem exists_areTokens (text : List Char) : ∃ tokens lead gaps, AreTokens text tokens lead gaps := by
  -- a character is put in front of what makes up the rest, so nothing is scanned here
  induction text with
  | nil => exact ⟨_, _, _, .of_isGap isGap_nil⟩
  | cons c text ih =>
    obtain ⟨tokens, lead, gaps, h⟩ := ih
    cases hc : isTokenChar c with
    | false => exact ⟨_, _, _, h.cons_gapChar hc⟩
    | true => exact h.exists_cons_tokenChar hc

/-! ### The tokens that are read -/

theorem tokensAfter_append_of_isGroup (before : List Char) {g : List Char} (hg : ∀ c ∈ g, isTokenChar c = true)
    (rest : List Char) : tokensAfter before (g ++ rest) = tokensAfter (g.reverse ++ before) rest := by
  induction g generalizing before with
  | nil => rfl
  | cons c g ih =>
    obtain ⟨hc, hg⟩ := List.forall_mem_cons.1 hg
    rw [List.cons_append, tokensAfter, if_pos hc, ih _ hg, List.reverse_cons, List.append_assoc, List.singleton_append]

/-- A token is read to its end, hyphens and all. -/
theorem tokensAfter_append_of_isToken (before : List Char) {token : List Char} (h : IsToken token) (rest : List Char) :
    tokensAfter before (token ++ rest) = tokensAfter (token.reverse ++ before) rest := by
  induction h generalizing before with
  | group hg => exact tokensAfter_append_of_isGroup before hg.tokenChar rest
  | @joined g token hg htoken ih =>
    obtain ⟨c, cs, rfl, hc⟩ := htoken.exists_eq_cons
    have hbefore : g.reverse ++ before ≠ [] := List.append_ne_nil_of_left_ne_nil (by simpa using hg.ne_nil) _
    rw [List.append_assoc, tokensAfter_append_of_isGroup before hg.tokenChar, List.cons_append, tokensAfter,
      if_neg (by simp [isTokenChar_hyphen]), if_pos ⟨rfl, hbefore, by simpa using hc⟩, ih]
    simp

theorem tokensOf_append_of_isGap {gap : List Char} (h : IsGap gap) (rest : List Char) :
    tokensOf (gap ++ rest) = tokensOf rest := by
  induction gap with
  | nil => rfl
  | cons c gap ih =>
    obtain ⟨hc, hgap⟩ := List.forall_mem_cons.1 h
    rw [List.cons_append, tokensOf, tokensAfter, if_neg (by simp [hc]), if_neg (by simp)]
    exact ih hgap

/-- A token ends where the text ends but for a gap, and at a gap that separates it from the next one. -/
theorem tokensAfter_append_of_isGap (before : List Char) {gap rest : List Char} (hgap : IsGap gap)
    (h : rest ≠ [] → Separates gap) : tokensAfter before (gap ++ rest) = finished before ++ tokensOf rest := by
  cases gap with
  | nil =>
    obtain rfl : rest = [] := by
      by_contra hne
      exact (h hne).ne_nil rfl
    exact (List.append_nil _).symm
  | cons c gap =>
    obtain ⟨hc, hfree⟩ := List.forall_mem_cons.1 hgap
    have hends : ¬ (c = '-' ∧ before ≠ [] ∧ (gap ++ rest).head?.any isTokenChar = true) := by
      rintro ⟨rfl, -, hnext⟩
      cases gap with
      | nil => exact (h (by rintro rfl; exact Bool.noConfusion hnext)).ne_hyphen rfl
      | cons d gap => simp [hfree d List.mem_cons_self] at hnext
    rw [List.cons_append, tokensAfter, if_neg (by simp [hc]), if_neg hends]
    exact congrArg (finished before ++ ·) (tokensOf_append_of_isGap hfree rest)

/-- The tokens that make up a text are read. -/
theorem AreTokens.tokensOf_eq {text lead : List Char} {tokens gaps : List (List Char)}
    (h : AreTokens text tokens lead gaps) : tokensOf text = tokens := by
  induction tokens generalizing text lead gaps with
  | nil =>
    obtain rfl := List.length_eq_zero_iff.1 h.length_eq
    rw [h.text_eq]
    exact tokensOf_append_of_isGap (h.isGap lead List.mem_cons_self) []
  | cons token tokens ih =>
    obtain ⟨next, rest, gaps, rfl, rfl, hrest, hnext, htoken, hlead⟩ := h.cases_cons
    have hgap := hrest.isGap next List.mem_cons_self
    have hseparates : (List.zipWith (· ++ ·) tokens gaps).flatten ≠ [] → Separates next := fun hne =>
      hnext (by rintro rfl; exact hne rfl)
    -- the rest begins with the gap behind the token: the token ends there, and the gap adds none to what follows
    have hagain := ih hrest
    rw [hrest.text_eq, tokensOf_append_of_isGap hgap] at hagain
    have hfinished : finished token.reverse = [token] := by simp [finished, htoken.ne_nil]
    rw [List.append_assoc, tokensOf_append_of_isGap hlead, tokensOf, tokensAfter_append_of_isToken [] htoken,
      List.append_nil, hrest.text_eq, tokensAfter_append_of_isGap _ hgap hseparates, hfinished, hagain,
      List.singleton_append]

theorem tokensOf_eq_iff {text : List Char} {tokens : List (List Char)} :
    tokensOf text = tokens ↔ ∃ lead gaps, AreTokens text tokens lead gaps := by
  constructor
  · rintro rfl
    obtain ⟨tokens, lead, gaps, h⟩ := exists_areTokens text
    exact ⟨lead, gaps, h.tokensOf_eq ▸ h⟩
  · rintro ⟨lead, gaps, h⟩
    exact h.tokensOf_eq

/-! ### Letters and numbers -/

theorem filter_isGap {gap : List Char} (h : IsGap gap) : gap.filter isTokenChar = [] :=
  List.filter_eq_nil_iff.2 fun c hc => by simp [h c hc]

/-- The letters and numbers of a text are those of its tokens. -/
theorem AreTokens.filter_tokenChar {text lead : List Char} {tokens gaps : List (List Char)}
    (h : AreTokens text tokens lead gaps) : text.filter isTokenChar = tokens.flatten.filter isTokenChar := by
  induction tokens generalizing text lead gaps with
  | nil =>
    obtain rfl := List.length_eq_zero_iff.1 h.length_eq
    rw [h.text_eq, List.filter_append, filter_isGap (h.isGap lead List.mem_cons_self)]
    rfl
  | cons token tokens ih =>
    obtain ⟨next, rest, gaps, rfl, rfl, hrest, -, -, hlead⟩ := h.cases_cons
    rw [List.filter_append, List.filter_append, filter_isGap hlead, List.nil_append, ih hrest, List.flatten_cons,
      List.filter_append]

/-- Each token stands in the text. -/
theorem AreTokens.isInfix {text lead : List Char} {tokens gaps : List (List Char)}
    (h : AreTokens text tokens lead gaps) {token : List Char} (hmem : token ∈ tokens) : token <:+: text := by
  induction tokens generalizing text lead gaps with
  | nil => exact absurd hmem List.not_mem_nil
  | cons first tokens ih =>
    obtain ⟨next, rest, gaps, rfl, rfl, hrest, -⟩ := h.cases_cons
    rcases List.mem_cons.1 hmem with rfl | hmem
    · exact ⟨lead, rest, rfl⟩
    · exact (ih hrest hmem).trans (List.suffix_append (lead ++ first) rest).isInfix

/-! ### Joined tokens -/

theorem IsToken.tokensOf_eq {token : List Char} (h : IsToken token) : tokensOf token = [token] := by
  have hone := ((AreTokens.of_isGap isGap_nil).cons (fun hne => absurd rfl hne) h isGap_nil).tokensOf_eq
  rwa [List.nil_append, List.append_nil] at hone

theorem tokensOf_intercalate {tokens : List (List Char)} (h : ∀ token ∈ tokens, IsToken token) :
    tokensOf ([' '].intercalate tokens) = tokens := by
  induction tokens with
  | nil => rfl
  | cons first tokens ih =>
    obtain ⟨hfirst, htokens⟩ := List.forall_mem_cons.1 h
    cases tokens with
    | nil => rw [List.intercalate_singleton, hfirst.tokensOf_eq]
    | cons second tokens =>
      rw [List.intercalate_cons_cons, List.append_assoc, List.singleton_append,
        tokensOf_append_of_isBlank (by decide), ih htokens, hfirst.tokensOf_eq, List.singleton_append]

/-- The tokens of a text in lowercase are in lowercase. -/
theorem lower_of_mem_tokensOf {cs token : List Char} (h : token ∈ tokensOf (lower cs)) : lower token = token := by
  obtain ⟨lead, gaps, htokens⟩ := tokensOf_eq_iff.1 (rfl : tokensOf (lower cs) = _)
  exact lowerAfter_of_isLowered [] fun c hc => isLowered_of_mem_lowerAfter ((htokens.isInfix h).subset hc)

theorem loweredTokens_intercalate (cs : List Char) :
    loweredTokens ([' '].intercalate (loweredTokens cs)) = loweredTokens cs := by
  obtain ⟨lead, gaps, htokens⟩ := tokensOf_eq_iff.1 (rfl : loweredTokens cs = _)
  have hlower : (loweredTokens cs).map lower = loweredTokens cs :=
    (List.map_congr_left fun token => lower_of_mem_tokensOf).trans (List.map_id _)
  rw [loweredTokens, lower_intercalate_space, hlower]
  exact tokensOf_intercalate htokens.isToken

/-! ### Stored texts -/

theorem map_toList_tokenize (text : String) : (tokenize text).map String.toList = loweredTokens text.toList :=
  Lists.map_toList_map_ofList _

theorem tokenize_joined (text : String) : tokenize (joined " " (tokenize text)) = tokenize text := by
  rw [tokenize_eq_map, toList_joined, map_toList_tokenize]
  exact congrArg (List.map String.ofList) (loweredTokens_intercalate text.toList)

/-- **The grammar of tokens.** The tokens of a text are the one way to make up its lowercase form of tokens and gaps: of
groups of letters and numbers, joined by single hyphens, and of other characters around them, which are neither none nor
a single hyphen between two tokens. Each letter and number is in one of the tokens, in the order of the text. Joined by
spaces, the tokens are read again. -/
theorem tokenize_grammar (text : String) :
    (∀ tokens : List String, tokenize text = tokens ↔
      ∃ lead gaps, AreTokens (lowered text).toList (tokens.map String.toList) lead gaps) ∧
    ((tokenize text).map String.toList).flatten.filter isTokenChar = (lowered text).toList.filter isTokenChar ∧
    tokenize (joined " " (tokenize text)) = tokenize text := by
  rw [toList_lowered, map_toList_tokenize]
  have hstored : Function.Injective (List.map String.toList) := List.map_injective_iff.2 fun _ _ => String.toList_inj.1
  obtain ⟨lead, gaps, htokens⟩ := tokensOf_eq_iff.1 (rfl : loweredTokens text.toList = _)
  refine ⟨fun tokens => ?_, htokens.filter_tokenChar.symm, tokenize_joined text⟩
  rw [← hstored.eq_iff, map_toList_tokenize]
  exact tokensOf_eq_iff

/-! A hyphen at the end of a word, two hyphens, and a capital whose lowercase form is a letter and a mark. -/

example : tokenize "Peer-to-peer- and B2B--İT" = ["peer-to-peer", "and", "b2b", "i", "t"] := by decide +kernel

end MarketBrief.Token
