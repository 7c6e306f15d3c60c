import MarketBrief.Lexicon.Fintech
import MarketBrief.Proofs.Category.Detection
import MarketBrief.Proofs.Lexicon.Score
import MarketBrief.Proofs.Text.Words
import MarketBrief.Proofs.Thesis.Sums
import MarketBrief.Proofs.Token

/-!
# Wrapped lines

Where a line is wrapped, other blanks stand between two words. A vocabulary compares tokens and does not see them. A
table compares characters: a keyword of several words is found over a single space, and over no other blanks.

* `Gap`, `Break`: blanks, and a text that is broken between two words;
* `tokenize_text`: whatever the blanks are, the tokens are the same;
* `countOccurrences_over_gap`: a spaced keyword counts apart on both sides of blanks, unless they are a single space
  that it spans;
* `rank_text_congr`: so a table tells other blanks from a single space, and that only where a keyword spans it;
* `hits_text_lt`, `isWordwise_of_rank_text_eq`: a break of the shortest keyword of several words takes hits from its
  entry;
* `wrapping_ignored_iff`: vocabularies and tables beside each other;
* `not_wrapping_ignored`, `Wrapped.wrapping_ignored_between_lines`: a bank, on one line and on two.
-/

namespace MarketBrief

open Category Text Token Unicode

/-! ### Gaps -/

/-- Blanks that can stand between two words: there is at least one. -/
structure Gap where
  blanks : String
  ne_empty : blanks ≠ ""
  isBlankText : isBlankText blanks = true
  deriving DecidableEq

def Gap.space : Gap := ⟨" ", by decide, by decide⟩

/-- A text that is broken between two words. -/
structure Break where
  front : String
  back : String
  front_ends : ∃ c ∈ front.toList.getLast?, isBlank c = false
  back_begins : ∃ c ∈ back.toList.head?, isBlank c = false

def Break.text (b : Break) (g : Gap) : String := b.front ++ g.blanks ++ b.back

theorem lowered_over_gap (g : Gap) (front back : String) :
    lowered (front ++ g.blanks ++ back) = lowered front ++ g.blanks ++ lowered back :=
  lowered_over g.ne_empty g.isBlankText front back

theorem tokenize_over_gap (g : Gap) (front back : String) :
    tokenize (front ++ g.blanks ++ back) = tokenize front ++ tokenize back := by
  obtain ⟨c, cs, hblanks, hc, hcs⟩ := exists_cons_of_isBlankText g.ne_empty g.isBlankText
  simp only [tokenize_eq_map, String.toList_append, hblanks, List.append_assoc, List.cons_append]
  rw [loweredTokens_append_of_isBlank hc, loweredTokens_blanks_append hcs, List.map_append]

theorem tokenize_text (b : Break) (g g' : Gap) : tokenize (b.text g) = tokenize (b.text g') := by
  rw [Break.text, Break.text, tokenize_over_gap, tokenize_over_gap]

/-! ### Keywords over a gap -/

section Keyword

variable {keyword : String} (hkeyword : IsSpaced keyword) {g : Gap} {front back : String}

include hkeyword

/-- Blanks other than a single space are no part of a spaced keyword, and a single space is so where it is spanned. -/
theorem countOccurrences_over_gap (h : g = .space → ¬ Spans keyword.toList front.toList back.toList) :
    countOccurrences (front ++ g.blanks ++ back) keyword =
      countOccurrences front keyword + countOccurrences back keyword := by
  obtain ⟨c, cs, hblanks, hc, hcs⟩ := exists_cons_of_isBlankText g.ne_empty g.isBlankText
  have hspans : ¬ SpansAt c keyword.toList front.toList (cs ++ back.toList) := by
    rintro ⟨lead, rest, hsplit, hlead, hrest⟩
    obtain ⟨rfl, -, d, hd, hblank⟩ := hkeyword.around_blank hc hsplit
    cases cs with
    | nil =>
      have hspace : g = .space := by
        cases g
        simpa [Gap.space, ← String.toList_inj] using hblanks
      exact h hspace ⟨lead, rest, hsplit, hlead, hrest⟩
    | cons e cs =>
      -- behind the first blank of the gap comes a second one, but in the keyword a word begins
      obtain ⟨rest, rfl⟩ := List.head?_eq_some_iff.1 hd
      obtain rfl := (List.cons_prefix_cons.1 hrest).1
      exact Bool.noConfusion (hblank.symm.trans (hcs d List.mem_cons_self))
  have htext : front ++ g.blanks ++ back = String.ofList (front.toList ++ c :: (cs ++ back.toList)) := by
    rw [← String.toList_inj, String.toList_ofList]
    simp [hblanks]
  rw [htext, countOccurrences_append (isAlphanumeric_of_isBlank hc) hspans,
    countOccurrences_blanks_append hkeyword.trimmed hcs, String.ofList_toList, String.ofList_toList]

end Keyword

theorem not_spans_of_notMem {keyword front back : List Char} (h : ' ' ∉ keyword) : ¬ Spans keyword front back := by
  rintro ⟨lead, rest, rfl, -, -⟩
  exact h (List.mem_append_right _ List.mem_cons_self)

/-! ### Tables -/

namespace Category.Table

/-- The words of every keyword are separated by single spaces. -/
def IsSpaced (t : Table) : Prop := ∀ group, ∀ e ∈ t.entries group, ∀ keyword ∈ e.keywords, Text.IsSpaced keyword

/-- No keyword has several words. -/
def IsWordwise (t : Table) : Prop := ∀ group, ∀ e ∈ t.entries group, ∀ keyword ∈ e.keywords, ' ' ∉ keyword.toList

/-- A keyword spans a single space at the break. -/
def SpansBreak (t : Table) (b : Break) : Prop :=
  ∃ group, ∃ e ∈ t.entries group, ∃ keyword ∈ e.keywords,
    Spans keyword.toList (lowered b.front).toList (lowered b.back).toList

theorem IsWordwise.not_spansBreak {t : Table} (h : t.IsWordwise) (b : Break) : ¬ t.SpansBreak b := by
  rintro ⟨group, e, he, keyword, hkeyword, hspans⟩
  exact not_spans_of_notMem (h group e he keyword hkeyword) hspans

end Category.Table

section Scorer

variable {s : Scorer} (hspaced : s.table.IsSpaced)

include hspaced

theorem countOccurrences_text {group : Group} {e : Entry} (he : e ∈ s.table.entries group) {keyword : String}
    (hkeyword : keyword ∈ e.keywords) {b : Break} {g : Gap} (h : g = .space → ¬ s.table.SpansBreak b) :
    countOccurrences (lowered (b.text g)) keyword =
      countOccurrences (lowered b.front) keyword + countOccurrences (lowered b.back) keyword := by
  rw [Break.text, lowered_over_gap]
  refine countOccurrences_over_gap (hspaced group e he keyword hkeyword) fun hg hspans => ?_
  exact h hg ⟨group, e, he, keyword, hkeyword, hspans⟩

theorem rank_text_congr_of_apart {b : Break} {g g' : Gap} (hg : g = .space → ¬ s.table.SpansBreak b)
    (hg' : g' = .space → ¬ s.table.SpansBreak b) (group : Group) :
    s.rank (b.text g) group = s.rank (b.text g') group := by
  refine rankEntries_congr fun e he => s.strategy.hits_congr fun keyword hkeyword => ?_
  rw [countOccurrences_text hspaced he hkeyword hg, countOccurrences_text hspaced he hkeyword hg']

theorem rank_text_congr {b : Break} {g g' : Gap} (h : (g = .space ↔ g' = .space) ∨ ¬ s.table.SpansBreak b)
    (group : Group) : s.rank (b.text g) group = s.rank (b.text g') group := by
  rcases h with hboth | hspans
  · by_cases hg : g = .space
    · rw [hg, hboth.1 hg]
    · exact rank_text_congr_of_apart hspaced (fun heq => absurd heq hg) (fun heq => absurd (hboth.2 heq) hg) group
  · exact rank_text_congr_of_apart hspaced (fun _ => hspans) (fun _ => hspans) group

theorem thesis_text_congr {b : Break} {g g' : Gap} (h : (g = .space ↔ g' = .space) ∨ ¬ s.table.SpansBreak b)
    (documents : List Document) : s.thesis (b.text g) documents = s.thesis (b.text g') documents :=
  thesis_eq_of_rank_eq rfl (rank_text_congr hspaced h) documents

end Scorer

/-! ### Keywords of several words -/

namespace Category

theorem countOccurrences_self_pos {keyword : String} (hne : keyword ≠ "") : 0 < countOccurrences keyword keyword := by
  unfold countOccurrences
  cases hkeyword : keyword.toList with
  | nil => exact absurd hkeyword (by simpa using hne)
  | cons c cs =>
    rw [occurrencesAfter_of_found ⟨List.cons_ne_nil c cs, by simp⟩, List.drop_length, List.countP_cons]
    simp [counts]

theorem countOccurrences_of_length_lt {text keyword : String} (h : text.toList.length < keyword.toList.length) :
    countOccurrences text keyword = 0 := by
  by_contra hpos
  obtain ⟨before, after, htext, -, -⟩ := standsIn_of_countOccurrences_pos (Nat.pos_of_ne_zero hpos)
  rw [htext, List.length_append, List.length_append] at h
  omega

end Category

theorem exists_break {keyword : String} (hkeyword : IsSpaced keyword) (h : ' ' ∈ keyword.toList) :
    ∃ b : Break, b.text .space = keyword := by
  obtain ⟨front, back, hsplit⟩ := List.append_of_mem h
  obtain ⟨-, hfront, hback⟩ := hkeyword.around_blank (by decide) hsplit
  refine ⟨⟨String.ofList front, String.ofList back, by simpa using hfront, by simpa using hback⟩, ?_⟩
  rw [← String.toList_inj, hsplit]
  simp [Break.text, Gap.space]

section Lost

variable {keyword : String} (hkeyword : IsSpaced keyword) (b : Break) {g : Gap}

include hkeyword

/-- Over blanks other than a single space no keyword is found that is as long as the text. -/
theorem countOccurrences_text_eq_zero (hg : g ≠ .space)
    (hlong : (lowered (b.text .space)).toList.length ≤ keyword.toList.length) :
    countOccurrences (lowered (b.text g)) keyword = 0 := by
  rw [Break.text, lowered_over_gap, String.toList_append, String.toList_append, List.length_append,
    List.length_append] at hlong
  have hspace : Gap.space.blanks.toList.length = 1 := rfl
  rw [Break.text, lowered_over_gap, countOccurrences_over_gap hkeyword fun heq => absurd heq hg,
    countOccurrences_of_length_lt (by omega), countOccurrences_of_length_lt (by omega)]

theorem countOccurrences_text_of_notMem (h : ' ' ∉ keyword.toList) (g' : Gap) :
    countOccurrences (lowered (b.text g)) keyword = countOccurrences (lowered (b.text g')) keyword := by
  simp only [Break.text, lowered_over_gap]
  rw [countOccurrences_over_gap hkeyword fun _ => not_spans_of_notMem h,
    countOccurrences_over_gap hkeyword fun _ => not_spans_of_notMem h]

end Lost

/-- Where a keyword of several words is broken and none of the others is shorter, it is lost and none is won: the others
of several words are too long for the text, and those of one word count as before. -/
theorem hits_text_lt (s : Strategy) {keywords : List String} (hspaced : ∀ keyword ∈ keywords, IsSpaced keyword)
    {keyword : String} (hkeyword : keyword ∈ keywords) (hspace : ' ' ∈ keyword.toList)
    (hshortest : ∀ k ∈ keywords, ' ' ∈ k.toList → keyword.toList.length ≤ k.toList.length) {b : Break}
    (hb : lowered (b.text .space) = keyword) {g : Gap} (hg : g ≠ .space) :
    s.hits (lowered (b.text g)) keywords < s.hits (lowered (b.text .space)) keywords := by
  have hlost : ∀ k ∈ keywords, ' ' ∈ k.toList → countOccurrences (lowered (b.text g)) k = 0 := fun k hk hkspace =>
    countOccurrences_text_eq_zero (hspaced k hk) b hg (hb ▸ hshortest k hk hkspace)
  refine s.hits_lt_hits (fun k hk => ?_) hkeyword (hlost keyword hkeyword hspace) ?_
  · by_cases hkspace : ' ' ∈ k.toList
    · exact (hlost k hk hkspace).trans_le (Nat.zero_le _)
    · exact (countOccurrences_text_of_notMem (hspaced k hk) b hkspace .space).le
  · rw [hb]
    exact countOccurrences_self_pos (by rintro rfl; exact absurd hspace List.not_mem_nil)

theorem isWordwise_of_rank_text_eq {s : Scorer} (hs : s.table.Built) (hspaced : s.table.IsSpaced) {g : Gap}
    (hg : g ≠ .space) (h : ∀ (b : Break) (group : Group), s.rank (b.text .space) group = s.rank (b.text g) group) :
    s.table.IsWordwise := by
  intro group e he keyword hkeyword hspace
  obtain ⟨shortest, ⟨hmem, hwords⟩, hmin⟩ := (measure fun k : String => k.toList.length).wf.has_min
    {k | k ∈ e.keywords ∧ ' ' ∈ k.toList} ⟨keyword, hkeyword, hspace⟩
  obtain ⟨b, hb⟩ := exists_break (hspaced group e he shortest hmem) hwords
  obtain ⟨-, -, hlowered⟩ := ((hs.isNormalGroup group).entry e he).keyword shortest hmem
  have hlt := hits_text_lt s.strategy (hspaced group e he) hmem hwords
    (fun k hk hkspace => Nat.le_of_not_lt (hmin k ⟨hk, hkspace⟩)) (by rw [hb, hlowered]) hg
  have heq := congrArg (hitsOf e.label) (h b group)
  rw [Scorer.rank, Scorer.rank, hitsOf_rankEntries (hs.nodup_labels group) he,
    hitsOf_rankEntries (hs.nodup_labels group) he] at heq
  exact absurd heq hlt.ne'

/-! ### Vocabularies and tables -/

/-- **Wrapped lines.** Whatever blanks stand between two words of a text, a vocabulary gives it the same score. A table
whose keywords are spaced gives the same thesis for a single space and for other blanks if no keyword spans the break;
at all breaks it gives the same rankings exactly if no keyword has several words. Blanks other than a single space are
the same to it. -/
theorem wrapping_ignored_iff {s : Scorer} (hs : s.table.Built) (hspaced : s.table.IsSpaced) (g g' : Gap) :
    (∀ (b : Break) (l : Lexicon), l.score (b.text g) = l.score (b.text g')) ∧
    (∀ b : Break, (g = .space ↔ g' = .space) ∨ ¬ s.table.SpansBreak b →
      (∀ group, s.rank (b.text g) group = s.rank (b.text g') group) ∧
      ∀ documents, s.thesis (b.text g) documents = s.thesis (b.text g') documents) ∧
    ((∀ (b : Break) (group : Group), s.rank (b.text g) group = s.rank (b.text g') group) ↔
      (g = .space ↔ g' = .space) ∨ s.table.IsWordwise) := by
  refine ⟨fun b l => ?_, fun b h => ⟨rank_text_congr hspaced h, thesis_text_congr hspaced h⟩, fun h => ?_, ?_⟩
  · rw [Lexicon.score, Lexicon.score, tokenize_text b g g']
  · by_cases hg : g = .space
    · by_cases hg' : g' = .space
      · exact Or.inl (iff_of_true hg hg')
      · exact Or.inr (isWordwise_of_rank_text_eq hs hspaced hg' (hg ▸ h))
    · by_cases hg' : g' = .space
      · exact Or.inr (isWordwise_of_rank_text_eq hs hspaced hg fun b group => (hg' ▸ h b group).symm)
      · exact Or.inl (iff_of_false hg hg')
  · rintro (hboth | hwordwise) b group
    · exact rank_text_congr hspaced (Or.inl hboth) group
    · exact rank_text_congr hspaced (Or.inr (hwordwise.not_spansBreak b)) group

/-! Two words of a keyword on two lines. -/

namespace Wrapped

def lineFeed : Gap := ⟨"\n", by decide, by decide⟩

def twoSpaces : Gap := ⟨"  ", by decide, by decide⟩

/-- A bank that is broken at the end of a line. -/
def bank : Break := ⟨"Digital", "banks", ⟨'l', rfl, by decide⟩, ⟨'b', rfl, by decide⟩⟩

/-- The default scorer, whose table has keywords of several words. -/
def scorer : Scorer := {}

theorem isSpaced_fintech : Table.fintech.IsSpaced := by
  intro group
  cases group <;> decide +kernel

theorem not_isWordwise_fintech : ¬ Table.fintech.IsWordwise := fun h =>
  absurd (h .themes ⟨"Neobanking", ["neobank", "digital bank", "challenger bank", "online banking"]⟩ (by decide)
    "digital bank" (by decide)) (by decide)

theorem not_wrapping_ignored : ¬ ∀ s : Scorer, s.table.Built → s.table.IsSpaced → ∀ (b : Break) (g g' : Gap)
    (documents : List Document), s.thesis (b.text g) documents = s.thesis (b.text g') documents := by
  intro h
  have hwrapped := congrArg Thesis.keyThemes (h scorer .fintech isSpaced_fintech bank .space lineFeed [])
  have hspace : (scorer.thesis (bank.text .space) []).keyThemes = ["Neobanking"] := by decide +kernel
  have hline : (scorer.thesis (bank.text lineFeed) []).keyThemes = [] := by decide +kernel
  rw [hspace, hline] at hwrapped
  exact absurd hwrapped (List.cons_ne_nil _ _)

theorem wrapping_ignored_between_lines :
    scorer.table.Built ∧ scorer.table.IsSpaced ∧
    Lexicon.fintech.score (bank.text .space) = Lexicon.fintech.score (bank.text lineFeed) ∧
    (lineFeed = .space ↔ twoSpaces = .space) ∧
    scorer.thesis (bank.text lineFeed) [] = scorer.thesis (bank.text twoSpaces) [] ∧
    ¬ ∀ (b : Break) (group : Group), scorer.rank (b.text .space) group = scorer.rank (b.text lineFeed) group := by
  have hline : lineFeed ≠ .space := by decide
  have hneither : lineFeed = .space ↔ twoSpaces = .space := iff_of_false hline (by decide)
  have hspace := wrapping_ignored_iff (s := scorer) .fintech isSpaced_fintech .space lineFeed
  obtain ⟨-, hthesis, -⟩ := wrapping_ignored_iff (s := scorer) .fintech isSpaced_fintech lineFeed twoSpaces
  refine ⟨.fintech, isSpaced_fintech, hspace.1 bank .fintech, hneither, (hthesis bank (Or.inl hneither)).2 [],
    fun h => ?_⟩
  rcases hspace.2.2.1 h with heq | hwordwise
  · exact hline (heq.1 rfl)
  · exact not_isWordwise_fintech hwordwise

end Wrapped

end MarketBrief
