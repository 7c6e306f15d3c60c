import MarketBrief.Proofs.Article.Clean

/-!
# What cleaning leaves behind

Phrases are taken out once, and lines are judged before anything in them is mended. So mending can bring about a phrase,
a boilerplate line or the header of an author note, and cleaning leaves it.

* `isPromotional_clean_iff`: a phrase is left exactly if a kept line, its own phrases taken out, holds one whose spaces
  may be runs of spaces and tabs; `phrase_left`: such a line;
* `droppable_line_left_iff`: a line is left that would be dropped by itself exactly if mending makes one of a kept line;
  `byline_left`: such a line.
-/

namespace MarketBrief.Article

open Text Unicode

/-! ### Phrases -/

theorem infix_mended_iff {p : List Char} (hp : Spaced p) (line : List Char) :
    p <:+: mended line ↔ ∃ q, q <:+: blankPromotions (trim line) ∧ collapseSpaces q = p := by
  rw [mended, infix_trim_iff hp.head hp.last, infix_collapseSpaces_iff hp]

theorem infix_clean_iff {p : List Char} (hp : IsPromotion p) (text : String) :
    p <:+: (clean text).toList ↔ ∃ line ∈ keptLines text, p <:+: mended line := by
  rw [toList_clean, infix_intercalate_iff hp.spaced.ne_nil hp.spaced.lineFeed_notMem]
  constructor
  · rintro ⟨line, hline, hin⟩
    obtain ⟨-, raw, hraw, rfl⟩ := mem_cleanLines_iff.1 hline
    exact ⟨raw, hraw, hin⟩
  · rintro ⟨raw, hraw, hin⟩
    refine ⟨mended raw, mem_cleanLines_iff.2 ⟨?_, raw, hraw, rfl⟩, hin⟩
    intro hnil
    rw [hnil, List.infix_nil] at hin
    exact hp.spaced.ne_nil hin

theorem not_isTidy_of_infix_mended {line p : List Char} (hp : IsPromotion p) (h : p <:+: mended line) :
    ¬ IsTidy (trim line) := by
  intro htidy
  rw [mended_of_isTidy htidy] at h
  exact absurd (holdsPromotion_iff.2 ⟨p, h, hp⟩) (by rw [htidy.holdsPromotion]; exact Bool.noConfusion)

/-- A cleaned article is promotional exactly if, in a kept line, the text that remains of it when its promotional
phrases have become spaces has a stretch that is a promotional phrase up to the lengths of its gaps. Such a line is not
tidy. -/
theorem isPromotional_clean_iff (text : String) :
    isPromotional (clean text) = true ↔ ∃ line ∈ keptLines text, ¬ IsTidy (trim line) ∧
      ∃ q, q <:+: blankPromotions (trim line) ∧ IsPromotion (collapseSpaces q) := by
  rw [isPromotional, holdsPromotion_iff]
  constructor
  · rintro ⟨p, hin, hp⟩
    obtain ⟨line, hline, hin⟩ := (infix_clean_iff hp text).1 hin
    obtain ⟨q, hq, rfl⟩ := (infix_mended_iff hp.spaced line).1 hin
    exact ⟨line, hline, not_isTidy_of_infix_mended hp hin, q, hq, hp⟩
  · rintro ⟨line, hline, -, q, hq, hp⟩
    have hin := (infix_mended_iff hp.spaced line).2 ⟨q, hq, rfl⟩
    exact ⟨collapseSpaces q, (infix_clean_iff hp text).2 ⟨line, hline, hin⟩, hp⟩

/-- Two spaces keep a phrase from being found, and become one behind the search. -/
theorem phrase_left : ¬ ∀ text, isPromotional (clean text) = false := by
  intro hall
  have hleft : isPromotional (clean "Sign  up today.") = true := by decide +kernel
  exact absurd hleft (by rw [hall]; exact Bool.noConfusion)

/-! ### Lines -/

/-- A line that opens a note still does with blanks behind it, and without the spaces and tabs in front. -/
theorem opensAuthorNote_of_trim {line : List Char} (hindent : ∀ c ∈ line.takeWhile isBlank, isSpaceOrTab c = true)
    (h : opensAuthorNote (trim line) = true) : opensAuthorNote line = true := by
  have hdrop : line.dropWhile isSpaceOrTab = trimStart line := by
    have hhead : ∀ c ∈ (trimStart line).head?, isSpaceOrTab c = false := fun c hc =>
      isSpaceOrTab_of_isBlank_eq_false (head?_dropWhile_eq_false line c hc)
    conv_lhs => rw [← List.takeWhile_append_dropWhile (p := isBlank) (l := line)]
    rw [List.dropWhile_append_of_pos hindent]
    exact dropWhile_of_head?_eq_false hhead
  have hself : (trim line).dropWhile isSpaceOrTab = trim line :=
    dropWhile_of_head?_eq_false fun c hc => isSpaceOrTab_of_isBlank_eq_false (not_blank_head_trim line c hc)
  obtain ⟨blanks, hblanks, heq⟩ := exists_eq_trimEnd_append (trimStart line)
  rw [opensAuthorNote, hself, Option.isSome_iff_exists] at h
  obtain ⟨rest, hrest⟩ := h
  rw [opensAuthorNote, hdrop, heq, ← trim, afterWholePhrase?_append hblanks hrest]
  rfl

/-- Cleaning leaves a line that is boilerplate or the header of an author note exactly if mending makes such a line of a
kept one. That line is not tidy, or it is indented by a blank that is neither a space nor a tab and mending bares the
header. -/
theorem droppable_line_left_iff (text : String) :
    (∃ line ∈ lines (clean text).toList, isBoilerplate line = true ∨ opensAuthorNote line = true) ↔
      ∃ line ∈ keptLines text, (isBoilerplate (mended line) = true ∨ opensAuthorNote (mended line) = true) ∧
        (¬ IsTidy (trim line) ∨
          opensAuthorNote (trim line) = true ∧ ∃ c ∈ line.takeWhile isBlank, isSpaceOrTab c = false) := by
  constructor
  · rintro ⟨line, hline, hdrop⟩
    have hne : line ≠ [] := by
      rintro rfl
      exact absurd hdrop (by decide +kernel)
    obtain ⟨raw, hraw, rfl⟩ := (mem_lines_clean_iff hne).1 hline
    refine ⟨raw, hraw, hdrop, ?_⟩
    by_cases htidy : IsTidy (trim raw)
    · -- a tidy line has been judged in its mended form, but for its indentation
      obtain ⟨-, hnot, hboiler⟩ := mem_keptLines hraw
      rw [mended_of_isTidy htidy, hboiler] at hdrop
      have hopens := hdrop.resolve_left Bool.noConfusion
      refine Or.inr ⟨hopens, ?_⟩
      by_contra hindent
      have hall : ∀ c ∈ raw.takeWhile isBlank, isSpaceOrTab c = true := by simpa using hindent
      exact absurd (opensAuthorNote_of_trim hall hopens) (by rw [hnot]; exact Bool.noConfusion)
    · exact Or.inl htidy
  · rintro ⟨raw, hraw, hdrop, -⟩
    have hne : mended raw ≠ [] := by
      intro hnil
      rw [hnil] at hdrop
      exact absurd hdrop (by decide +kernel)
    exact ⟨mended raw, (mem_lines_clean_iff hne).2 ⟨raw, hraw, rfl⟩, hdrop⟩

/-- Two spaces keep a byline from being dropped, and become one when it has been judged. -/
theorem byline_left :
    ¬ ∀ text, ∀ line ∈ lines (clean text).toList, isBoilerplate line = false ∧ opensAuthorNote line = false := by
  intro hall
  have hleft : "By Jane Doe".toList ∈ lines (clean "Klarna files for IPO.\nBy  Jane Doe").toList := by decide +kernel
  have hboiler : isBoilerplate "By Jane Doe".toList = true := by decide +kernel
  exact absurd hboiler (by rw [(hall _ _ hleft).1]; exact Bool.noConfusion)

end MarketBrief.Article
