import MarketBrief.Proofs.Article.Layout

/-!
# Articles that cleaning leaves as they are

* `HoldsAuthorNote`: the header of an author note stands at the beginning of a line, wherever in the text that is;
* `IsPlain`: a laid out line that is no boilerplate and holds no promotional phrase;
* `cleanLine?_eq_some_self_iff`, `cleanLines_eq_lines_iff`: the lines that remain what they are, one and all;
* `clean_eq_self_iff`: cleaning leaves an article as it is exactly if there is nothing in it that cleaning looks for.
-/

namespace MarketBrief.Article

open Text Unicode

/-! ### Author notes in a text -/

/-- The header of an author note at the beginning of a line, perhaps behind spaces and tabs, and at a word's end. -/
def HoldsAuthorNote (cs : List Char) : Prop :=
  ∃ before indent header after, cs = before ++ (indent ++ (header ++ after)) ∧ (∀ c ∈ before.getLast?, c = '\n') ∧
    (∀ c ∈ indent, isSpaceOrTab c = true) ∧ Reads "about the author".toList header ∧ endsWord after = true

theorem spaced_header {header : List Char} (h : Reads "about the author".toList header) : Spaced header :=
  h.spaced (by decide +kernel)

theorem opensAuthorNote_iff {line : List Char} :
    opensAuthorNote line = true ↔ ∃ indent header after, line = indent ++ (header ++ after) ∧
      (∀ c ∈ indent, isSpaceOrTab c = true) ∧ Reads "about the author".toList header ∧ endsWord after = true := by
  rw [opensAuthorNote, Option.isSome_iff_exists]
  constructor
  · rintro ⟨after, h⟩
    obtain ⟨hphrase, hend⟩ := Option.filter_eq_some_iff.1 h
    obtain ⟨header, heq, hheader⟩ := afterPhrase?_eq_some_iff.1 hphrase
    refine ⟨line.takeWhile isSpaceOrTab, header, after, ?_, List.all_eq_true.1 List.all_takeWhile, hheader, hend⟩
    rw [← heq, List.takeWhile_append_dropWhile]
  · rintro ⟨indent, header, after, rfl, hindent, hheader, hend⟩
    have hdrop : (header ++ after).dropWhile isSpaceOrTab = header ++ after := by
      refine dropWhile_of_head?_eq_false fun c hc => isSpaceOrTab_of_isBlank_eq_false ?_
      refine (spaced_header hheader).head c ?_
      rwa [List.head?_append_of_ne_nil _ (spaced_header hheader).ne_nil] at hc
    rw [List.dropWhile_append_of_pos hindent, hdrop]
    exact ⟨after, Option.filter_eq_some_iff.2 ⟨afterPhrase?_eq_some_iff.2 ⟨header, rfl, hheader⟩, hend⟩⟩

/-- Whether a word ends before a text is seen on the text's first line. -/
theorem endsWord_append_iff {after behind : List Char} (h : ∀ c ∈ behind.head?, c = '\n') :
    endsWord (after ++ behind) = endsWord after := by
  cases after with
  | cons c after => rfl
  | nil =>
    cases behind with
    | nil => rfl
    | cons c behind =>
      obtain rfl := h c rfl
      have hfeed : isWordChar '\n' = false := isWordChar_of_isBlank (by decide)
      simp [endsWord, hfeed]

theorem holdsAuthorNote_iff {cs : List Char} :
    HoldsAuthorNote cs ↔ ∃ line ∈ lines cs, opensAuthorNote line = true := by
  constructor
  · rintro ⟨before, indent, header, after, rfl, hbefore, hindent, hheader, hend⟩
    -- the line of the header ends at the first line feed behind it
    have hafter := List.takeWhile_append_dropWhile (p := (· ≠ '\n')) (l := after)
    have hbehind : ∀ c ∈ (after.dropWhile (· ≠ '\n')).head?, c = '\n' := fun c hc => by
      simpa using head?_dropWhile_eq_false after c hc
    rw [← hafter, endsWord_append_iff hbehind] at hend
    refine ⟨indent ++ (header ++ after.takeWhile (· ≠ '\n')), mem_lines_iff.2 ⟨?_, ?_⟩,
      opensAuthorNote_iff.2 ⟨indent, header, _, rfl, hindent, hheader, hend⟩⟩
    · simp only [List.mem_append, not_or]
      refine ⟨fun hmem => ?_, (spaced_header hheader).lineFeed_notMem, fun hmem => ?_⟩
      · exact absurd (hindent _ hmem) (by decide)
      · exact absurd (List.all_eq_true.1 List.all_takeWhile _ hmem) (by decide)
    · refine ⟨before, after.dropWhile (· ≠ '\n'), ?_, hbefore, hbehind⟩
      rw [List.append_assoc, List.append_assoc, hafter]
  · rintro ⟨line, hline, hopens⟩
    obtain ⟨-, before, behind, rfl, hbefore, hbehind⟩ := mem_lines_iff.1 hline
    obtain ⟨indent, header, after, rfl, hindent, hheader, hend⟩ := opensAuthorNote_iff.1 hopens
    refine ⟨before, indent, header, after ++ behind, ?_, hbefore, hindent, hheader, ?_⟩
    · rw [List.append_assoc, List.append_assoc]
    · rwa [endsWord_append_iff hbehind]

theorem withoutAuthorNotes_eq_self {lines : List (List Char)} (h : ∀ line ∈ lines, opensAuthorNote line = false) :
    withoutAuthorNotes lines = lines := by
  induction lines with
  | nil => rw [withoutAuthorNotes]
  | cons line lines ih =>
    obtain ⟨hline, hlines⟩ := List.forall_mem_cons.1 h
    rw [withoutAuthorNotes, if_neg (by simp [hline]), ih hlines]

/-! ### Lines -/

/-- A laid out line that is no boilerplate and holds no promotional phrase. -/
structure IsPlain (line : List Char) : Prop extends IsLaidOut line where
  isBoilerplate : isBoilerplate line = false
  holdsPromotion : holdsPromotion line = false

theorem IsLaidOut.trim_eq {line : List Char} (h : IsLaidOut line) : trim line = line :=
  trim_of_not_blank h.head h.last

/-- A phrase that is taken out leaves fewer characters that are no blanks, and no space makes up for them. -/
theorem holdsPromotion_of_mended_eq {line : List Char} (htrim : trim line = line) (h : mended line = line) :
    holdsPromotion line = false := by
  cases hholds : holdsPromotion line with
  | false => rfl
  | true =>
    have hlt := length_filter_blankPromotions_lt hholds
    have heq : line.filter (!isBlank ·) = (blankPromotions line).filter (!isBlank ·) := by
      conv_lhs => rw [← h, mended, filter_trim, filter_collapseSpaces, htrim]
    rw [heq] at hlt
    exact absurd hlt (Nat.lt_irrefl _)

theorem cleanLine?_eq_some_self_iff {line : List Char} : cleanLine? line = some line ↔ IsPlain line := by
  rw [cleanLine?_eq_some_iff]
  constructor
  · rintro ⟨hboiler, hmended, hne⟩
    have hlaid : IsLaidOut line := hmended ▸ isLaidOut_mended (hmended.symm ▸ hne)
    exact ⟨hlaid, hlaid.trim_eq ▸ hboiler, holdsPromotion_of_mended_eq hlaid.trim_eq hmended⟩
  · intro h
    have htrim := h.trim_eq
    have htidy : IsTidy (trim line) := by
      rw [htrim]
      exact ⟨h.holdsPromotion, h.isSingleSpaced⟩
    exact ⟨by rw [htrim, h.isBoilerplate], by rw [mended_of_isTidy htidy, htrim], h.ne_nil⟩

/-- No line is made up for by another: where as many come out as went in, each is what became of itself. -/
theorem cleanLines_eq_lines_iff {cs : List Char} :
    cleanLines cs = lines cs ↔ ∀ line ∈ lines cs, IsPlain line ∧ opensAuthorNote line = false := by
  constructor
  · intro h
    obtain ⟨sources, hsub, hsources⟩ := exists_sources_cleanLines cs
    rw [h] at hsources
    have hkept : withoutAuthorNotes (lines cs) = lines cs :=
      (withoutAuthorNotes_sublist _).eq_of_length_le (hsources.length_eq ▸ hsub.length_le)
    rw [hkept] at hsub
    obtain rfl := hsub.eq_of_length hsources.length_eq
    intro line hline
    refine ⟨cleanLine?_eq_some_self_iff.1 (List.forall₂_same.1 hsources line hline), ?_⟩
    exact (mem_withoutAuthorNotes (hkept.symm ▸ hline)).2
  · intro h
    have hself : ∀ line ∈ lines cs, cleanLine? line = some line := fun line hline =>
      cleanLine?_eq_some_self_iff.2 (h line hline).1
    rw [cleanLines, withoutAuthorNotes_eq_self fun line hline => (h line hline).2, List.filterMap_congr hself]
    exact List.filterMap_some

/-! ### Articles -/

theorem clean_eq_self_iff_cleanLines {text : String} (h : text ≠ "") :
    clean text = text ↔ cleanLines text.toList = lines text.toList := by
  constructor
  · intro hself
    have hlines := linesOf_clean text
    rw [hself, linesOf, if_neg (by simpa using h)] at hlines
    exact hlines.symm
  · intro hlines
    rw [← String.toList_inj, toList_clean, hlines, intercalate_lines]

/-- **Cleaning leaves alone exactly what is clean.** An article is left as it is exactly if it is empty or is lines
joined by line feeds, each laid out, no boilerplate and without promotional phrases, and the header of an author note
stands nowhere in it. -/
theorem clean_eq_self_iff (text : String) :
    clean text = text ↔ text = "" ∨
      (∃ pieces, text.toList = ['\n'].intercalate pieces ∧ ∀ line ∈ pieces, '\n' ∉ line ∧ IsPlain line) ∧
        ¬ HoldsAuthorNote text.toList := by
  by_cases hempty : text = ""
  · subst hempty
    exact iff_of_true (by decide +kernel) (Or.inl rfl)
  · have hnote : ¬ HoldsAuthorNote text.toList ↔ ∀ line ∈ lines text.toList, opensAuthorNote line = false := by
      rw [holdsAuthorNote_iff]
      simp
    rw [clean_eq_self_iff_cleanLines hempty, cleanLines_eq_lines_iff, or_iff_right hempty, hnote]
    constructor
    · intro h
      refine ⟨⟨lines text.toList, (intercalate_lines _).symm, fun line hline => ?_⟩, fun line hline => (h line hline).2⟩
      exact ⟨notMem_of_mem_lines hline, (h line hline).1⟩
    · rintro ⟨⟨pieces, htext, hpieces⟩, hopens⟩ line hline
      have hne : pieces ≠ [] := by
        rintro rfl
        exact hempty (by simpa using htext)
      have hlines : lines text.toList = pieces := by
        rw [htext]
        exact lines_intercalate hne fun piece hpiece => (hpieces piece hpiece).1
      exact ⟨(hpieces line (hlines ▸ hline)).2, hopens line hline⟩

end MarketBrief.Article
