import MarketBrief.Proofs.Article.Clean
import MarketBrief.Proofs.Lists

/-!
# What cleaning keeps, and how it is laid out

* `exists_sources_cleanLines`: each line of a cleaned article is what remains of one line, and their order is kept;
* `IsLaidOut`: a line with something on it, no blank at its ends and single spaces inside;
* `clean_layout`: a cleaned article holds no character of its own but blanks, mixes no two lines, and all its lines are
  laid out.
-/

namespace MarketBrief.Article

open MarketBrief.Lists Text Unicode

/-! ### Where the lines come from -/

theorem withoutAuthorNotes_sublist (lines : List (List Char)) : (withoutAuthorNotes lines).Sublist lines := by
  fun_induction withoutAuthorNotes lines with
  | case1 => exact .refl _
  | case2 header lines _ ih => exact (ih.trans (List.dropWhile_sublist _)).cons header
  | case3 line lines _ ih => exact ih.cons_cons line

theorem exists_sources_cleanLines (cs : List Char) :
    ∃ sources, sources.Sublist (withoutAuthorNotes (lines cs)) ∧
      List.Forall₂ (fun source line => cleanLine? source = some line) sources (cleanLines cs) :=
  exists_sources_filterMap cleanLine? (withoutAuthorNotes (lines cs))

theorem filter_mended_sublist (source : List Char) :
    ((mended source).filter (!isBlank ·)).Sublist (source.filter (!isBlank ·)) := by
  rw [mended, filter_trim, filter_collapseSpaces]
  exact (filter_trim source) ▸ filter_blankPromotions_sublist (trim source)

/-! ### Layout -/

/-- A line that is not empty, has no blank at its ends, no tab and no two spaces side by side. -/
structure IsLaidOut (line : List Char) : Prop where
  ne_nil : line ≠ []
  head : ∀ c ∈ line.head?, isBlank c = false
  last : ∀ c ∈ line.getLast?, isBlank c = false
  isSingleSpaced : IsSingleSpaced line

theorem isLaidOut_mended {source : List Char} (h : mended source ≠ []) : IsLaidOut (mended source) where
  ne_nil := h
  head := not_blank_head_trim _
  last := not_blank_last_trim _
  isSingleSpaced := (isSingleSpaced_collapseSpaces _).of_isInfix (isInfix_trim _)

theorem isLaidOut_of_mem_cleanLines {text : String} {line : List Char} (h : line ∈ cleanLines text.toList) :
    IsLaidOut line := by
  obtain ⟨hne, source, -, rfl⟩ := mem_cleanLines_iff.1 h
  exact isLaidOut_mended hne

/-- The lines of a text. The empty text has none. -/
def linesOf (cs : List Char) : List (List Char) := if cs = [] then [] else lines cs

theorem linesOf_clean (text : String) : linesOf (clean text).toList = cleanLines text.toList := by
  by_cases hempty : clean text = ""
  · rw [hempty, (clean_eq_empty_iff text).1 hempty]
    rfl
  · have hne : cleanLines text.toList ≠ [] := mt (clean_eq_empty_iff text).2 hempty
    rw [linesOf, if_neg (by simpa using hempty), toList_clean,
      lines_intercalate hne fun line => lineFeed_notMem_of_mem_cleanLines]

/-! ### Articles -/

/-- Line feeds are blanks, so what is not blank lies in the lines that they join. -/
theorem filter_intercalate_lineFeed (pieces : List (List Char)) :
    (['\n'].intercalate pieces).filter (!isBlank ·) = (pieces.map (List.filter (!isBlank ·))).flatten :=
  filter_intercalate (List.forall_mem_singleton.2 (by decide)) pieces

theorem filter_lines (cs : List Char) :
    cs.filter (!isBlank ·) = ((lines cs).map (List.filter (!isBlank ·))).flatten := by
  conv_lhs => rw [← intercalate_lines cs]
  exact filter_intercalate_lineFeed (lines cs)

/-- **Cleaning takes away and lays out.** The characters of a cleaned article that are no blanks are such characters of
the article in their old order. Those of each line come from one line, further down for each further line. No line is
empty or has a blank at its ends, a tab or two spaces side by side. -/
theorem clean_layout (text : String) :
    ((clean text).toList.filter (!isBlank ·)).Sublist (text.toList.filter (!isBlank ·)) ∧
      (∃ sources, sources.Sublist (lines text.toList) ∧
        List.Forall₂ (fun source line => (line.filter (!isBlank ·)).Sublist (source.filter (!isBlank ·))) sources
          (linesOf (clean text).toList)) ∧
      ∀ line ∈ linesOf (clean text).toList, IsLaidOut line := by
  obtain ⟨sources, hsub, hsources⟩ := exists_sources_cleanLines text.toList
  have hlines : sources.Sublist (lines text.toList) := hsub.trans (withoutAuthorNotes_sublist _)
  have hkeeps : List.Forall₂ (fun source line => (line.filter (!isBlank ·)).Sublist (source.filter (!isBlank ·)))
      sources (cleanLines text.toList) := by
    refine hsources.imp fun source line hline => ?_
    obtain ⟨-, rfl, -⟩ := cleanLine?_eq_some_iff.1 hline
    exact filter_mended_sublist source
  rw [linesOf_clean]
  refine ⟨?_, ⟨sources, hlines, hkeeps⟩, fun line => isLaidOut_of_mem_cleanLines⟩
  rw [toList_clean, filter_intercalate_lineFeed, filter_lines]
  have hflatten : ((cleanLines text.toList).map (List.filter (!isBlank ·))).flatten.Sublist
      (sources.map (List.filter (!isBlank ·))).flatten :=
    flatten_sublist_of_forall₂ (List.forall₂_map_left_iff.2 (List.forall₂_map_right_iff.2 hkeeps.flip))
  exact hflatten.trans (hlines.map _).flatten

end MarketBrief.Article
