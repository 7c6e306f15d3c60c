import MarketBrief.Proofs.Article.Clean
import MarketBrief.Proofs.Lists

/-!
# Cleaning one paragraph at a time

An empty line ends every author note, and nothing else that cleaning does looks beyond its line. So an article is
cleaned paragraph by paragraph.

* `withoutAuthorNotes_append`, `withoutAuthorNotes_paragraphs`: no note reaches beyond an empty line;
* `cleanLines_paragraphs`: the cleaned lines of two texts with an empty line between them;
* `clean_paragraphs`: both, and the same of the cleaned texts.
-/

namespace MarketBrief.Article

open MarketBrief.Lists Text

/-! ### Notes and lines -/

/-- No note reaches beyond a line that neither belongs to the note above it nor opens one. -/
theorem withoutAuthorNotes_append {line : List Char} (hopens : opensAuthorNote line = false)
    (hcontinues : continuesAuthorNote line = false) (x y : List (List Char)) :
    withoutAuthorNotes (x ++ line :: y) = withoutAuthorNotes x ++ line :: withoutAuthorNotes y := by
  fun_induction withoutAuthorNotes x with
  | case1 => rw [List.nil_append, withoutAuthorNotes, if_neg (by simp [hopens]), List.nil_append]
  | case2 header x hheader ih =>
    rw [List.cons_append, withoutAuthorNotes, if_pos hheader, dropWhile_append_cons hcontinues, ih]
  | case3 first x hfirst ih => rw [List.cons_append, withoutAuthorNotes, if_neg hfirst, ih, List.cons_append]

theorem withoutAuthorNotes_paragraphs (a b : List Char) :
    withoutAuthorNotes (lines (a ++ '\n' :: '\n' :: b)) =
      withoutAuthorNotes (lines a) ++ [] :: withoutAuthorNotes (lines b) := by
  have hempty : lines ('\n' :: b) = [] :: lines b := lines_append [] b
  have hopens : opensAuthorNote [] = false := by decide +kernel
  rw [lines_append, hempty, withoutAuthorNotes_append hopens rfl]

theorem cleanLines_paragraphs (a b : List Char) :
    cleanLines (a ++ '\n' :: '\n' :: b) = cleanLines a ++ cleanLines b := by
  have hempty : cleanLine? [] = none := by decide +kernel
  rw [cleanLines, withoutAuthorNotes_paragraphs, List.filterMap_append, List.filterMap_cons_none hempty, cleanLines,
    cleanLines]

/-! ### Texts -/

/-- **Paragraphs are cleaned one by one.** Of two texts with an empty line between them cleaning leaves what it leaves
of each, on lines of their own. A note in the first takes no line of the second away, and no line of the second is
judged or mended otherwise than by itself. -/
theorem clean_paragraphs (a b : String) :
    clean (a ++ "\n\n" ++ b) =
        (if clean a = "" then clean b else if clean b = "" then clean a else clean a ++ "\n" ++ clean b) ∧
      withoutAuthorNotes (lines (a ++ "\n\n" ++ b).toList) =
        withoutAuthorNotes (lines a.toList) ++ [] :: withoutAuthorNotes (lines b.toList) ∧
      cleanLines (a ++ "\n\n" ++ b).toList = cleanLines a.toList ++ cleanLines b.toList := by
  have htext : (a ++ "\n\n" ++ b).toList = a.toList ++ '\n' :: '\n' :: b.toList := by
    rw [String.toList_append, String.toList_append, List.append_assoc]
    rfl
  have hlines : cleanLines (a ++ "\n\n" ++ b).toList = cleanLines a.toList ++ cleanLines b.toList := by
    rw [htext, cleanLines_paragraphs]
  refine ⟨?_, by rw [htext, withoutAuthorNotes_paragraphs], hlines⟩
  simp only [clean_eq_empty_iff]
  split
  · next ha => rw [clean, clean, hlines, ha, List.nil_append]
  · next ha =>
    split
    · next hb => rw [clean, clean, hlines, hb, List.append_nil]
    · next hb =>
      have hfeed : "\n".toList = ['\n'] := rfl
      rw [← String.toList_inj, String.toList_append, String.toList_append, toList_clean, toList_clean, toList_clean,
        hlines, intercalate_append _ ha hb, hfeed]

end MarketBrief.Article
