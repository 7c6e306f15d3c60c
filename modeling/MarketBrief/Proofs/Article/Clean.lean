import MarketBrief.Proofs.Article.Promotion
import MarketBrief.Proofs.Article.Spaces
import MarketBrief.Proofs.Text.Joined
import MarketBrief.Proofs.Text.Lines
import MarketBrief.Proofs.Text.Trim

/-!
# The lines of a cleaned article

* `keptLines`, `mended`: the lines that are not dropped as a whole, and what cleaning makes of each;
* `mem_lines_clean_iff`: the lines of the cleaned article, apart from empty ones, are the kept lines mended;
* `IsTidy`, `mended_of_isTidy`: a line is only trimmed if there is nothing else to mend in it.
-/

namespace MarketBrief.Article

open Text Unicode

/-- The lines of an article that belong to no author note and are no boilerplate. -/
def keptLines (text : String) : List (List Char) :=
  (withoutAuthorNotes (lines text.toList)).filter fun line => !isBoilerplate (trim line)

/-- What cleaning makes of a kept line. -/
def mended (line : List Char) : List Char := trim (collapseSpaces (blankPromotions (trim line)))

/-! ### Kept lines -/

theorem mem_withoutAuthorNotes {lines : List (List Char)} {line : List Char} (h : line ∈ withoutAuthorNotes lines) :
    line ∈ lines ∧ opensAuthorNote line = false := by
  fun_induction withoutAuthorNotes lines with
  | case1 => exact absurd h List.not_mem_nil
  | case2 header lines hopens ih =>
    obtain ⟨hmem, hnot⟩ := ih h
    exact ⟨List.mem_cons_of_mem _ ((List.dropWhile_suffix _).subset hmem), hnot⟩
  | case3 first lines hopens ih =>
    rcases List.mem_cons.1 h with rfl | h
    · exact ⟨List.mem_cons_self, by simpa using hopens⟩
    · exact ⟨List.mem_cons_of_mem _ (ih h).1, (ih h).2⟩

theorem mem_keptLines {text : String} {line : List Char} (h : line ∈ keptLines text) :
    line ∈ lines text.toList ∧ opensAuthorNote line = false ∧ isBoilerplate (trim line) = false := by
  obtain ⟨hmem, hkept⟩ := List.mem_filter.1 h
  exact ⟨(mem_withoutAuthorNotes hmem).1, (mem_withoutAuthorNotes hmem).2, by simpa using hkept⟩

theorem cleanLine?_eq_some_iff {raw line : List Char} :
    cleanLine? raw = some line ↔ isBoilerplate (trim raw) = false ∧ mended raw = line ∧ line ≠ [] := by
  unfold cleanLine?
  split
  · next hboiler => simp [hboiler]
  · next hboiler =>
    rw [Option.guard_eq_some_iff, decide_eq_true_eq]
    constructor
    · rintro ⟨rfl, hne⟩
      exact ⟨by simpa using hboiler, rfl, hne⟩
    · rintro ⟨-, rfl, hne⟩
      exact ⟨rfl, hne⟩

theorem mem_cleanLines_iff {text : String} {line : List Char} :
    line ∈ cleanLines text.toList ↔ line ≠ [] ∧ ∃ raw ∈ keptLines text, mended raw = line := by
  rw [cleanLines, List.mem_filterMap]
  constructor
  · rintro ⟨raw, hraw, h⟩
    obtain ⟨hboiler, hmended, hne⟩ := cleanLine?_eq_some_iff.1 h
    exact ⟨hne, raw, List.mem_filter.2 ⟨hraw, by simpa using hboiler⟩, hmended⟩
  · rintro ⟨hne, raw, hraw, hmended⟩
    obtain ⟨hmem, hboiler⟩ := List.mem_filter.1 hraw
    exact ⟨raw, hmem, cleanLine?_eq_some_iff.2 ⟨by simpa using hboiler, hmended, hne⟩⟩

/-! ### Mended lines -/

/-- Mending puts nothing into a line but spaces. -/
theorem mem_of_mem_mended {line : List Char} {c : Char} (h : c ∈ mended line) : c = ' ' ∨ c ∈ line := by
  rcases mem_of_mem_collapseSpacesAfter ((isInfix_trim _).subset h) with rfl | h
  · exact Or.inl rfl
  · exact (mem_of_mem_blankPromotions h).imp_right fun hmem => (isInfix_trim line).subset hmem

theorem lineFeed_notMem_of_mem_cleanLines {text : String} {line : List Char} (h : line ∈ cleanLines text.toList) :
    '\n' ∉ line := by
  obtain ⟨-, raw, hraw, rfl⟩ := mem_cleanLines_iff.1 h
  intro hmem
  rcases mem_of_mem_mended hmem with heq | hmem
  · exact absurd heq (by decide)
  · exact notMem_of_mem_lines (mem_keptLines hraw).1 hmem

theorem toList_clean (text : String) : (clean text).toList = ['\n'].intercalate (cleanLines text.toList) :=
  String.toList_ofList

theorem clean_eq_empty_iff (text : String) : clean text = "" ↔ cleanLines text.toList = [] := by
  constructor
  · intro hempty
    refine List.eq_nil_iff_forall_not_mem.2 fun line hline => ?_
    obtain ⟨c, hc⟩ := List.exists_mem_of_ne_nil line (mem_cleanLines_iff.1 hline).1
    have hin : c ∈ (clean text).toList := toList_clean text ▸ mem_intercalate hc hline
    rw [hempty] at hin
    exact absurd hin List.not_mem_nil
  · intro hnil
    rw [clean, hnil]
    rfl

theorem mem_lines_clean_iff {text : String} {line : List Char} (hne : line ≠ []) :
    line ∈ lines (clean text).toList ↔ ∃ raw ∈ keptLines text, mended raw = line := by
  rw [toList_clean]
  by_cases hnil : cleanLines text.toList = []
  · -- the empty text has one line, which is empty
    have hnone : ¬ ∃ raw ∈ keptLines text, mended raw = line := fun hraw =>
      List.not_mem_nil (hnil ▸ mem_cleanLines_iff.2 ⟨hne, hraw⟩)
    have hlines : lines ([] : List Char) = [[]] := rfl
    rw [hnil, List.intercalate_nil, hlines, List.mem_singleton]
    exact iff_of_false hne hnone
  · rw [lines_intercalate hnil fun piece => lineFeed_notMem_of_mem_cleanLines, mem_cleanLines_iff]
    exact and_iff_right hne

/-! ### Tidy lines -/

/-- A line in which there is nothing to mend: no promotional phrase, no tab and no two spaces side by side. -/
structure IsTidy (line : List Char) : Prop where
  holdsPromotion : holdsPromotion line = false
  isSingleSpaced : IsSingleSpaced line

theorem mended_of_isTidy {line : List Char} (h : IsTidy (trim line)) : mended line = trim line := by
  rw [mended, blankPromotions_of_holdsPromotion_eq_false h.holdsPromotion,
    collapseSpaces_of_isSingleSpaced h.isSingleSpaced, trim_trim]

end MarketBrief.Article
