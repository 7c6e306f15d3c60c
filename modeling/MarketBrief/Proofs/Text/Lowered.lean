import MarketBrief.Proofs.Text.Trim
import MarketBrief.Proofs.Unicode.Lowered
import MarketBrief.Text.Basic

/-!
# Stored texts in lowercase

* `lowered_lowered`, `trimmed_trimmed`: each of the two forms of a stored text stays as it is;
* `trimmed_lowered`: setting a trimmed text in lowercase leaves nothing to trim;
* `lowered_eq_empty_iff`: no text vanishes in lowercase;
* `trimmed_between`, `lowered_between`: a text between blanks; `trimmed_eq_empty_iff`: of a blank text nothing is left;
* `lowered_over`: blanks between two texts.
-/

namespace MarketBrief.Text

open Unicode

theorem trim_lower {cs : List Char} (h : trim cs = cs) : trim (lower cs) = lower cs :=
  trim_of_not_blank (not_blank_head_lower (h ▸ not_blank_head_trim cs))
    (not_blank_last_lower (h ▸ not_blank_last_trim cs))

theorem trimmed_trimmed (s : String) : trimmed (trimmed s) = trimmed s := by
  rw [← String.toList_inj, toList_trimmed, toList_trimmed, trim_trim]

theorem lowered_lowered (s : String) : lowered (lowered s) = lowered s := by
  rw [← String.toList_inj, toList_lowered, toList_lowered, lower_lower]

theorem trimmed_lowered {s : String} (h : trimmed s = s) : trimmed (lowered s) = lowered s := by
  rw [← String.toList_inj, toList_trimmed] at h
  rw [← String.toList_inj, toList_trimmed, toList_lowered, trim_lower h]

theorem lowered_eq_empty_iff {s : String} : lowered s = "" ↔ s = "" := by
  rw [← String.toList_inj, ← String.toList_inj, toList_lowered]
  exact lower_eq_nil_iff

/-! ### Between blanks -/

theorem isBlankText_iff {s : String} : isBlankText s = true ↔ ∀ c ∈ s.toList, isBlank c = true := List.all_eq_true

theorem trimmed_eq_empty_iff {s : String} : trimmed s = "" ↔ isBlankText s = true := by
  rw [← String.toList_inj, toList_trimmed, isBlankText_iff]
  exact trim_eq_nil_iff

section Between

variable {lead trail : String} (hlead : isBlankText lead = true) (htrail : isBlankText trail = true)

include hlead htrail

theorem trimmed_between (s : String) : trimmed (lead ++ s ++ trail) = trimmed s := by
  rw [← String.toList_inj, toList_trimmed, toList_trimmed, String.toList_append, String.toList_append,
    trim_between (isBlankText_iff.1 hlead) (isBlankText_iff.1 htrail)]

theorem lowered_between (s : String) : lowered (lead ++ s ++ trail) = lead ++ lowered s ++ trail := by
  rw [← String.toList_inj, toList_lowered]
  simp only [String.toList_append, toList_lowered]
  exact lower_between (isBlankText_iff.1 hlead) (isBlankText_iff.1 htrail) s.toList

end Between

section Over

variable {gap : String} (hne : gap ≠ "") (hgap : isBlankText gap = true)

include hne hgap

theorem exists_cons_of_isBlankText :
    ∃ c cs, gap.toList = c :: cs ∧ isBlank c = true ∧ ∀ d ∈ cs, isBlank d = true := by
  obtain ⟨c, cs, hgap'⟩ := List.exists_cons_of_ne_nil (l := gap.toList) (by simpa using hne)
  have hall := isBlankText_iff.1 hgap
  rw [hgap'] at hall
  exact ⟨c, cs, hgap', List.forall_mem_cons.1 hall⟩

theorem lowered_over (front back : String) : lowered (front ++ gap ++ back) = lowered front ++ gap ++ lowered back := by
  obtain ⟨c, cs, hgap', hc, hcs⟩ := exists_cons_of_isBlankText hne hgap
  rw [← String.toList_inj]
  simp only [toList_lowered, String.toList_append, hgap', List.append_assoc, List.cons_append]
  rw [lower_append_of_isBlank hc, lower_blanks_append hcs]

end Over

end MarketBrief.Text
