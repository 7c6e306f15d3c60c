import MarketBrief.Proofs.Category.NormalForm
import MarketBrief.Proofs.Category.Occurrences
import MarketBrief.Proofs.Text.Lowered
import MarketBrief.Proofs.Thesis.Ranking

/-!
# Blanks around a summary

A keyword of a table neither begins nor ends with a blank, so no place of it reaches into the blanks around a text. And
next to a blank a word begins and ends as it does at the ends of a text.

* `countOccurrences_between`: a trimmed keyword counts in a text as often as in the text between blanks;
* `thesis_between`: blanks around a summary leave its thesis as it is;
* `labels_of_isBlankText`: a blank summary has no labels.
-/

namespace MarketBrief

open Category Text Unicode

/-! ### Keywords next to blanks -/

namespace Category

section Blank

variable {b : Char} (hb : isBlank b = true) {blanks keyword : List Char} (hblanks : ∀ c ∈ blanks, isBlank c = true)

include hb hblanks

theorem not_spansAt_behind_blanks (hkeyword : ∀ c ∈ keyword.head?, isBlank c = false) (back : List Char) :
    ¬ SpansAt b keyword blanks back := by
  rintro ⟨lead, rest, rfl, hlead, -⟩
  cases lead with
  | nil => exact Bool.noConfusion (hb.symm.trans (hkeyword b rfl))
  | cons c lead =>
    have hc := hblanks c (hlead.subset List.mem_cons_self)
    exact Bool.noConfusion (hc.symm.trans (hkeyword c rfl))

theorem not_spansAt_before_blanks (hkeyword : ∀ c ∈ keyword.getLast?, isBlank c = false) (front : List Char) :
    ¬ SpansAt b keyword front blanks := by
  rintro ⟨lead, rest, rfl, -, hrest⟩
  have hend : ∀ c ∈ b :: rest, isBlank c = true :=
    List.forall_mem_cons.2 ⟨hb, fun c hc => hblanks c (hrest.subset hc)⟩
  exact List.cons_ne_nil _ _ (eq_nil_of_not_blank_last hend lead hkeyword)

end Blank

theorem countOccurrences_empty (keyword : String) : countOccurrences "" keyword = 0 := by
  simp [countOccurrences, occurrencesAfter]

section Between

variable {keyword : String} (hkeyword : trimmed keyword = keyword)

include hkeyword

theorem countOccurrences_blanks_append {lead : List Char} (hlead : ∀ c ∈ lead, isBlank c = true) (cs : List Char) :
    countOccurrences (String.ofList (lead ++ cs)) keyword = countOccurrences (String.ofList cs) keyword := by
  have hhead : ∀ c ∈ keyword.toList.head?, isBlank c = false := by
    rw [← hkeyword, toList_trimmed]
    exact not_blank_head_trim _
  induction lead with
  | nil => rfl
  | cons b lead ih =>
    obtain ⟨hb, hlead⟩ := List.forall_mem_cons.1 hlead
    have hnone : ∀ c ∈ ([] : List Char), isBlank c = true := fun c hc => absurd hc List.not_mem_nil
    have happend := countOccurrences_append (isAlphanumeric_of_isBlank hb)
      (not_spansAt_behind_blanks hb hnone hhead (lead ++ cs))
    rw [ih hlead, String.ofList_nil, countOccurrences_empty, Nat.zero_add] at happend
    exact happend

theorem countOccurrences_append_blanks {trail : List Char} (htrail : ∀ c ∈ trail, isBlank c = true) (cs : List Char) :
    countOccurrences (String.ofList (cs ++ trail)) keyword = countOccurrences (String.ofList cs) keyword := by
  have hlast : ∀ c ∈ keyword.toList.getLast?, isBlank c = false := by
    rw [← hkeyword, toList_trimmed]
    exact not_blank_last_trim _
  cases trail with
  | nil => rw [List.append_nil]
  | cons b trail =>
    obtain ⟨hb, htrail⟩ := List.forall_mem_cons.1 htrail
    have hnone := countOccurrences_blanks_append hkeyword htrail []
    rw [List.append_nil, String.ofList_nil, countOccurrences_empty] at hnone
    rw [countOccurrences_append (isAlphanumeric_of_isBlank hb) (not_spansAt_before_blanks hb htrail hlast cs), hnone,
      Nat.add_zero]

theorem countOccurrences_between {lead trail : String} (hlead : isBlankText lead = true)
    (htrail : isBlankText trail = true) (text : String) :
    countOccurrences (lead ++ text ++ trail) keyword = countOccurrences text keyword := by
  have hparts : lead ++ text ++ trail = String.ofList (lead.toList ++ text.toList ++ trail.toList) := by
    rw [String.ofList_append, String.ofList_append, String.ofList_toList, String.ofList_toList, String.ofList_toList]
  rw [hparts, countOccurrences_append_blanks hkeyword (isBlankText_iff.1 htrail),
    countOccurrences_blanks_append hkeyword (isBlankText_iff.1 hlead), String.ofList_toList]

end Between

end Category

/-! ### Theses -/

section Scorer

variable {s : Scorer} (hs : s.table.Built)

include hs

theorem rank_between {lead trail : String} (hlead : isBlankText lead = true) (htrail : isBlankText trail = true)
    (summary : String) (group : Group) : s.rank (lead ++ summary ++ trail) group = s.rank summary group := by
  rw [Scorer.rank, lowered_between hlead htrail, Scorer.rank]
  refine rankEntries_congr fun e he => s.strategy.hits_congr fun keyword hkeyword => ?_
  have htrimmed := (((hs.isNormalGroup group).entry e he).keyword keyword hkeyword).2.1
  exact countOccurrences_between htrimmed hlead htrail (lowered summary)

theorem thesis_between {lead trail : String} (hlead : isBlankText lead = true) (htrail : isBlankText trail = true)
    (summary : String) (documents : List Document) :
    s.thesis (lead ++ summary ++ trail) documents = s.thesis summary documents :=
  thesis_eq_of_rank_eq rfl (rank_between hs hlead htrail summary) documents

theorem labels_of_isBlankText {summary : String} (h : isBlankText summary = true) (documents : List Document)
    (group : Group) : (s.thesis summary documents).labels group = [] := by
  have hempty : s.thesis summary documents = s.thesis "" documents := by
    have hnone : isBlankText "" = true := rfl
    have hbetween := thesis_between hs h hnone "" documents
    rwa [String.append_empty, String.append_empty] at hbetween
  rw [hempty]
  refine List.eq_nil_iff_forall_not_mem.2 fun label hlabel => ?_
  obtain ⟨entry, -, -, keyword, -, hpos⟩ := exists_entry_of_mem_labels hlabel
  exact absurd hpos (by rw [show lowered "" = "" from rfl, countOccurrences_empty]; exact Nat.lt_irrefl 0)

end Scorer

end MarketBrief
