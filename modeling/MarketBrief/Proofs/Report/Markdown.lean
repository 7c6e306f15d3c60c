import MarketBrief.Proofs.Text.Lines
import MarketBrief.Proofs.Text.Lowered
import MarketBrief.Report.Markdown

/-!
# What a Markdown report tells

A report is read from its first line down to the summary, and from its last line up to it. The summary between them may
hold anything, headings and bullets included.

* `listed`, `eq_nil_iff_of_listed_append`, `listed_append_inj`: the lines below a heading tell whether the list is
  empty, and which it is;
* `Report.SingleLined`: a report in which nothing but the summary has several lines;
* `SameSummary`: the summaries that are shown alike;
* `markdown_eq_iff`, `markdown_tells_reports_apart`: two reports with one Markdown document;
* `Lookalikes.markdown_tells_lookalikes_apart`: a report whose texts look like headings, notes and bullets.
-/

namespace MarketBrief.Report

open Text

/-! ### Sections -/

def itemLine (item : String) : List Char := '-' :: ' ' :: (item.toList ++ ['\n'])

def listed (items : List String) : List Char :=
  if items = [] then "None identified\n".toList else items.flatMap itemLine

theorem toList_itemSection (heading : String) (items : List String) :
    (itemSection heading items).toList = '\n' :: ("## ".toList ++ heading.toList ++ "\n\n".toList ++ listed items) := by
  have hitem : String.toList ∘ (fun item => "- " ++ item ++ "\n") = itemLine := by
    funext item
    simp [itemLine]
  unfold itemSection listed
  split
  · simp
  · simp [String.toList_join, List.flatMap_def, hitem]

/-- The first character below a heading tells whether the list is empty. -/
theorem eq_nil_iff_of_listed_append {items others : List String} {x y : List Char}
    (h : listed items ++ x = listed others ++ y) : items = [] ↔ others = [] := by
  cases items with
  | nil =>
    cases others with
    | nil => rfl
    | cons item others => exact absurd (List.cons.inj h).1 (by decide)
  | cons item items =>
    cases others with
    | nil => exact absurd (List.cons.inj h).1 (by decide)
    | cons other others => exact iff_of_false (List.cons_ne_nil item items) (List.cons_ne_nil other others)

theorem itemLines_append_inj {items others : List String} (hitems : ∀ item ∈ items, '\n' ∉ item.toList)
    (hothers : ∀ item ∈ others, '\n' ∉ item.toList) {x y : List Char} :
    items.flatMap itemLine ++ '\n' :: x = others.flatMap itemLine ++ '\n' :: y ↔ items = others ∧ x = y := by
  constructor
  · intro h
    induction items generalizing others with
    | nil =>
      cases others with
      | nil => exact ⟨rfl, (List.cons.inj h).2⟩
      | cons other others => exact absurd (List.cons.inj h).1 (by decide)
    | cons item items ih =>
      cases others with
      | nil => exact absurd (List.cons.inj h).1 (by decide)
      | cons other others =>
        obtain ⟨hitem, hitems⟩ := List.forall_mem_cons.1 hitems
        obtain ⟨hother, hothers⟩ := List.forall_mem_cons.1 hothers
        simp only [List.flatMap_cons, itemLine, List.cons_append, List.append_assoc, List.nil_append, List.cons.injEq,
          true_and] at h
        obtain ⟨hsame, hrest⟩ := (firstLine_inj hitem hother).1 h
        obtain ⟨rfl, hxy⟩ := ih hitems hothers hrest
        exact ⟨by rw [String.toList_inj.1 hsame], hxy⟩
  · rintro ⟨rfl, rfl⟩
    rfl

/-- Below a heading the list can be read off, since the next section begins with an empty line. -/
theorem listed_append_inj {items others : List String} (hitems : ∀ item ∈ items, '\n' ∉ item.toList)
    (hothers : ∀ item ∈ others, '\n' ∉ item.toList) {x y : List Char} :
    listed items ++ '\n' :: x = listed others ++ '\n' :: y ↔ items = others ∧ x = y := by
  constructor
  · intro h
    have hempty := eq_nil_iff_of_listed_append h
    by_cases hnil : items = []
    · obtain rfl := hnil
      obtain rfl := hempty.1 rfl
      exact ⟨rfl, (List.cons.inj (List.append_cancel_left h)).2⟩
    · unfold listed at h
      rw [if_neg hnil, if_neg (mt hempty.2 hnil)] at h
      exact (itemLines_append_inj hitems hothers).1 h
  · rintro ⟨rfl, rfl⟩
    rfl

theorem itemSection_append_inj (heading : String) {items others : List String}
    (hitems : ∀ item ∈ items, '\n' ∉ item.toList) (hothers : ∀ item ∈ others, '\n' ∉ item.toList) {x y : List Char}
    (hx : x.head? = some '\n') (hy : y.head? = some '\n') :
    (itemSection heading items).toList ++ x = (itemSection heading others).toList ++ y ↔ items = others ∧ x = y := by
  obtain ⟨x, rfl⟩ := List.head?_eq_some_iff.1 hx
  obtain ⟨y, rfl⟩ := List.head?_eq_some_iff.1 hy
  rw [toList_itemSection, toList_itemSection, List.cons_append, List.cons_append, List.cons.injEq, and_iff_right rfl,
    List.append_assoc, List.append_assoc _ (listed others), List.append_cancel_left_eq, listed_append_inj hitems hothers,
    List.cons.injEq, and_iff_right rfl]

theorem head?_itemSection_append (heading : String) (items : List String) (x : List Char) :
    ((itemSection heading items).toList ++ x).head? = some '\n' := by
  rw [toList_itemSection]
  rfl

/-! ### The summary and the last line -/

/-- The line that names the summarizer. -/
def signature (summarizer : String) : List Char := "_Summarized by `".toList ++ summarizer.toList ++ "`._".toList

def ending (summary summarizer : String) : List Char :=
  "\n## Analyst Summary\n\n".toList ++ ((summaryText summary).toList ++ ['\n'] ++ '\n' :: signature summarizer ++ ['\n'])

theorem head?_ending (summary summarizer : String) : (ending summary summarizer).head? = some '\n' := rfl

theorem lineFeed_notMem_signature {summarizer : String} (h : '\n' ∉ summarizer.toList) :
    '\n' ∉ signature summarizer := by
  unfold signature
  simp [h]

theorem signature_inj {summarizer other : String} : signature summarizer = signature other ↔ summarizer = other := by
  unfold signature
  rw [List.append_cancel_right_eq, List.append_cancel_left_eq, String.toList_inj]

theorem ending_inj {summary summary' summarizer other : String} (h : '\n' ∉ summarizer.toList)
    (h' : '\n' ∉ other.toList) :
    ending summary summarizer = ending summary' other ↔
      summaryText summary = summaryText summary' ∧ summarizer = other := by
  have hlast := lineFeed_notMem_signature h
  have hlast' := lineFeed_notMem_signature h'
  unfold ending
  rw [List.append_cancel_left_eq, List.append_cancel_right_eq, lastLine_inj hlast hlast', List.append_cancel_right_eq,
    String.toList_inj, signature_inj]

/-- Two summaries without blanks at their ends are the same, or one of them is blank and the other is the note that
stands for a blank one. -/
def SameSummary (summary other : String) : Prop :=
  trimmed summary = trimmed other ∨
    (isBlankText summary = true ∧ trimmed other = "No summary available.") ∨
    (trimmed summary = "No summary available." ∧ isBlankText other = true)

theorem summaryText_eq_iff {summary other : String} :
    summaryText summary = summaryText other ↔ SameSummary summary other := by
  have hnote : "No summary available." ≠ "" := by decide
  unfold summaryText SameSummary
  rw [← trimmed_eq_empty_iff, ← trimmed_eq_empty_iff]
  generalize trimmed summary = s
  generalize trimmed other = t
  by_cases hs : s = ""
  · by_cases ht : t = ""
    · simp [hs, ht]
    · simp [hs, ht, Ne.symm ht, eq_comm (b := t)]
  · by_cases ht : t = ""
    · simp [hs, ht]
    · simp [hs, ht]

/-! ### Whole reports -/

/-- Nothing but the summary has more than one line. -/
structure SingleLined (r : Report) : Prop where
  topic : '\n' ∉ r.topic.toList
  summarizer : '\n' ∉ r.summarizer.toList
  keyThemes : ∀ label ∈ r.thesis.keyThemes, '\n' ∉ label.toList
  risks : ∀ label ∈ r.thesis.risks, '\n' ∉ label.toList
  investmentSignals : ∀ label ∈ r.thesis.investmentSignals, '\n' ∉ label.toList
  sources : ∀ source ∈ r.thesis.sources, '\n' ∉ source.toList

theorem toList_markdown (r : Report) :
    r.markdown.toList = "# Investment Thesis: ".toList ++ (r.topic.toList ++ '\n' ::
      ((itemSection "Key Themes" r.thesis.keyThemes).toList ++ ((itemSection "Risks" r.thesis.risks).toList ++
        ((itemSection "Investment Signals" r.thesis.investmentSignals).toList ++
          ((itemSection "Sources" r.thesis.sources).toList ++ ending r.summary r.summarizer))))) := by
  unfold markdown ending signature
  simp

theorem markdown_eq_iff {r s : Report} (hr : r.SingleLined) (hs : s.SingleLined) :
    r.markdown = s.markdown ↔
      r.topic = s.topic ∧ r.summarizer = s.summarizer ∧ r.thesis = s.thesis ∧ SameSummary r.summary s.summary := by
  have hthesis : r.thesis = s.thesis ↔ r.thesis.keyThemes = s.thesis.keyThemes ∧ r.thesis.risks = s.thesis.risks ∧
      r.thesis.investmentSignals = s.thesis.investmentSignals ∧ r.thesis.sources = s.thesis.sources := by
    rw [← Thesis.mk.injEq]
  rw [← String.toList_inj, toList_markdown, toList_markdown, List.append_cancel_left_eq,
    firstLine_inj hr.topic hs.topic, String.toList_inj,
    itemSection_append_inj _ hr.keyThemes hs.keyThemes (head?_itemSection_append ..) (head?_itemSection_append ..),
    itemSection_append_inj _ hr.risks hs.risks (head?_itemSection_append ..) (head?_itemSection_append ..),
    itemSection_append_inj _ hr.investmentSignals hs.investmentSignals (head?_itemSection_append ..)
      (head?_itemSection_append ..),
    itemSection_append_inj _ hr.sources hs.sources (head?_ending ..) (head?_ending ..),
    ending_inj hr.summarizer hs.summarizer, summaryText_eq_iff, hthesis]
  constructor
  · rintro ⟨htopic, hthemes, hrisks, hsignals, hsources, hsummary, hname⟩
    exact ⟨htopic, hname, ⟨hthemes, hrisks, hsignals, hsources⟩, hsummary⟩
  · rintro ⟨htopic, hname, ⟨hthemes, hrisks, hsignals, hsources⟩, hsummary⟩
    exact ⟨htopic, hthemes, hrisks, hsignals, hsources, hsummary, hname⟩

/-- **Reports are told apart.** Two reports whose summaries alone may have several lines give one Markdown document just
if they have the same topic, summarizer and thesis, and the same summary without blanks at its ends, but for the note
that stands for a blank one. Whatever labels and all that follows may hold, a section of an empty list is no section of
a list with items. -/
theorem markdown_tells_reports_apart :
    (∀ r s : Report, r.SingleLined → s.SingleLined →
      (r.markdown = s.markdown ↔
        r.topic = s.topic ∧ r.summarizer = s.summarizer ∧ r.thesis = s.thesis ∧ SameSummary r.summary s.summary)) ∧
    ∀ (heading : String) (items others : List String) (x y : String),
      itemSection heading items ++ x = itemSection heading others ++ y → (items = [] ↔ others = []) := by
  refine ⟨fun r s hr hs => markdown_eq_iff hr hs, fun heading items others x y h => ?_⟩
  rw [← String.toList_inj, String.toList_append, String.toList_append, toList_itemSection, toList_itemSection,
    List.cons_append, List.cons_append, List.append_assoc, List.append_assoc _ (listed others)] at h
  exact eq_nil_iff_of_listed_append (List.append_cancel_left (List.cons.inj h).2)

/-! Labels and summaries that look like other parts of a report. -/

namespace Lookalikes

def report : Report :=
  { topic := "## Key Themes"
    summarizer := "external`._"
    summary := " \n"
    thesis := ⟨["None identified", "## Risks"], [], ["- crypto"], []⟩ }

/-- The same report with the note for a blank summary as its summary. -/
def noted : Report := { report with summary := " No summary available.\n" }

/-- A label of two lines looks like two labels, though not like none. -/
theorem markdown_tells_lookalikes_apart :
    report.SingleLined ∧ noted.SingleLined ∧ report.markdown = noted.markdown ∧
    itemSection "Risks" ["crypto\n- fraud"] ++ "" = itemSection "Risks" ["crypto", "fraud"] ++ "" ∧
    (["crypto\n- fraud"] = [] ↔ ["crypto", "fraud"] = []) := by
  have hreport : report.SingleLined := ⟨by decide, by decide, by decide, by decide, by decide, by decide⟩
  have hnoted : noted.SingleLined := ⟨by decide, by decide, by decide, by decide, by decide, by decide⟩
  have hsummary : SameSummary report.summary noted.summary := Or.inr (Or.inl ⟨by decide, by decide⟩)
  have hsections : itemSection "Risks" ["crypto\n- fraud"] ++ "" = itemSection "Risks" ["crypto", "fraud"] ++ "" := by
    decide
  exact ⟨hreport, hnoted, (markdown_tells_reports_apart.1 _ _ hreport hnoted).2 ⟨rfl, rfl, rfl, hsummary⟩, hsections,
    markdown_tells_reports_apart.2 _ _ _ _ _ hsections⟩

end Lookalikes

end MarketBrief.Report
