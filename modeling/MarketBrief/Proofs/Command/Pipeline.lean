import MarketBrief.Proofs.Command.Run
import MarketBrief.Proofs.Document.Sources
import MarketBrief.Proofs.Extraction.Selection
import MarketBrief.Proofs.Settings.Environment
import MarketBrief.Proofs.Thesis.Blanks

/-!
# One step or two

A report on documents can be had in one step, or in two: the summary is printed, and a later run reads it from a file or
a pipe. On its way it is given a line feed, and the later run may trim it or not.

* `generate_between`: a thesis does not tell how its summary was handed over;
* `Surroundings.written`: what can be read once a text has been written;
* `Pipeline`: the commands of both ways;
* `pipelines_agree`: they give the same thesis.
-/

namespace MarketBrief

open Category Extraction Text

/-! ### Handing over a summary -/

theorem generate_between (e : Extractor) (s : Scorer) (hs : s.table.Built) (topic : String) (documents : List Document)
    {lead trail : String} (hlead : isBlankText lead = true) (htrail : isBlankText trail = true) :
    ∃ report, Generator.generate ⟨.extractive e, s⟩ topic documents = .ok report ∧
      report.summary = e.summary documents ∧
      s.thesis (lead ++ report.summary ++ trail) documents = report.thesis ∧
      Generator.generate ⟨.external (trimmed (lead ++ report.summary ++ trail)), s⟩ topic documents =
        .ok { report with summarizer := "external" } := by
  refine ⟨_, rfl, rfl, thesis_between hs hlead htrail _ _, ?_⟩
  rw [trimmed_between hlead htrail, trimmed_summary]
  rfl

theorem collectSources_cleaned (documents : List Document) :
    collectSources (documents.map Document.cleaned) = collectSources documents := by
  refine collectSources_congr ?_
  rw [List.map_map]
  rfl

/-- A thesis looks at the documents for nothing but their sources. -/
theorem thesis_cleaned (s : Scorer) (summary : String) (documents : List Document) :
    s.thesis summary (documents.map Document.cleaned) = s.thesis summary documents := by
  rw [Scorer.thesis, collectSources_cleaned, Scorer.thesis]

/-! ### Writing a text -/

namespace Surroundings

/-- What can be read once a text has been written to a file, or piped into the next run for a dash. -/
def written (s : Surroundings) (path text : String) : Surroundings :=
  if path = "-" then { s with input := text.toUTF8 }
  else { s with read? := fun other => if other = path then some text.toUTF8 else s.read? other }

variable (s : Surroundings) {path other : String} (text : String)

theorem text_written : (s.written path text).text path = .ok text := by
  unfold written Surroundings.text
  by_cases hdash : path = "-"
  · simp only [if_pos hdash, fromUTF8?_toUTF8]
  · simp only [if_neg hdash, if_true, Option.bind_eq_bind, Option.bind_some, fromUTF8?_toUTF8]

theorem text_written_of_ne (h : other ≠ path) : (s.written path text).text other = s.text other := by
  unfold written Surroundings.text
  by_cases hdash : path = "-"
  · have hother : other ≠ "-" := hdash ▸ h
    simp only [if_pos hdash, if_neg hother]
  · simp only [if_neg hdash, if_neg h]

theorem text_after_of_ne (h : other ≠ path) : (s.after path).text other = s.text other := by
  unfold after Surroundings.text
  by_cases hdash : path = "-"
  · have hother : other ≠ "-" := hdash ▸ h
    simp only [if_pos hdash, if_neg hother]
  · rw [if_neg hdash]

theorem documents_written_of_ne (h : other ≠ path) (clean : Bool) :
    (s.written path text).documents other clean = s.documents other clean := by
  rw [documents, text_written_of_ne s text h, documents]

theorem documents_after_of_ne (h : other ≠ path) (clean : Bool) :
    (s.after path).documents other clean = s.documents other clean := by
  rw [documents, text_after_of_ne s h, documents]

theorem loaded_written : (s.written path text).loaded = s.loaded := by
  unfold written
  split <;> rfl

theorem scorer_written {settings : Settings} (h : path = "-" ∨ settings.categoriesPath? ≠ some path) :
    settings.scorer (s.written path text) = settings.scorer s := by
  unfold written Settings.scorer Settings.table
  by_cases hdash : path = "-"
  · rw [if_pos hdash]
  · rw [if_neg hdash]
    cases hcategories : settings.categoriesPath? with
    | none => rfl
    | some file =>
      have hfile : file ≠ path := fun heq => h.resolve_left hdash (by rw [hcategories, heq])
      simp only [if_neg hfile]

theorem scorer_after (settings : Settings) : settings.scorer (s.after path) = settings.scorer s := by
  unfold after
  split <;> rfl

end Surroundings

/-! ### The commands of both ways -/

/-- What the commands of both ways have in common, and the file of the summary, which is not that of the documents. A
dash stands for the standard input. -/
structure Pipeline where
  overrides : Overrides
  documents : String
  clean : Bool
  topic : String
  format : ReportFormat
  summary : String
  summary_ne : summary ≠ documents

namespace Pipeline

variable (p : Pipeline)

def summarize : Invocation := ⟨p.overrides, .summarize p.documents p.clean⟩

def report : Invocation := ⟨p.overrides, .report p.documents p.topic none p.format p.clean⟩

/-- The thesis of the summary, with the sources of the documents. -/
def rank : Invocation := ⟨p.overrides, .rank (.file p.summary) (some p.documents)⟩

def rankAlone : Invocation := ⟨p.overrides, .rank (.file p.summary) none⟩

def reportSummary : Invocation := ⟨p.overrides, .report p.documents p.topic (some p.summary) p.format p.clean⟩

end Pipeline

/-- However the invocation is written as arguments, the run prints the text. -/
def Invocation.Prints (i : Invocation) (around : Surroundings) (text : String) : Prop :=
  ∀ arguments, Invocation.read arguments = .ok i → run around arguments = .printed text

/-- The one-step run around `before` and the later runs of the two steps around `behind` print one report, as far as
they print it. -/
structure Pipeline.Agree (p : Pipeline) (before behind : Surroundings) (r : Report) : Prop where
  report : p.report.Prints before (r.written p.format)
  rank : p.rank.Prints behind r.thesis.toJson.pretty
  rankAlone : p.rankAlone.Prints behind (Thesis.toJson { r.thesis with sources := [] }).pretty
  reportSummary : p.reportSummary.Prints behind (Report.written { r with summarizer := "external" } p.format)

/-! ### What the runs print -/

section Runs

variable {p : Pipeline} {around : Surroundings} {settings : Settings} {s : Scorer} {documents : List Document}
  (hsettings : p.overrides.settings around = .ok settings) (hscorer : settings.scorer around = .ok s)

include hsettings hscorer

theorem prints_report {e : Extractor} (he : settings.extractor = .ok e) {r : Report}
    (hdocuments : around.documents p.documents p.clean = .ok documents)
    (hr : Generator.generate ⟨.extractive e, s⟩ p.topic documents = .ok r) :
    p.report.Prints around (r.written p.format) := fun _ hread =>
  (run_eq_printed_iff_of_read hread hsettings).2
    (report_eq_ok_iff.2 ⟨documents, e, s, r, hdocuments, he, hscorer, hr, rfl⟩)

section Written

variable (hcategories : p.summary = "-" ∨ settings.categoriesPath? ≠ some p.summary) (output : String)

include hcategories

/-- After the summary has been written, settings and scorer are what they were. -/
theorem settings_and_scorer_written :
    p.overrides.settings (around.written p.summary output) = .ok settings ∧
      settings.scorer (around.written p.summary output) = .ok s := by
  refine ⟨?_, (around.scorer_written output hcategories).trans hscorer⟩
  rw [Overrides.settings, Surroundings.loaded_written]
  exact hsettings

theorem prints_rank (hdocuments : around.documents p.documents false = .ok documents) :
    p.rank.Prints (around.written p.summary output) (s.thesis output documents).toJson.pretty := by
  intro arguments hread
  obtain ⟨hsettings', hscorer'⟩ := settings_and_scorer_written hsettings hscorer hcategories output
  refine (run_eq_printed_iff_of_read hread hsettings').2 (rank_file_eq_ok_iff.2 ?_)
  refine ⟨output, documents, s, around.text_written output, ?_, (Surroundings.scorer_after _ _).trans hscorer', rfl⟩
  rwa [Surroundings.documents_after_of_ne _ p.summary_ne.symm,
    Surroundings.documents_written_of_ne _ _ p.summary_ne.symm]

theorem prints_rankAlone :
    p.rankAlone.Prints (around.written p.summary output) (s.thesis output []).toJson.pretty := by
  intro arguments hread
  obtain ⟨hsettings', hscorer'⟩ := settings_and_scorer_written hsettings hscorer hcategories output
  exact (run_eq_printed_iff_of_read hread hsettings').2 (rank_file_alone_eq_ok_iff.2
    ⟨output, s, around.text_written output, (Surroundings.scorer_after _ _).trans hscorer', rfl⟩)

theorem prints_reportSummary {r : Report} (hdocuments : around.documents p.documents p.clean = .ok documents)
    (hr : Generator.generate ⟨.external (trimmed output), s⟩ p.topic documents = .ok r) :
    p.reportSummary.Prints (around.written p.summary output) (r.written p.format) := by
  intro arguments hread
  obtain ⟨hsettings', hscorer'⟩ := settings_and_scorer_written hsettings hscorer hcategories output
  refine (run_eq_printed_iff_of_read hread hsettings').2 (report_file_eq_ok_iff.2 ?_)
  refine ⟨documents, output, s, r, ?_, ?_, hscorer', hr, rfl⟩
  · rwa [Surroundings.documents_written_of_ne _ _ p.summary_ne.symm]
  · rw [Surroundings.text_after_of_ne _ p.summary_ne, around.text_written]

end Written

theorem exists_report_of_run (hcategories : p.summary = "-" ∨ settings.categoriesPath? ≠ some p.summary)
    {arguments : List String} (hread : Invocation.read arguments = .ok p.summarize) {summary : String}
    (hprinted : run around arguments = .printed summary) :
    ∃ r : Report, r.summary = summary ∧
      p.Agree around (around.written p.summary (run around arguments).output) r := by
  obtain ⟨documents, e, hdocuments, he, rfl⟩ :=
    summarize_eq_ok_iff.1 ((run_eq_printed_iff_of_read hread hsettings).1 hprinted)
  obtain ⟨text, found, htext, hfound, hcleaned⟩ := documents_eq_ok_iff.1 hdocuments
  have huncleaned : around.documents p.documents false = .ok found :=
    documents_eq_ok_iff.2 ⟨text, found, htext, hfound, rfl⟩
  have hbuilt : s.table.Built := by
    obtain ⟨t, ht, rfl⟩ := scorer_eq_ok_iff.1 hscorer
    exact built_of_settings ht
  -- the summary is printed as a line
  have hempty : isBlankText "" = true := rfl
  have hfeed : isBlankText "\n" = true := by decide
  obtain ⟨r, hr, hsummary, hthesis, hexternal⟩ := generate_between e s hbuilt p.topic documents hempty hfeed
  have houtput : (run around arguments).output = "" ++ r.summary ++ "\n" := by
    rw [hprinted, hsummary, String.empty_append]
    rfl
  rw [houtput]
  refine ⟨r, hsummary, prints_report hsettings hscorer he hdocuments hr, ?_, ?_,
    prints_reportSummary hsettings hscorer hcategories _ hdocuments hexternal⟩
  · have huses : s.thesis ("" ++ r.summary ++ "\n") found = r.thesis := by
      rw [← hthesis, hcleaned]
      cases p.clean with
      | true => rw [if_pos rfl, thesis_cleaned]
      | false => rfl
    exact huses ▸ prints_rank hsettings hscorer hcategories _ huncleaned
  · rw [← hthesis]
    exact prints_rankAlone hsettings hscorer hcategories _

end Runs

/-- **One step or two.** The report on documents has the thesis of their summary, whatever blanks come to stand around
it, and the thesis of the report on that text trimmed. So a summary that is printed and read again, from a file or a
pipe, gives what a single run gives. A blank summary has no labels. -/
theorem pipelines_agree :
    (∀ (e : Extractor) (s : Scorer), s.table.Built → ∀ (topic : String) (documents : List Document)
      (lead trail : String), isBlankText lead = true → isBlankText trail = true →
        ∃ report, Generator.generate ⟨.extractive e, s⟩ topic documents = .ok report ∧
          report.summary = e.summary documents ∧
          s.thesis (lead ++ report.summary ++ trail) documents = report.thesis ∧
          Generator.generate ⟨.external (trimmed (lead ++ report.summary ++ trail)), s⟩ topic documents =
            .ok { report with summarizer := "external" }) ∧
    (∀ s : Scorer, s.table.Built → ∀ (summary : String) (documents : List Document), isBlankText summary = true →
      ∀ group, (s.thesis summary documents).labels group = []) ∧
    ∀ (p : Pipeline) (around : Surroundings) (settings : Settings) (s : Scorer),
      p.overrides.settings around = .ok settings → settings.scorer around = .ok s →
        (p.summary = "-" ∨ settings.categoriesPath? ≠ some p.summary) →
          ∀ (arguments : List String) (summary : String), Invocation.read arguments = .ok p.summarize →
            run around arguments = .printed summary →
              ∃ r : Report, r.summary = summary ∧
                p.Agree around (around.written p.summary (run around arguments).output) r := by
  refine ⟨fun e s hs topic documents lead trail => generate_between e s hs topic documents,
    fun s hs summary documents hblank group => labels_of_isBlankText hs hblank documents group, ?_⟩
  intro p around settings s hsettings hscorer hcategories arguments summary hread hprinted
  exact exists_report_of_run hsettings hscorer hcategories hread hprinted

/-! One article, whose summary goes through a pipe. -/

namespace Piped

/-- A file with an article of one sentence. -/
def file : String := "[\x7b\"text\": \"Stripe adds stablecoin payments.\"\x7d]"

def article : Document := ⟨"Stripe adds stablecoin payments.", .empty⟩

def around : Surroundings := { read? := fun path => if path = "news.json" then some file.toUTF8 else none }

def pipeline : Pipeline := ⟨{}, "news.json", false, "fintech", .json, "-", by decide⟩

def extractor : Extractor := ⟨Settings.extraction {}, .fintech, by decide +kernel⟩

theorem documents_around : around.documents "news.json" false = .ok [article] := by
  have hbytes : around.read? "news.json" >>= String.fromUTF8? = some file := fromUTF8?_toUTF8 file
  have htext : around.text "news.json" = .ok file := by rw [Surroundings.text, if_neg (by decide), hbytes]
  exact documents_eq_ok_iff.2 ⟨file, [article], htext, by cbv, rfl⟩

theorem settings_around : pipeline.overrides.settings around = .ok {} := by decide +kernel

theorem read_summarize : Invocation.read ["summarize", "--docs", "news.json"] = .ok pipeline.summarize := by cbv

theorem run_summarize : run around ["summarize", "--docs", "news.json"] = .printed article.text := by
  have hsummary : extractor.summary [article] = article.text := by decide +kernel
  exact (run_eq_printed_iff_of_read read_summarize settings_around).2
    (summarize_eq_ok_iff.2 ⟨_, extractor, documents_around, extractor_eq_ok_iff.2 ⟨rfl, rfl⟩, hsummary⟩)

theorem pipelines_agree_on_article :
    pipeline.overrides.settings around = .ok {} ∧ Settings.scorer {} around = .ok {} ∧
    run around ["summarize", "--docs", "news.json"] = .printed article.text ∧
    ∃ r : Report, r.summary = article.text ∧
      run around ["thesis", "--docs", "news.json"] = .printed (r.written .json) ∧
      run (around.written "-" (article.text ++ "\n")) ["structure", "--summary-file", "-", "--docs", "news.json"] =
        .printed r.thesis.toJson.pretty ∧
      run (around.written "-" (article.text ++ "\n")) ["thesis", "--docs", "news.json", "--summary-file", "-"] =
        .printed (Report.written { r with summarizer := "external" } .json) := by
  obtain ⟨r, hsummary, hagree⟩ := pipelines_agree.2.2 pipeline around {} {} settings_around rfl (.inl rfl) _ _
    read_summarize run_summarize
  rw [run_summarize] at hagree
  exact ⟨settings_around, rfl, run_summarize, r, hsummary, hagree.report _ (by cbv), hagree.rank _ (by cbv),
    hagree.reportSummary _ (by cbv)⟩

end Piped

end MarketBrief
