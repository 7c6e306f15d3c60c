import MarketBrief.Proofs.Extraction.Filters
import MarketBrief.Proofs.Extraction.Selection

/-!
# Copies of a sentence

Below the threshold one a sentence with words overlaps too much with its copies. The first of them is considered before
the others: it is chosen, or a chosen sentence or a full summary stands in its way and then in the way of all of them.

* `consider_copy`, `ranksBefore_of_mem_choose`: a copy of a candidate considered before is not chosen;
* `position_le_of_copy`, `full_of_wordless`: a selected sentence with words has no copy before it, and one without words
  is left out for nothing but the limit;
* `select_collapses_copies`: of the copies of a sentence with words only the first can be selected;
* `Dividers.both_selected`: sentences without words overlap with nothing, not even with their copies;
* `select_append_copies`: documents that repeat the texts of others change nothing.
-/

namespace MarketBrief.Extraction

open Number Token

/-! ### One copy along a ranking -/

section Choosing

variable {o : Options}

theorem consider_copy {front : List Candidate} (h : front.Pairwise Candidate.RanksBefore) {b c : Candidate}
    (hb : b ∈ front) (htext : b.text = c.text)
    (hself : o.overlapThreshold.lt (overlapRatio c.text c.text) = true) :
    consider o (choose o front) c = choose o front := by
  rcases consider_cases o (choose o front) c with ⟨hsame, -⟩ | ⟨-, hfree, hdup⟩
  · exact hsame
  · have hdiffers := isDuplicate_eq_false hdup
    by_cases hchosen : b ∈ choose o front
    · have hfalse := hdiffers b hchosen
      rw [htext, hself] at hfalse
      exact Bool.noConfusion hfalse
    · -- what stood in the way of `b` stands in the way of its copy
      rcases choose_complete o h hb hchosen with ⟨a, ha, -, hlt⟩ | ⟨hfull, -⟩
      · have hfalse := hdiffers a ha
        rw [← htext, hlt] at hfalse
        exact Bool.noConfusion hfalse
      · exact absurd hfree (Nat.not_lt_of_le hfull.ge)

theorem ranksBefore_of_mem_choose {ranking : List Candidate} (h : ranking.Pairwise Candidate.RanksBefore)
    {b c : Candidate} (hc : c ∈ choose o ranking) (hb : b ∈ ranking) (hne : b ≠ c) (htext : b.text = c.text)
    (hself : o.overlapThreshold.lt (overlapRatio c.text c.text) = true) : c.RanksBefore b := by
  obtain ⟨front, rest, rfl⟩ := List.append_of_mem ((sublist_choose o ranking).subset hc)
  obtain ⟨hfront, hrest, hacross⟩ := List.pairwise_append.1 h
  have hbehind := (List.pairwise_cons.1 hrest).1
  rcases List.mem_append.1 hb with hb | hb
  · -- then `c` is passed over, and it stands nowhere else in the ranking
    obtain ⟨more, hmore, heq⟩ := foldl_consider_eq_append o (choose o front) rest
    have hstep : choose o (front ++ c :: rest) = choose o front ++ more := by
      rw [choose_append, List.foldl_cons, consider_copy hfront hb htext hself, heq]
    rw [hstep] at hc
    rcases List.mem_append.1 hc with hc | hc
    · have hbefore := hacross c ((sublist_choose o front).subset hc) c List.mem_cons_self
      exact absurd hbefore hbefore.asymm
    · have hbefore := hbehind c (hmore.subset hc)
      exact absurd hbefore hbefore.asymm
  · exact hbehind b ((List.mem_cons.1 hb).resolve_left hne)

end Choosing

/-! ### The copies of a selected sentence -/

section Selected

variable {e : Extractor} {documents : List Document}

theorem position_le_of_copy (he : e.options.overlapThreshold.lt .one = true) {b c : Candidate}
    (hc : c ∈ e.select documents) (hwords : tokenize c.text ≠ []) (hb : b ∈ e.candidates documents)
    (htext : b.text = c.text) : c.position ≤ b.position := by
  have hnumbered := candidates_pairwise e documents
  have hcandidate := mem_candidates_of_mem_select hc
  have hscore : b.score = c.score := by
    rw [score_of_mem_candidates e documents hb, score_of_mem_candidates e documents hcandidate, htext]
  have hself : e.options.overlapThreshold.lt (overlapRatio c.text c.text) = true := by rwa [overlapRatio_self hwords]
  by_cases hbc : b = c
  · rw [hbc]
  · rcases ranksBefore_of_mem_choose (ranked_pairwise hnumbered) ((mem_selectFrom e.options).1 hc)
      ((ranked_perm _).mem_iff.2 hb) hbc htext hself with hlt | ⟨-, hlt⟩
    · exact absurd hscore (Nat.ne_of_lt hlt)
    · exact hlt.le

/-- What has no words is never taken for a duplicate. -/
theorem full_of_wordless {c : Candidate} (hc : c ∈ e.candidates documents) (hwords : tokenize c.text = [])
    (hnot : c ∉ e.select documents) :
    (e.select documents).length = e.options.maxSentences ∧ ∀ a ∈ e.select documents, a.RanksBefore c := by
  rcases selectFrom_complete e.options (candidates_pairwise e documents) hc hnot with ⟨a, -, -, hlt⟩ | hfull
  · rw [overlapRatio_of_wordless hwords, lt_zero_of_isFraction e.threshold_isFraction] at hlt
    exact Bool.noConfusion hlt
  · exact hfull

/-- **Copies collapse.** Below the threshold one, of all candidates with one text that has words only the first can be
selected, so no such text is selected twice. A candidate without words is left out only if the summary is full. -/
theorem select_collapses_copies (e : Extractor) (he : e.options.overlapThreshold.lt .one = true)
    (documents : List Document) :
    (∀ c ∈ e.select documents, tokenize c.text ≠ [] →
      ∀ b ∈ e.candidates documents, b.text = c.text → c.position ≤ b.position) ∧
    (e.select documents).Pairwise (fun a b => a.text = b.text → tokenize a.text = []) ∧
    (∀ c ∈ e.candidates documents, tokenize c.text = [] → c ∉ e.select documents →
      (e.select documents).length = e.options.maxSentences ∧ ∀ a ∈ e.select documents, a.RanksBefore c) := by
  have hnumbered := candidates_pairwise e documents
  refine ⟨fun c hc hwords b => position_le_of_copy he hc hwords, ?_, fun c => full_of_wordless⟩
  refine (selectFrom_pairwise e.options hnumbered).imp_of_mem fun {a b} ha hb hlt htext => ?_
  by_contra hwords
  rw [htext] at hwords
  have hle := position_le_of_copy he hb hwords (mem_candidates_of_mem_select ha) htext
  exact absurd hlt (Nat.not_lt_of_le hle)

end Selected

theorem isFraction_default : ({} : Options).overlapThreshold.isFraction = true := by decide +kernel

/-! An article and its reprint. -/

namespace Reprint

/-- The article: two sentences. -/
def article : List Document := [⟨"Stripe opened an office. Venmo changed its logo again.", .empty⟩]

/-- The same text from another source. -/
def reprint : List Document := article.map (·.withSource "https://news.example/stripe")

def extractor : Extractor := ⟨{}, .ofTerms ["logo"], isFraction_default⟩

theorem select_collapses_copies_of_reprint :
    extractor.options.overlapThreshold.lt .one = true ∧
    (∀ c ∈ extractor.select (article ++ reprint), tokenize c.text ≠ [] →
      ∀ b ∈ extractor.candidates (article ++ reprint), b.text = c.text → c.position ≤ b.position) ∧
    (extractor.select (article ++ reprint)).Pairwise (fun a b => a.text = b.text → tokenize a.text = []) ∧
    (∀ c ∈ extractor.candidates (article ++ reprint), tokenize c.text = [] → c ∉ extractor.select (article ++ reprint) →
      (extractor.select (article ++ reprint)).length = 7 ∧
        ∀ a ∈ extractor.select (article ++ reprint), a.RanksBefore c) :=
  have hbelow : extractor.options.overlapThreshold.lt .one = true := by decide +kernel
  ⟨hbelow, select_collapses_copies extractor hbelow (article ++ reprint)⟩

end Reprint

/-! ### Sentences without words -/

namespace Dividers

def documents : List Document := [⟨"* * * *", .empty⟩, ⟨"* * * *", .empty⟩]

def extractor : Extractor := ⟨{}, .ofTerms [], isFraction_default⟩

def first : Candidate := ⟨"* * * *", 0, 0, 0⟩

def second : Candidate := ⟨"* * * *", 1, 1, 0⟩

theorem select_documents : extractor.select documents = [first, second] := by
  have hcandidates : extractor.candidates documents = [first, second] := by decide +kernel
  have hranked : ranked [first, second] = [first, second] := List.mergeSort_of_pairwise (by simp [first, second])
  exact select_eq_of_choose hcandidates hranked (by decide +kernel)

/-- A divider has four words between blanks, but no token that a copy of it could share. -/
theorem both_selected :
    ¬ ∀ (e : Extractor) (documents : List Document), e.options.overlapThreshold.lt .one = true →
      (e.select documents).Pairwise fun a b => a.text ≠ b.text := by
  intro hall
  have hpair := hall extractor documents (by decide +kernel)
  rw [select_documents] at hpair
  exact (List.pairwise_cons.1 hpair).1 second List.mem_cons_self rfl

end Dividers

/-! ### Documents fed twice -/

theorem withoutFragments_append {o : Options} {x y : List (Nat × String)} (h : ∀ b ∈ y, ∃ a ∈ x, a.2 = b.2) :
    ∃ more, withoutFragments o (x ++ y) = withoutFragments o x ++ more ∧
      ∀ b ∈ more, ∃ a ∈ withoutFragments o x, a.2 = b.2 := by
  simp only [withoutFragments, List.filter_append]
  by_cases hwhole : x.filter (!Sentence.isFragment ·.2) = []
  · -- the copies hold no whole sentence either
    have hcopies : y.filter (!Sentence.isFragment ·.2) = [] := by
      refine List.filter_eq_nil_iff.2 fun b hb => ?_
      obtain ⟨a, ha, heq⟩ := h b hb
      exact heq ▸ List.filter_eq_nil_iff.1 hwhole a ha
    simp only [hwhole, hcopies, List.nil_append, List.isEmpty_nil, Bool.not_true, Bool.and_false]
    exact ⟨y, rfl, h⟩
  · cases hdrop : o.dropFragments with
    | false => exact ⟨y, rfl, h⟩
    | true =>
      have happend : x.filter (!Sentence.isFragment ·.2) ++ y.filter (!Sentence.isFragment ·.2) ≠ [] :=
        List.append_ne_nil_of_left_ne_nil hwhole _
      rw [if_pos (by simpa using happend), if_pos (by simpa using hwhole)]
      refine ⟨_, rfl, fun b hb => ?_⟩
      obtain ⟨hb, hkeep⟩ := List.mem_filter.1 hb
      obtain ⟨a, ha, heq⟩ := h b hb
      exact ⟨a, List.mem_filter.2 ⟨ha, heq ▸ hkeep⟩, heq⟩

section Repeated

variable {e : Extractor} {documents copies : List Document}

theorem exists_located_append (o : Options) (h : ∀ d ∈ copies, ∃ d' ∈ documents, d'.text = d.text) :
    ∃ more, located o (documents ++ copies) = located o documents ++ more ∧
      ∀ b ∈ more, ∃ a ∈ located o documents, a.2 = b.2 := by
  unfold located
  rw [List.zipIdx_append, List.flatMap_append]
  refine ⟨_, rfl, fun b hb => ?_⟩
  obtain ⟨⟨d, i⟩, hd, hb⟩ := List.mem_flatMap.1 hb
  obtain ⟨s, hs, rfl⟩ := List.mem_map.1 hb
  obtain ⟨d', hd', htext⟩ := h d (List.fst_mem_of_mem_zipIdx hd)
  obtain ⟨j, hj⟩ := List.getElem?_of_mem hd'
  rw [qualifying_eq_filter, ← htext, List.mem_filter] at hs
  exact ⟨(j, s), mem_located_iff.2 ⟨d', hj, hs.1, of_decide_eq_true hs.2⟩, rfl⟩

/-- The candidates of the copies are numbered behind all others, and each repeats one of them. -/
theorem exists_candidates_append (e : Extractor) (h : ∀ d ∈ copies, ∃ d' ∈ documents, d'.text = d.text) :
    ∃ more, e.candidates (documents ++ copies) = e.candidates documents ++ more ∧
      ∀ b ∈ more, (e.candidates documents).length ≤ b.position ∧ ∃ a ∈ e.candidates documents, a.text = b.text := by
  obtain ⟨behind, hlocated, hbehind⟩ := exists_located_append e.options h
  obtain ⟨more, hmore, hcopy⟩ := withoutFragments_append hbehind
  rw [Extractor.candidates, hlocated, hmore, List.zipIdx_append, List.map_append]
  refine ⟨_, rfl, fun b hb => ?_⟩
  obtain ⟨⟨⟨i, s⟩, n⟩, hn, rfl⟩ := List.mem_map.1 hb
  obtain ⟨a, ha, htext⟩ := hcopy (i, s) (List.fst_mem_of_mem_zipIdx hn)
  rw [← map_located_candidates, List.mem_map] at ha
  obtain ⟨c, hc, rfl⟩ := ha
  have hlength : (withoutFragments e.options (located e.options documents)).length =
      (e.candidates documents).length := by
    rw [← map_located_candidates, List.length_map]
  have hle := List.le_snd_of_mem_zipIdx hn
  rw [Nat.zero_add, hlength] at hle
  exact ⟨hle, c, hc, htext⟩

theorem position_lt_of_mem_candidates {c : Candidate} (h : c ∈ e.candidates documents) :
    c.position < (e.candidates documents).length := by
  rw [← List.mem_range, ← map_position_candidates]
  exact List.mem_map_of_mem h

/-- **Feeding texts again changes nothing.** Below the threshold one, and if every candidate has words, documents that
repeat the texts of others leave the selection and the summary as they are. -/
theorem select_append_copies (e : Extractor) (he : e.options.overlapThreshold.lt .one = true)
    (documents copies : List Document) (hwords : ∀ c ∈ e.candidates documents, tokenize c.text ≠ [])
    (hcopies : ∀ d ∈ copies, d.text ∈ documents.map Document.text) :
    e.select (documents ++ copies) = e.select documents ∧ e.summary (documents ++ copies) = e.summary documents := by
  have hselect : e.select (documents ++ copies) = e.select documents := by
    obtain ⟨more, happend, hmore⟩ := exists_candidates_append e fun d hd => List.mem_map.1 (hcopies d hd)
    have hnumbered := candidates_pairwise e (documents ++ copies)
    have horiginal : ∀ c ∈ e.select (documents ++ copies), c.position < (e.candidates documents).length := by
      intro c hc
      have hcandidate := mem_candidates_of_mem_select hc
      rw [happend] at hcandidate
      rcases List.mem_append.1 hcandidate with hc' | hc'
      · exact position_lt_of_mem_candidates hc'
      · -- a copy stands behind what it repeats, which is a candidate too
        obtain ⟨-, a, ha, htext⟩ := hmore c hc'
        have hle := position_le_of_copy he hc (htext ▸ hwords a ha) (happend ▸ List.mem_append_left _ ha) htext
        exact hle.trans_lt (position_lt_of_mem_candidates ha)
    have hfilter : (e.candidates (documents ++ copies)).filter (·.position < (e.candidates documents).length) =
        e.candidates documents := by
      rw [happend, List.filter_append, List.filter_eq_self.2, List.filter_eq_nil_iff.2, List.append_nil]
      · intro b hb
        simpa using (hmore b hb).1
      · intro a ha
        simpa using position_lt_of_mem_candidates ha
    have hsame := selectFrom_filter e.options hnumbered fun c hc => decide_eq_true (horiginal c hc)
    rw [hfilter] at hsame
    exact hsame.symm
  exact ⟨hselect, by rw [Extractor.summary, hselect, Extractor.summary]⟩

end Repeated

theorem Reprint.select_append_reprint :
    extractor.options.overlapThreshold.lt .one = true ∧
    (∀ c ∈ extractor.candidates article, tokenize c.text ≠ []) ∧
    (∀ d ∈ reprint, d.text ∈ article.map Document.text) ∧
    extractor.select (article ++ reprint) = extractor.select article ∧
    extractor.summary (article ++ reprint) = extractor.summary article :=
  have hbelow : extractor.options.overlapThreshold.lt .one = true := by decide +kernel
  have hwords : ∀ c ∈ extractor.candidates article, tokenize c.text ≠ [] := by decide +kernel
  have hcopies : ∀ d ∈ reprint, d.text ∈ article.map Document.text := by decide +kernel
  ⟨hbelow, hwords, hcopies, select_append_copies extractor hbelow article reprint hwords hcopies⟩

end MarketBrief.Extraction
