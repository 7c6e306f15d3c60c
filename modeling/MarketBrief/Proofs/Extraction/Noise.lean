import MarketBrief.Proofs.Article.Promotion
import MarketBrief.Proofs.Extraction.Copies
import MarketBrief.Proofs.Sentence.Stretches

/-!
# Noise stays in sentences

Promotional phrases and glued words are stretches that no cut falls into. So a text has noise if one of its sentences
has, and the filters that look at one sentence find all of it.

* `IsPromotion.isUncut`: a promotional phrase has no mark of a run;
* `IsGlued`, `gluesWords_iff`, `IsGlued.isUncut`: glued words have no blank;
* `isPromotional_iff_exists_mem_split`, `hasGluedWords_iff_exists_mem_split`: noise of a text is noise of a sentence;
* `summary_without_noise`: joining the sentences of a document makes none;
* `noise_stays_in_sentences`: both kinds of noise, where they stand, and what the candidates are free of.
-/

namespace MarketBrief.Article

open Sentence Text Unicode

/-! ### Promotional phrases -/

/-- No mark stands for a character of a phrase. -/
theorem isRunMark_of_reads {phrase cs : List Char} (hphrase : phrase ∈ " off".toList :: promotionalPhrases)
    (hcs : Reads phrase cs) : ∀ c ∈ cs, isRunMark c = false := by
  intro c hc
  obtain ⟨p, hp, hfolds⟩ := hcs.exists_of_mem hc
  rw [← Bool.not_eq_true]
  intro hmark
  have hnone := forall_isRunMark
    (P := fun c => (" off".toList :: promotionalPhrases).all (·.all (!foldsTo · c))) (by decide +kernel) hmark
  have hnot := List.all_eq_true.1 (List.all_eq_true.1 hnone phrase hphrase) p hp
  rw [hfolds] at hnot
  exact Bool.noConfusion hnot

theorem isRunMark_of_isSettledDigit {c : Char} (h : isSettledDigit c = true) : isRunMark c = false := by
  rw [← Bool.not_eq_true]
  intro hmark
  have hnot := forall_isRunMark (P := (!isSettledDigit ·)) (by decide +kernel) hmark
  rw [h] at hnot
  exact Bool.noConfusion hnot

theorem IsPromotion.isRunMark_eq_false {p : List Char} (h : IsPromotion p) : ∀ c ∈ p, isRunMark c = false := by
  cases h with
  | phrase hphrase hp => exact isRunMark_of_reads (List.mem_cons_of_mem _ hphrase) hp
  | discount _ hdigits hoff =>
    rw [List.forall_mem_cons, List.forall_mem_append]
    exact ⟨by decide, fun c hc => isRunMark_of_isSettledDigit (hdigits c hc),
      isRunMark_of_reads List.mem_cons_self hoff⟩

/-- The spaces of a phrase stand behind letters and digits, never behind a mark. -/
theorem IsPromotion.isUncut {p : List Char} (h : IsPromotion p) : IsUncut p :=
  .of_unmarked h.spaced.ne_nil h.spaced.head h.spaced.last h.isRunMark_eq_false

theorem isPromotional_iff_exists_mem_split (text : String) :
    isPromotional text = true ↔ ∃ s ∈ split text, isPromotional s = true := by
  simp only [isPromotional, holdsPromotion_iff]
  exact exists_infix_iff_exists_mem_split (fun _ => IsPromotion.isUncut) text

end MarketBrief.Article

namespace MarketBrief.Sentence

open Unicode

/-! ### Glued words -/

/-- The characters are the end of a word of small letters, a stop, and the beginning of a word with a capital. -/
inductive IsGlued : List Char → Prop
  | mk {a b stop c d : Char} : isSettledSmallLetter a = true → isSettledSmallLetter b = true →
      (stop = '.' ∨ stop = ',') → isSettledCapitalLetter c = true → isSettledSmallLetter d = true →
      IsGlued [a, b, stop, c, d]

theorem IsGlued.length_eq {p : List Char} (h : IsGlued p) : p.length = 5 := by
  cases h
  rfl

theorem isGlued_iff {a b stop c d : Char} : IsGlued [a, b, stop, c, d] ↔
    (isSettledSmallLetter a && isSettledSmallLetter b && (stop == '.' || stop == ',') && isSettledCapitalLetter c &&
      isSettledSmallLetter d) = true := by
  simp only [Bool.and_eq_true, Bool.or_eq_true, beq_iff_eq]
  constructor
  · rintro ⟨ha, hb, hstop, hc, hd⟩
    exact ⟨⟨⟨⟨ha, hb⟩, hstop⟩, hc⟩, hd⟩
  · rintro ⟨⟨⟨⟨ha, hb⟩, hstop⟩, hc⟩, hd⟩
    exact ⟨ha, hb, hstop, hc, hd⟩

theorem exists_prefix_isGlued_iff {a b stop c d : Char} {cs : List Char} :
    (∃ p, p <+: a :: b :: stop :: c :: d :: cs ∧ IsGlued p) ↔ IsGlued [a, b, stop, c, d] := by
  have hfirst : [a, b, stop, c, d] <+: a :: b :: stop :: c :: d :: cs := ⟨cs, rfl⟩
  refine ⟨fun ⟨p, hprefix, hp⟩ => ?_, fun h => ⟨_, hfirst, h⟩⟩
  rwa [← (List.prefix_of_prefix_length_le hprefix hfirst hp.length_eq.le).eq_of_length hp.length_eq]

theorem gluesWords_iff {cs : List Char} : gluesWords cs = true ↔ ∃ p, p <:+: cs ∧ IsGlued p := by
  fun_induction gluesWords cs with
  | case1 a b stop c d cs ih =>
    rw [Bool.or_eq_true, ih, ← isGlued_iff, ← @exists_prefix_isGlued_iff a b stop c d cs, ← exists_or]
    simp only [List.infix_cons_iff (a := a), or_and_right]
  | case2 cs hshort =>
    have hlength : cs.length < 5 := by
      match cs with
      | [] | [_] | [_, _] | [_, _, _] | [_, _, _, _] => simp
      | a :: b :: stop :: c :: d :: cs => exact (hshort a b stop c d cs rfl).elim
    refine iff_of_false Bool.noConfusion ?_
    rintro ⟨p, hin, hp⟩
    exact absurd (hp.length_eq ▸ hin.length_le) (Nat.not_le_of_lt hlength)

theorem isBlank_of_isSettledSmallLetter {c : Char} (h : isSettledSmallLetter c = true) : isBlank c = false := by
  rw [isSettledSmallLetter, Bool.or_eq_true, Bool.and_eq_true, beq_iff_eq] at h
  rcases h with ⟨hsmall, -⟩ | rfl
  · exact isBlank_of_covers (by simp [wordTables]) hsmall
  · decide

theorem isBlank_of_isSettledCapitalLetter {c : Char} (h : isSettledCapitalLetter c = true) : isBlank c = false :=
  isBlank_of_covers (by simp [wordTables]) (Bool.and_eq_true_iff.1 h).1

/-- Glued words are glued because no blank stands between them. -/
theorem IsGlued.isUncut {p : List Char} (h : IsGlued p) : IsUncut p := by
  cases h with
  | @mk a b stop c d ha hb hstop hc hd =>
    have hstop : isBlank stop = false := by
      rcases hstop with rfl | rfl <;> decide
    refine .of_solid (List.cons_ne_nil _ _) ?_
    simp only [List.forall_mem_cons]
    exact ⟨isBlank_of_isSettledSmallLetter ha, isBlank_of_isSettledSmallLetter hb, hstop,
      isBlank_of_isSettledCapitalLetter hc, isBlank_of_isSettledSmallLetter hd, List.forall_mem_nil _⟩

theorem hasGluedWords_iff_exists_mem_split (text : String) :
    hasGluedWords text = true ↔ ∃ s ∈ split text, hasGluedWords s = true := by
  simp only [hasGluedWords, gluesWords_iff]
  exact exists_infix_iff_exists_mem_split (fun _ => IsGlued.isUncut) text

end MarketBrief.Sentence

namespace MarketBrief.Extraction

open Article Sentence

/-! ### Candidates -/

section Candidates

variable {e : Extractor} {documents : List Document} {c : Candidate}

theorem passes_of_mem_candidates (h : c ∈ e.candidates documents) : Passes e.options c.text := by
  obtain ⟨d, -, -, hpasses⟩ := mem_located_iff.1 (mem_located_of_mem_candidates e documents h)
  exact hpasses

theorem passes_of_mem_select (h : c ∈ e.select documents) : Passes e.options c.text :=
  passes_of_mem_candidates (mem_candidates_of_mem_select h)

end Candidates

/-- The summary of one document is split into the selected sentences, so no noise arises where they are joined. -/
theorem summary_without_noise (e : Extractor) (d : Document) :
    (e.options.dropPromotional = true → isPromotional (e.summary [d]) = false) ∧
      (e.options.dropGlued = true → hasGluedWords (e.summary [d]) = false) := by
  rw [← Bool.not_eq_true, ← Bool.not_eq_true, isPromotional_iff_exists_mem_split, hasGluedWords_iff_exists_mem_split,
    split_summary]
  simp only [List.mem_map, not_exists, not_and, Bool.not_eq_true, forall_exists_index, and_imp,
    forall_apply_eq_imp_iff₂]
  exact ⟨fun hdrop c hc => (passes_of_mem_select hc).promotional hdrop,
    fun hdrop c hc => (passes_of_mem_select hc).glued hdrop⟩

/-- **Splitting hides no noise.** A text has a promotional phrase, or glued words, if one of its sentences has, and each
phrase and each pair of glued words stands in the text as often as in its sentences together: none is cut in two, and
none lies across two sentences. So with the filters set no candidate and no selected sentence has any of it. -/
theorem noise_stays_in_sentences :
    (∀ text,
      (isPromotional text = true ↔ ∃ s ∈ split text, isPromotional s = true) ∧
      (hasGluedWords text = true ↔ ∃ s ∈ split text, hasGluedWords s = true) ∧
      ∀ p, IsPromotion p ∨ IsGlued p →
        placesOf p text.toList = ((split text).map fun s => placesOf p s.toList).sum) ∧
    ∀ (e : Extractor) (documents : List Document) (c : Candidate),
      c ∈ e.candidates documents ∨ c ∈ e.select documents →
        (e.options.dropPromotional = true → isPromotional c.text = false) ∧
        (e.options.dropGlued = true → hasGluedWords c.text = false) := by
  refine ⟨fun text => ⟨isPromotional_iff_exists_mem_split text, hasGluedWords_iff_exists_mem_split text,
    fun p hp => ?_⟩, fun e documents c hc => ?_⟩
  · have huncut : IsUncut p := hp.elim IsPromotion.isUncut IsGlued.isUncut
    exact huncut.placesOf_split text
  · have hpasses : Passes e.options c.text := hc.elim passes_of_mem_candidates passes_of_mem_select
    exact ⟨hpasses.promotional, hpasses.glued⟩

/-! Both kinds of noise in one document, and a sentence between them. -/

namespace Noisy

/-- A document with three noisy sentences. -/
def document : Document :=
  ⟨"Tickets are $200 off! Fees fell at two banks.The rest kept them. Lenders raised rates again.\nNow SIGN UP.", .empty⟩

def sentences : List String :=
  ["Tickets are $200 off!", "Fees fell at two banks.The rest kept them.", "Lenders raised rates again.", "Now SIGN UP."]

def extractor : Extractor := ⟨{}, .ofTerms [], isFraction_default⟩

theorem noise_stays_in_sentences_of_offer :
    split document.text = sentences ∧
    isPromotional document.text = true ∧ (∃ s ∈ sentences, isPromotional s = true) ∧
    hasGluedWords document.text = true ∧ (∃ s ∈ sentences, hasGluedWords s = true) ∧
    IsPromotion "SIGN UP".toList ∧
    placesOf "SIGN UP".toList document.text.toList = (sentences.map fun s => placesOf "SIGN UP".toList s.toList).sum ∧
    ∃ c ∈ extractor.candidates [document], isPromotional c.text = false ∧ hasGluedWords c.text = false := by
  have hsplit : split document.text = sentences := by decide +kernel
  have hpromotional : isPromotional document.text = true := by decide +kernel
  have hglued : hasGluedWords document.text = true := by decide +kernel
  have hlisted : "sign up".toList ∈ promotionalPhrases := by decide
  have hphrase : IsPromotion "SIGN UP".toList := .phrase hlisted (by simp [Text.Reads, Text.foldsTo])
  have hne : extractor.candidates [document] ≠ [] := by decide +kernel
  obtain ⟨c, hc⟩ := List.exists_mem_of_ne_nil _ hne
  obtain ⟨htexts, hcandidates⟩ := noise_stays_in_sentences
  obtain ⟨hpromotions, hglues, hplaces⟩ := htexts document.text
  obtain ⟨hnoPromotion, hnoGlue⟩ := hcandidates extractor [document] c (Or.inl hc)
  rw [hsplit] at hpromotions hglues hplaces
  exact ⟨hsplit, hpromotional, hpromotions.1 hpromotional, hglued, hglues.1 hglued, hphrase,
    hplaces _ (Or.inl hphrase), c, hc, hnoPromotion rfl, hnoGlue rfl⟩

end Noisy

end MarketBrief.Extraction
