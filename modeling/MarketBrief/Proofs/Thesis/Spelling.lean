import Mathlib.Logic.Relation
import MarketBrief.Proofs.Case
import MarketBrief.Proofs.Category.NormalForm
import MarketBrief.Proofs.Thesis.Order

/-!
# Keywords written otherwise

A table keeps the normal forms of the keywords of an entry, each once, and hits do not depend on their order. So it does
not matter how the keywords are written.

* `Respelling`: a step from one way to write some keywords to another;
* `mem_map_normalKeyword_iff`: no step changes the set of their normal forms;
* `Entry.SameBut`, `exists_make_of_sameBut`: a table can be made of such entries too, with the same keywords in another
  order;
* `rankEntries_eq_of_isPerm`: rankings do not depend on the order of the keywords;
* `rank_ignores_spelling`: the tables made of such entries give the same rankings;
* `Handwritten.rank_ignores_handwriting`: a table with capitals, blanks and repeated keywords.
-/

namespace MarketBrief

open Category MarketBrief.Lists Text Unicode

/-! ### Keywords -/

namespace Text

theorem ignoresCase_isBlank : IgnoresCase isBlank := ignoresCase_of_capitals (by decide +kernel)

theorem trim_map_toLower (cs : List Char) : trim (cs.map Char.toLower) = (trim cs).map Char.toLower := by
  rw [trim, trimStart, ignoresCase_isBlank.dropWhile_map, trimEnd, ← List.map_reverse, ignoresCase_isBlank.dropWhile_map,
    ← List.map_reverse]
  rfl

theorem trimmed_sameButCase {x y : String} (h : SameButCase x y) : SameButCase (trimmed x) (trimmed y) := by
  rw [SameButCase, toList_trimmed, toList_trimmed, ← trim_map_toLower, h, trim_map_toLower]

end Text

namespace Category

theorem normalKeyword_eq_of_sameButCase {x y : String} (h : SameButCase x y) : normalKeyword x = normalKeyword y :=
  lowered_eq_of_sameButCase (trimmed_sameButCase h)

/-- One step in which keywords are written otherwise: they are put in another order, one is repeated, one is put between
blanks, or the case of ASCII letters is changed in one. -/
inductive Respelling : List String → List String → Prop
  | moved {x y : List String} : x.Perm y → Respelling x y
  | repeated {keyword : String} {x : List String} : keyword ∈ x → Respelling x (keyword :: x)
  | padded {lead trail : String} (keyword : String) (x : List String) : isBlankText lead = true →
      isBlankText trail = true → Respelling (keyword :: x) ((lead ++ keyword ++ trail) :: x)
  | recased {keyword other : String} (x : List String) : SameButCase keyword other →
      Respelling (keyword :: x) (other :: x)

/-- The same keywords, written otherwise in any number of steps, forwards or backwards. -/
def SameKeywords : List String → List String → Prop := Relation.EqvGen Respelling

theorem Respelling.mem_map_normalKeyword_iff {x y : List String} (h : Respelling x y) (form : String) :
    form ∈ x.map normalKeyword ↔ form ∈ y.map normalKeyword := by
  cases h with
  | moved hperm => exact (hperm.map normalKeyword).mem_iff
  | repeated hmem =>
    rw [List.map_cons, List.mem_cons]
    exact ⟨Or.inr, fun h => h.elim (fun heq => heq ▸ List.mem_map_of_mem hmem) id⟩
  | padded keyword x hlead htrail =>
    have hnormal : normalKeyword (_ ++ keyword ++ _) = normalKeyword keyword :=
      congrArg lowered (trimmed_between hlead htrail keyword)
    rw [List.map_cons, List.map_cons, hnormal]
  | recased x hcase => rw [List.map_cons, List.map_cons, normalKeyword_eq_of_sameButCase hcase]

theorem SameKeywords.mem_map_normalKeyword_iff {x y : List String} (h : SameKeywords x y) (form : String) :
    form ∈ x.map normalKeyword ↔ form ∈ y.map normalKeyword := by
  induction h with
  | rel x y hstep => exact hstep.mem_map_normalKeyword_iff form
  | refl x => exact Iff.rfl
  | symm x y _ ih => exact ih.symm
  | trans x y z _ _ hxy hyz => exact hxy.trans hyz

/-! ### Tables -/

/-- The entries have the same label and the same keywords, however these are written. -/
structure Entry.SameBut (e d : Entry) : Prop where
  label_eq : e.label = d.label
  keywords : SameKeywords e.keywords d.keywords

/-- The entries have the same label and the same keywords, in whichever order. -/
structure Entry.IsPerm (e d : Entry) : Prop where
  label_eq : e.label = d.label
  keywords : e.keywords.Perm d.keywords

theorem exists_normalEntry_of_sameBut {seen : List String} {e d out : Entry} (hsame : e.SameBut d)
    (h : normalEntry seen e = .ok out) : ∃ out', normalEntry seen d = .ok out' ∧ out.IsPerm out' := by
  obtain ⟨hlabel, hseen, hsome, hblank, rfl⟩ := normalEntry_eq_ok_iff.1 h
  have hforms := hsame.keywords.mem_map_normalKeyword_iff
  have hsome' : d.keywords ≠ [] := by
    obtain ⟨keyword, hkeyword⟩ := List.exists_mem_of_ne_nil _ hsome
    obtain ⟨other, hother, -⟩ := List.mem_map.1 ((hforms _).1 (List.mem_map_of_mem hkeyword))
    exact List.ne_nil_of_mem hother
  have hperm : (e.keywords.map normalKeyword).eraseDups.Perm (d.keywords.map normalKeyword).eraseDups := by
    refine (List.perm_ext_iff_of_nodup (nodup_eraseDups _) (nodup_eraseDups _)).2 fun form => ?_
    rw [List.mem_eraseDups, List.mem_eraseDups, hforms form]
  rw [hsame.label_eq] at hlabel hseen
  rw [hforms] at hblank
  exact ⟨⟨trimmed d.label, (d.keywords.map normalKeyword).eraseDups⟩,
    normalEntry_eq_ok_iff.2 ⟨hlabel, hseen, hsome', hblank, rfl⟩, ⟨congrArg trimmed hsame.label_eq, hperm⟩⟩

theorem exists_normalEntries_of_sameBut {entries others : List Entry}
    (hsame : List.Forall₂ Entry.SameBut entries others) {seen : List String} {out : List Entry}
    (h : normalEntries seen entries = .ok out) :
    ∃ out', normalEntries seen others = .ok out' ∧ List.Forall₂ Entry.IsPerm out out' := by
  induction hsame generalizing seen out with
  | nil =>
    cases h
    exact ⟨[], rfl, .nil⟩
  | cons hfirst hrest ih =>
    obtain ⟨e', es', he, hes, rfl⟩ := normalEntries_cons_eq_ok_iff.1 h
    obtain ⟨d', hd, hperm⟩ := exists_normalEntry_of_sameBut hfirst he
    rw [hperm.label_eq] at hes
    obtain ⟨ds', hds, hperms⟩ := ih hes
    exact ⟨d' :: ds', normalEntries_cons_eq_ok_iff.2 ⟨d', ds', hd, hds, rfl⟩, .cons hperm hperms⟩

theorem exists_make_of_sameBut {given other t : Table}
    (hsame : ∀ group, List.Forall₂ Entry.SameBut (given.entries group) (other.entries group))
    (h : Table.make given.themes given.risks given.signals = .ok t) :
    ∃ t', Table.make other.themes other.risks other.signals = .ok t' ∧
      ∀ group, List.Forall₂ Entry.IsPerm (t.entries group) (t'.entries group) := by
  have hgroups := normalEntries_of_make h
  obtain ⟨themes, hthemes, hthemes'⟩ := exists_normalEntries_of_sameBut (hsame .themes) (hgroups .themes)
  obtain ⟨risks, hrisks, hrisks'⟩ := exists_normalEntries_of_sameBut (hsame .risks) (hgroups .risks)
  obtain ⟨signals, hsignals, hsignals'⟩ := exists_normalEntries_of_sameBut (hsame .signals) (hgroups .signals)
  refine ⟨⟨themes, risks, signals⟩, make_eq_ok_iff.2 ⟨hthemes, hrisks, hsignals⟩, fun group => ?_⟩
  cases group with
  | themes => exact hthemes'
  | risks => exact hrisks'
  | signals => exact hsignals'

end Category

/-! ### Rankings -/

theorem rankEntries_eq_of_isPerm (s : Strategy) (text : String) {entries others : List Entry}
    (h : List.Forall₂ Entry.IsPerm entries others) : rankEntries s text entries = rankEntries s text others :=
  rankEntries_eq_of_forall₂ (h.imp fun _ _ hperm => ⟨hperm.label_eq, s.hits_perm text hperm.keywords⟩)

/-- **Spelling.** Of valid entries, and of the same entries with keywords that are put in another order, repeated, put
between blanks, or written with other ASCII capitals, two tables are made. Under either strategy they give every summary
the same rankings, and so the same thesis. -/
theorem rank_ignores_spelling {given other : Table} (hvalid : ∀ group, IsValidGroup (given.entries group))
    (hsame : ∀ group, List.Forall₂ Entry.SameBut (given.entries group) (other.entries group)) :
    ∃ t t', Table.make given.themes given.risks given.signals = .ok t ∧
      Table.make other.themes other.risks other.signals = .ok t' ∧
      ∀ (strategy : Strategy) (topN : Nat) (summary : String),
        (∀ group, Scorer.rank ⟨t, strategy, topN⟩ summary group = Scorer.rank ⟨t', strategy, topN⟩ summary group) ∧
        ∀ documents, Scorer.thesis ⟨t, strategy, topN⟩ summary documents =
          Scorer.thesis ⟨t', strategy, topN⟩ summary documents := by
  obtain ⟨t, ht⟩ := (exists_make_eq_ok_iff given).2 hvalid
  obtain ⟨t', ht', hperm⟩ := exists_make_of_sameBut hsame ht
  refine ⟨t, t', ht, ht', fun strategy topN summary => ?_⟩
  have hrank : ∀ group, Scorer.rank ⟨t, strategy, topN⟩ summary group = Scorer.rank ⟨t', strategy, topN⟩ summary group :=
    fun group => rankEntries_eq_of_isPerm strategy (lowered summary) (hperm group)
  exact ⟨hrank, thesis_eq_of_rank_eq rfl hrank⟩

/-! A keyword in capitals between blanks, and one that is repeated. -/

namespace Handwritten

def given : Table := ⟨[⟨"Lending", ["loan", "Credit"]⟩], [], []⟩

def other : Table := ⟨[⟨"Lending", [" CREDIT\t", "loan", "loan"]⟩], [], []⟩

/-- What is made of the entries as they are given. -/
def table : Table := ⟨[⟨"Lending", ["loan", "credit"]⟩], [], []⟩

def otherTable : Table := ⟨[⟨"Lending", ["credit", "loan"]⟩], [], []⟩

theorem make_given : Table.make given.themes given.risks given.signals = .ok table := by decide +kernel

theorem make_other : Table.make other.themes other.risks other.signals = .ok otherTable := by decide +kernel

theorem sameKeywords : SameKeywords ["loan", "Credit"] [" CREDIT\t", "loan", "loan"] := by
  have hrepeated : Respelling ["loan", "Credit"] ["loan", "loan", "Credit"] := .repeated List.mem_cons_self
  have hmoved : Respelling ["loan", "loan", "Credit"] ["Credit", "loan", "loan"] := .moved (by decide)
  have hrecased : Respelling ["Credit", "loan", "loan"] ["CREDIT", "loan", "loan"] := .recased _ (by decide +kernel)
  have hpadded : Respelling ["CREDIT", "loan", "loan"] [" " ++ "CREDIT" ++ "\t", "loan", "loan"] :=
    .padded _ _ (by decide) (by decide)
  exact .trans _ _ _ (.rel _ _ hrepeated) (.trans _ _ _ (.rel _ _ hmoved)
    (.trans _ _ _ (.rel _ _ hrecased) (.rel _ _ hpadded)))

theorem rank_ignores_handwriting :
    (∀ group, IsValidGroup (given.entries group)) ∧
    (∀ group, List.Forall₂ Entry.SameBut (given.entries group) (other.entries group)) ∧
    ∀ (strategy : Strategy) (topN : Nat) (summary : String) (group : Group),
      Scorer.rank ⟨table, strategy, topN⟩ summary group = Scorer.rank ⟨otherTable, strategy, topN⟩ summary group := by
  have hvalid : ∀ group, IsValidGroup (given.entries group) := (exists_make_eq_ok_iff given).1 ⟨table, make_given⟩
  have hsame : ∀ group, List.Forall₂ Entry.SameBut (given.entries group) (other.entries group) := by
    intro group
    cases group with
    | themes => exact .cons ⟨rfl, sameKeywords⟩ .nil
    | risks => exact .nil
    | signals => exact .nil
  obtain ⟨t, t', ht, ht', hrank⟩ := rank_ignores_spelling hvalid hsame
  obtain rfl := Except.ok.inj (make_given.symm.trans ht)
  obtain rfl := Except.ok.inj (make_other.symm.trans ht')
  exact ⟨hvalid, hsame, fun strategy topN summary => (hrank strategy topN summary).1⟩

end Handwritten

end MarketBrief
