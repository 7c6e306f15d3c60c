import Mathlib.Data.List.Forall2
import MarketBrief.Proofs.Unicode.Class
import MarketBrief.Text.Phrase

/-!
# What a phrase stands for

* `Reads`: characters that stand for those of a phrase, one by one;
* `afterPhrase?_eq_some_iff`: the text behind a phrase is what follows such characters;
* `afterWholePhrase?_append`: blanks behind a text do not matter for the phrase at its beginning;
* `Spaced`: no blank at the ends and no blank but spaces inside; whatever reads a spaced phrase is spaced.
-/

namespace MarketBrief.Text

open Unicode

/-- The characters stand for those of the phrase, one by one. -/
def Reads (phrase cs : List Char) : Prop := List.Forall₂ (fun p c => foldsTo p c = true) phrase cs

theorem afterPhrase?_eq_some_iff {phrase text rest : List Char} :
    afterPhrase? phrase text = some rest ↔ ∃ cs, text = cs ++ rest ∧ Reads phrase cs := by
  constructor
  · intro h
    fun_induction afterPhrase? phrase text with
    | case1 text => exact ⟨[], by simpa using h, .nil⟩
    | case2 => simp at h
    | case3 p phrase c text hc ih =>
      obtain ⟨cs, rfl, hcs⟩ := ih h
      exact ⟨c :: cs, rfl, .cons hc hcs⟩
    | case4 => simp at h
  · rintro ⟨cs, rfl, hcs⟩
    induction hcs with
    | nil => rfl
    | cons hc _ ih => rw [List.cons_append, afterPhrase?, if_pos hc, ih]

theorem isSome_afterPhrase?_iff {phrase text : List Char} :
    (afterPhrase? phrase text).isSome ↔ ∃ cs, cs <+: text ∧ Reads phrase cs := by
  rw [Option.isSome_iff_exists]
  constructor
  · rintro ⟨rest, h⟩
    obtain ⟨cs, rfl, hcs⟩ := afterPhrase?_eq_some_iff.1 h
    exact ⟨cs, List.prefix_append _ _, hcs⟩
  · rintro ⟨cs, ⟨rest, rfl⟩, hcs⟩
    exact ⟨rest, afterPhrase?_eq_some_iff.2 ⟨cs, rfl, hcs⟩⟩

/-! ### Blanks behind a text -/

theorem endsWord_append {blanks : List Char} (hblanks : ∀ c ∈ blanks, isBlank c = true) {rest : List Char}
    (h : endsWord rest = true) : endsWord (rest ++ blanks) = true := by
  cases rest with
  | cons c rest => exact h
  | nil =>
    cases blanks with
    | nil => rfl
    | cons b blanks => simp [endsWord, isWordChar_of_isBlank (hblanks b List.mem_cons_self)]

theorem afterWholePhrase?_append {phrase text rest blanks : List Char} (hblanks : ∀ c ∈ blanks, isBlank c = true)
    (h : afterWholePhrase? phrase text = some rest) :
    afterWholePhrase? phrase (text ++ blanks) = some (rest ++ blanks) := by
  obtain ⟨hphrase, hend⟩ := Option.filter_eq_some_iff.1 h
  obtain ⟨cs, rfl, hcs⟩ := afterPhrase?_eq_some_iff.1 hphrase
  refine Option.filter_eq_some_iff.2 ⟨?_, endsWord_append hblanks hend⟩
  exact afterPhrase?_eq_some_iff.2 ⟨cs, List.append_assoc .., hcs⟩

/-! ### Spaced texts -/

/-- A text without blanks at its ends and without blanks but spaces inside. -/
structure Spaced (cs : List Char) : Prop where
  ne_nil : cs ≠ []
  head : ∀ c ∈ cs.head?, isBlank c = false
  last : ∀ c ∈ cs.getLast?, isBlank c = false
  inside : ∀ c ∈ cs, c = ' ' ∨ isBlank c = false

theorem Spaced.lineFeed_notMem {cs : List Char} (h : Spaced cs) : '\n' ∉ cs := by
  intro hmem
  rcases h.inside _ hmem with heq | hblank
  · exact absurd heq (by decide)
  · exact absurd hblank (by decide)

/-- A character that stands for one of a phrase is that one, its capital, a long s or a kelvin sign. -/
theorem foldsTo_cases {p c : Char} (h : foldsTo p c = true) : c = p ∨ c = p.toUpper ∨ c = '\u017f' ∨ c = '\u212a' := by
  simp only [foldsTo, Bool.or_eq_true, Bool.and_eq_true, beq_iff_eq] at h
  rcases h with ((h | h) | ⟨-, h⟩) | ⟨-, h⟩
  · exact Or.inl h
  · exact Or.inr (Or.inl h)
  · exact Or.inr (Or.inr (Or.inl h))
  · exact Or.inr (Or.inr (Or.inr h))

/-- A character of a phrase for which only characters stand that are no blanks. -/
def isSolid (p : Char) : Bool := !isBlank p && !isBlank p.toUpper

theorem isBlank_of_foldsTo {p c : Char} (hp : isSolid p = true) (h : foldsTo p c = true) : isBlank c = false := by
  simp only [isSolid, Bool.and_eq_true, Bool.not_eq_true'] at hp
  rcases foldsTo_cases h with rfl | rfl | rfl | rfl
  · exact hp.1
  · exact hp.2
  · decide
  · decide

theorem eq_space_of_foldsTo {c : Char} (h : foldsTo ' ' c = true) : c = ' ' := by
  simpa [foldsTo] using h

theorem Reads.exists_of_mem {phrase cs : List Char} (h : Reads phrase cs) {c : Char} (hc : c ∈ cs) :
    ∃ p ∈ phrase, foldsTo p c = true := by
  induction h with
  | nil => simp at hc
  | cons hfolds _ ih =>
    rcases List.mem_cons.1 hc with rfl | hc
    · exact ⟨_, List.mem_cons_self, hfolds⟩
    · obtain ⟨p, hp, hfolds⟩ := ih hc
      exact ⟨p, List.mem_cons_of_mem _ hp, hfolds⟩

theorem Reads.isBlank_head {phrase cs : List Char} (h : Reads phrase cs) (hphrase : phrase.head?.all isSolid = true) :
    ∀ c ∈ cs.head?, isBlank c = false := by
  cases h with
  | nil => simp
  | cons hfolds _ => simpa using isBlank_of_foldsTo (by simpa using hphrase) hfolds

theorem Reads.reverse {phrase cs : List Char} (h : Reads phrase cs) : Reads phrase.reverse cs.reverse :=
  List.forall₂_reverse_iff.2 h

/-- The phrase has solid characters at its ends and solid characters and spaces inside. -/
def isSpacedPhrase (phrase : List Char) : Bool :=
  phrase ≠ [] && phrase.head?.all isSolid && phrase.getLast?.all isSolid && phrase.all fun p => p == ' ' || isSolid p

theorem Reads.spaced {phrase cs : List Char} (h : Reads phrase cs) (hphrase : isSpacedPhrase phrase = true) :
    Spaced cs := by
  simp only [isSpacedPhrase, Bool.and_eq_true, decide_eq_true_eq, List.all_eq_true, Bool.or_eq_true, beq_iff_eq]
    at hphrase
  obtain ⟨⟨⟨hne, hhead⟩, hlast⟩, hinside⟩ := hphrase
  refine ⟨?_, h.isBlank_head hhead, ?_, fun c hc => ?_⟩
  · rintro rfl
    exact hne (by simpa using h.length_eq)
  · rw [← List.head?_reverse]
    exact h.reverse.isBlank_head (by rwa [List.head?_reverse])
  · obtain ⟨p, hp, hfolds⟩ := h.exists_of_mem hc
    rcases hinside p hp with rfl | hsolid
    · exact Or.inl (eq_space_of_foldsTo hfolds)
    · exact Or.inr (isBlank_of_foldsTo hsolid hfolds)

end MarketBrief.Text
