import Mathlib.Tactic.SplitIfs
import MarketBrief.Json.Quoted

/-!
# Quoted strings are read back

* `Spells`: characters between quotes that are scanned as one piece, which names one character;
* `exists_spells_escapeChar`: the written form of a character spells it;
* `exists_scanQuoted_escape`: a text that is written between quotes is found again, up to the closing quote.
-/

namespace MarketBrief.Json

/-! ### Units -/

theorem hexValue?_hexDigit : ∀ n, n < 16 → hexValue? (hexDigit n) = some n := by decide

theorem hexUnit?_hexDigit {n : Nat} (h : n < 256) :
    hexUnit? '0' '0' (hexDigit (n / 16)) (hexDigit (n % 16)) = some n := by
  have hzero : hexValue? '0' = some 0 := by decide
  have hhigh := hexValue?_hexDigit (n / 16) (by omega)
  have hlow := hexValue?_hexDigit (n % 16) (by omega)
  simp only [hexUnit?, hzero, hhigh, hlow, Option.bind_eq_bind, Option.bind_some, Option.pure_def, Option.some.injEq]
  omega

/-- A unit below the surrogates names a character whatever follows. -/
theorem textOf?_unit_cons {n : Nat} (h : n < 0xD800) (pieces : List Piece) :
    textOf? (.unit n :: pieces) = (textOf? pieces).map (Char.ofNat n :: ·) := by
  have hhigh : isHighHalf n = false := by
    simp only [isHighHalf, Bool.and_eq_false_iff, decide_eq_false_iff_not]
    omega
  have hlow : isLowHalf n = false := by
    simp only [isLowHalf, Bool.and_eq_false_iff, decide_eq_false_iff_not]
    omega
  rcases pieces with _ | ⟨c | m, pieces⟩ <;> simp [textOf?, hhigh, hlow]

/-! ### Characters -/

/-- The characters are scanned as one piece, which names the character. -/
structure Spells (written : List Char) (c : Char) (piece : Piece) : Prop where
  scan : ∀ cs, scanQuoted (written ++ cs) = (scanQuoted cs).map fun scanned => (piece :: scanned.1, scanned.2)
  text : ∀ pieces, textOf? (piece :: pieces) = (textOf? pieces).map (c :: ·)

theorem spells_plain {c : Char} (hquote : c ≠ '"') (hslash : c ≠ '\\') (hcontrol : ¬ c.toNat < 32) :
    Spells [c] c (.char c) := by
  constructor
  · intro cs
    have hplain : ¬ (c = '\\' ∨ c.toNat < 32) := fun h => h.elim hslash hcontrol
    rw [List.singleton_append, scanQuoted]
    · rw [if_neg hplain]
      cases scanQuoted cs <;> rfl
    · exact hquote
    · intro a b d e f h
      exact absurd h hslash
    · intro e f h
      exact absurd h hslash
  · intro pieces
    rfl

theorem spells_escaped {e c : Char} (h : escaped? e = some c) : Spells ['\\', e] c (.char c) := by
  constructor
  · intro cs
    have hunit : e ≠ 'u' := by
      rintro rfl
      simp [escaped?] at h
    rw [List.cons_append, List.singleton_append, scanQuoted, h]
    · cases scanQuoted cs <;> rfl
    · intro a b d f g heq
      exact absurd heq hunit
  · intro pieces
    rfl

theorem spells_numbered {c : Char} (h : c.toNat < 32) :
    Spells ['\\', 'u', '0', '0', hexDigit (c.toNat / 16), hexDigit (c.toNat % 16)] c (.unit c.toNat) := by
  constructor
  · intro cs
    simp only [List.cons_append, List.nil_append, scanQuoted]
    rw [hexUnit?_hexDigit (by omega)]
    cases scanQuoted cs <;> rfl
  · intro pieces
    rw [textOf?_unit_cons (by omega), Char.ofNat_toNat]

/-- Every character is written so that one piece is found, and that the piece names it. -/
theorem exists_spells_escapeChar (c : Char) : ∃ piece, Spells (escapeChar c) c piece := by
  unfold escapeChar
  split_ifs with hquote hslash hbackspace htab hfeed hpage hreturn hcontrol
  · exact ⟨_, spells_escaped (by rw [hquote]; rfl)⟩
  · exact ⟨_, spells_escaped (by rw [hslash]; rfl)⟩
  · exact ⟨_, spells_escaped (by rw [hbackspace]; rfl)⟩
  · exact ⟨_, spells_escaped (by rw [htab]; rfl)⟩
  · exact ⟨_, spells_escaped (by rw [hfeed]; rfl)⟩
  · exact ⟨_, spells_escaped (by rw [hpage]; rfl)⟩
  · exact ⟨_, spells_escaped (by rw [hreturn]; rfl)⟩
  · exact ⟨_, spells_numbered hcontrol⟩
  · exact ⟨_, spells_plain hquote hslash hcontrol⟩

/-! ### Texts -/

/-- What is written between quotes is scanned to the closing quote, and its pieces name the text. -/
theorem exists_scanQuoted_escape (cs rest : List Char) :
    ∃ pieces, scanQuoted (escape cs ++ '"' :: rest) = some (pieces, rest) ∧ textOf? pieces = some cs := by
  induction cs with
  | nil => exact ⟨[], by simp [escape, scanQuoted], rfl⟩
  | cons c cs ih =>
    obtain ⟨pieces, hscan, htext⟩ := ih
    obtain ⟨piece, hpiece⟩ := exists_spells_escapeChar c
    refine ⟨piece :: pieces, ?_, ?_⟩
    · have hcons : escape (c :: cs) = escapeChar c ++ escape cs := List.flatMap_cons
      rw [hcons, List.append_assoc, hpiece.scan, hscan, Option.map_some]
    · rw [hpiece.text, htext, Option.map_some]

end MarketBrief.Json
