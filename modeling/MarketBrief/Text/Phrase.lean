import MarketBrief.Text.Basic
import MarketBrief.Unicode.Word

/-!
# Fixed phrases, whatever their case

A phrase is written in small letters. A character stands for one of the phrase's letters if simple case folding makes
them equal: besides the two cases of ASCII these are the long s for `s` and the kelvin sign for `k`.

* `foldsTo`: which characters stand for a character of a phrase;
* `afterPhrase?`: the text behind a phrase at its beginning;
* `afterWord?`: the text behind the first place where a phrase stands as a word of its own.
-/

namespace MarketBrief.Text

open Unicode

/-- Whether the character `c` stands for the phrase's character `p`. -/
def foldsTo (p c : Char) : Bool :=
  c == p || c == p.toUpper || (p == 's' && c == '\u017f') || (p == 'k' && c == '\u212a')

/-- The text behind the phrase, if the text begins with it. -/
def afterPhrase? : (phrase text : List Char) → Option (List Char)
  | [], cs => some cs
  | _ :: _, [] => none
  | p :: ps, c :: cs => if foldsTo p c then afterPhrase? ps cs else none

theorem length_of_afterPhrase? {phrase text rest : List Char} (h : afterPhrase? phrase text = some rest) :
    rest.length + phrase.length = text.length := by
  fun_induction afterPhrase? phrase text with
  | case1 cs => simp_all
  | case2 => simp at h
  | case3 p ps c cs _ ih => have := ih h; simp only [List.length_cons]; omega
  | case4 => simp at h

/-- The text behind the phrase, if the text begins with it and no word character follows it. -/
def afterWholePhrase? (phrase text : List Char) : Option (List Char) :=
  (afterPhrase? phrase text).filter endsWord

/-- The text behind the first place where the phrase begins after no word character and ends before none; `inWord` says
whether a word character precedes the text. -/
def afterWord? (phrase : List Char) (inWord : Bool) : List Char → Option (List Char)
  | [] => if inWord then none else afterWholePhrase? phrase []
  | c :: cs =>
    match if inWord then none else afterWholePhrase? phrase (c :: cs) with
    | some rest => some rest
    | none => afterWord? phrase (isWordChar c) cs

end MarketBrief.Text
