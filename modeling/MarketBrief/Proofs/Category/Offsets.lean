import MarketBrief.Proofs.Category.Detection
import MarketBrief.Proofs.Text.Offsets

/-!
# Keywords found by offsets

The same search as that in a list of characters, in the bytes of the stored text. It knows nothing of characters, yet it
finds a keyword only where one of them begins; so what stands before and behind a place can be cut out of the text.

* `foundAt`: the offsets at which bytes are found in other bytes;
* `countsAt?`, `countOccurrencesAt?`: whether a place counts, and how many do;
* `foundAt_of_found`, `foundAt_of_not_found`: the search at a keyword and at any other character;
* `countsAt?_eq`, `countOccurrencesAt?_eq`: no cut misses, and the count is that of the list.
-/

namespace MarketBrief.Category

open Text Unicode

/-- The offsets at which a keyword is found, from an offset on. Places do not overlap. -/
def foundAt (keyword : List UInt8) (offset : Nat) : List UInt8 → List Nat
  | [] => []
  | b :: bs =>
    if keyword ≠ [] ∧ keyword.isPrefixOf (b :: bs) then
      offset :: foundAt keyword (offset + keyword.length) ((b :: bs).drop keyword.length)
    else foundAt keyword (offset + 1) bs
termination_by bs => bs.length
decreasing_by
  · have : 0 < keyword.length := List.length_pos_iff.2 (by grind)
    simp only [List.length_drop, List.length_cons]
    omega
  · simp

/-- Whether the keyword counts where it is found: it begins a word and, if it is short, ends it. -/
def countsAt? (text keyword : String) (offset : Nat) : Option Bool := do
  let before ← stretch? text 0 offset
  if before.toList.getLast?.any isAlphanumeric then return false
  else if isShort keyword.toList then
    let behind ← stretch? text (offset + keyword.utf8ByteSize) text.utf8ByteSize
    return !behind.toList.head?.any isAlphanumeric
  else return true

/-- How often a keyword occurs in a text where it counts. -/
def countOccurrencesAt? (text keyword : String) : Option Nat :=
  if keyword = "" then some 0
  else do
    let counted ← (foundAt keyword.toByteArray.data.toList 0 text.toByteArray.data.toList).mapM (countsAt? text keyword)
    return counted.count true

/-! ### The search in bytes -/

theorem foundAt_of_found {keyword : List UInt8} (hne : keyword ≠ []) (offset : Nat) (rest : List UInt8) :
    foundAt keyword offset (keyword ++ rest) = offset :: foundAt keyword (offset + keyword.length) rest := by
  obtain ⟨b, bs, rfl⟩ := List.exists_cons_of_ne_nil hne
  have hfound : b :: bs ≠ [] ∧ (b :: bs).isPrefixOf (b :: (bs ++ rest)) :=
    ⟨hne, List.isPrefixOf_iff_prefix.2 (List.prefix_append (b :: bs) rest)⟩
  rw [List.cons_append, foundAt, if_pos hfound, ← List.cons_append, List.drop_left]

/-- Bytes at which no character begins are passed over. -/
theorem foundAt_of_inside {keyword : List UInt8} (hfirst : ∀ b ∈ keyword.head?, b.IsUTF8FirstByte) {inside : List UInt8}
    (hinside : ∀ b ∈ inside, ¬ b.IsUTF8FirstByte) (offset : Nat) (rest : List UInt8) :
    foundAt keyword offset (inside ++ rest) = foundAt keyword (offset + inside.length) rest := by
  induction inside generalizing offset with
  | nil => rfl
  | cons d inside ih =>
    obtain ⟨hd, hinside⟩ := List.forall_mem_cons.1 hinside
    have hnot : ¬ (keyword ≠ [] ∧ keyword.isPrefixOf (d :: (inside ++ rest))) := by
      rintro ⟨hne, hpre⟩
      obtain ⟨b, bs, rfl⟩ := List.exists_cons_of_ne_nil hne
      obtain ⟨rfl, -⟩ := List.cons_prefix_cons.1 (List.isPrefixOf_iff_prefix.1 hpre)
      exact hd (hfirst b rfl)
    rw [List.cons_append, foundAt, if_neg hnot, ih hinside, List.length_cons, Nat.add_assoc, Nat.add_comm 1]

theorem isUTF8FirstByte_of_mem_head?_bytes (cs : List Char) : ∀ b ∈ (bytes cs).head?, b.IsUTF8FirstByte := by
  intro b hb
  cases cs with
  | nil => exact absurd hb (Option.not_mem_none b)
  | cons c cs =>
    obtain ⟨d, ds, hcode, hfirst, -⟩ := exists_utf8EncodeChar_eq c
    rw [bytes_cons, hcode] at hb
    obtain rfl : d = b := Option.some.inj hb
    exact hfirst

/-- Where the keyword does not stand, the search goes on at the next character. -/
theorem foundAt_of_not_found {keyword : List Char} {c : Char} {cs : List Char} (h : ¬ keyword <+: c :: cs)
    (offset : Nat) :
    foundAt (bytes keyword) offset (bytes (c :: cs)) = foundAt (bytes keyword) (offset + c.utf8Size) (bytes cs) := by
  obtain ⟨b, bs, hcode, -, hinside⟩ := exists_utf8EncodeChar_eq c
  have hsize : c.utf8Size = 1 + bs.length := by
    rw [← String.length_utf8EncodeChar, hcode, List.length_cons, Nat.add_comm]
  have hnot : ¬ (bytes keyword ≠ [] ∧ (bytes keyword).isPrefixOf (b :: (bs ++ bytes cs))) := by
    rintro ⟨-, hpre⟩
    have hbytes : bytes (c :: cs) = b :: (bs ++ bytes cs) := by rw [bytes_cons, hcode, List.cons_append]
    exact h (bytes_isPrefix_iff.1 (hbytes ▸ List.isPrefixOf_iff_prefix.1 hpre))
  rw [bytes_cons, hcode, List.cons_append, foundAt, if_neg hnot,
    foundAt_of_inside (isUTF8FirstByte_of_mem_head?_bytes keyword) hinside, hsize, Nat.add_assoc]

/-! ### The places that count -/

theorem countsAt?_eq {text keyword : String} {before behind : List Char}
    (h : text.toList = before ++ keyword.toList ++ behind) :
    countsAt? text keyword (width before) = some (counts keyword.toList (before.getLast?, behind)) := by
  have hsize : text.utf8ByteSize = width before + keyword.utf8ByteSize + width behind := by
    rw [← width_toList, h, width_append, width_append, width_toList]
  have hbefore : stretch? text 0 (width before) = some (String.ofList before) := by
    rw [← Nat.zero_add (width before)]
    exact stretch?_of_toList [] before (keyword.toList ++ behind) (by rw [h, List.append_assoc]; rfl)
  have hbehind :
      stretch? text (width before + keyword.utf8ByteSize) text.utf8ByteSize = some (String.ofList behind) := by
    rw [hsize, ← width_toList keyword, ← width_append]
    exact stretch?_of_toList (before ++ keyword.toList) behind [] (by rw [h, List.append_nil])
  unfold countsAt? counts
  rw [hbefore, hbehind]
  simp only [Option.bind_eq_bind, Option.bind_some, String.toList_ofList, Option.pure_def]
  split
  · next hword => simp [hword]
  · next hword =>
    split
    · next hshort => simp [hword, hshort]
    · next hshort => simp [hword, hshort]

/-- The invariant of the search: the text up to the offset is `done`. -/
theorem mapM_foundAt_eq (text : String) {keyword : String} (hne : keyword.toList ≠ []) (done : List Char)
    (before? : Option Char) (cs : List Char) (hbefore : before? = done.getLast?) (htext : text.toList = done ++ cs) :
    (foundAt (bytes keyword.toList) (width done) (bytes cs)).mapM (countsAt? text keyword) =
      some ((occurrencesAfter keyword.toList before? cs).map (counts keyword.toList)) := by
  have hbytes : bytes keyword.toList ≠ [] := by
    intro hnil
    have hprefix : bytes keyword.toList <+: bytes [] := by rw [hnil]; exact List.nil_prefix
    exact hne (List.prefix_nil.1 (bytes_isPrefix_iff.1 hprefix))
  fun_induction occurrencesAfter keyword.toList before? cs generalizing done with
  | case1 before? =>
    rw [show bytes [] = [] from rfl, foundAt]
    rfl
  | case2 before? c cs hfound rest ih =>
    have hparts : keyword.toList ++ rest = c :: cs :=
      List.prefix_iff_eq_append.1 (List.isPrefixOf_iff_prefix.1 hfound.2)
    clear_value rest
    rw [← hparts, ← List.append_assoc] at htext
    have hlast : keyword.toList.getLast? = (done ++ keyword.toList).getLast? :=
      (List.getLast?_append_of_ne_nil _ hne).symm
    have hnext := ih (done ++ keyword.toList) hlast htext
    rw [← hparts, bytes_append, foundAt_of_found hbytes, length_bytes, ← width_append, List.mapM_cons,
      countsAt?_eq htext, hnext, hbefore]
    rfl
  | case3 before? c cs hnot ih =>
    have hstep : ¬ keyword.toList <+: c :: cs := fun hpre => hnot ⟨hne, List.isPrefixOf_iff_prefix.2 hpre⟩
    have hnext := ih (done ++ [c]) (by simp) (by rw [htext, List.append_assoc, List.singleton_append])
    rw [width_append] at hnext
    rw [foundAt_of_not_found hstep]
    exact hnext

/-- The empty keyword is found nowhere. -/
theorem occurrencesAfter_nil (before? : Option Char) (text : List Char) : occurrencesAfter [] before? text = [] := by
  induction text generalizing before? with
  | nil => simp only [occurrencesAfter]
  | cons c text ih => rw [occurrencesAfter_of_not_found (fun h => h.1 rfl), ih]

/-- No cut misses, and the places that count are those in the list of characters. -/
theorem countOccurrencesAt?_eq (text keyword : String) :
    countOccurrencesAt? text keyword = some (countOccurrences text keyword) := by
  unfold countOccurrencesAt? countOccurrences
  split
  · next hempty => rw [hempty, String.toList_empty, occurrencesAfter_nil, List.countP_nil]
  · next hne =>
    have hne' : keyword.toList ≠ [] := by simpa using hne
    have hsearch := mapM_foundAt_eq text hne' [] none text.toList rfl rfl
    rw [width_nil, bytes_toList, bytes_toList] at hsearch
    rw [hsearch]
    simp only [Option.bind_eq_bind, Option.bind_some, Option.pure_def, Option.some_inj, List.count, List.countP_map]
    refine List.countP_congr fun place _ => ?_
    simp

end MarketBrief.Category
