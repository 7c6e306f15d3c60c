import MarketBrief.Text.Basic

/-!
# Offsets in bytes

A character of a stored text takes up one to four bytes. Whoever cuts such a text by offsets in bytes can miss: the
offsets may be the wrong way round, lie behind the end, or fall inside a character.

* `width`, `bytes`: how many bytes characters take up, and which;
* `bytes_isPrefix_iff`, `exists_utf8EncodeChar_eq`: bytes that begin with those of a text begin with the text, and no
  character begins inside another one;
* `stretch?`: the text between two offsets, where there is one (`isSome_stretch?_iff`);
* `stretch?_append`: the offsets of a stretch that stands in a text;
* `placed`: the characters of a text, each with the offset at which it begins.
-/

namespace MarketBrief.Text

/-! ### Bytes -/

/-- The number of bytes that characters take up. -/
def width : List Char → Nat
  | [] => 0
  | c :: cs => c.utf8Size + width cs

@[simp] theorem width_nil : width [] = 0 := rfl

@[simp] theorem width_cons (c : Char) (cs : List Char) : width (c :: cs) = c.utf8Size + width cs := rfl

@[simp] theorem width_append (x y : List Char) : width (x ++ y) = width x + width y := by
  induction x with
  | nil => simp
  | cons c x ih => simp [ih, Nat.add_assoc]

theorem utf8ByteSize_ofList (cs : List Char) : (String.ofList cs).utf8ByteSize = width cs := by
  induction cs with
  | nil => rfl
  | cons c cs ih =>
    rw [← List.singleton_append, String.ofList_append, String.utf8ByteSize_append, ih, ← String.singleton_eq_ofList,
      String.utf8ByteSize_singleton]
    rfl

@[simp] theorem width_toList (s : String) : width s.toList = s.utf8ByteSize := by
  rw [← utf8ByteSize_ofList, String.ofList_toList]

def bytes (cs : List Char) : List UInt8 := cs.flatMap String.utf8EncodeChar

theorem bytes_cons (c : Char) (cs : List Char) : bytes (c :: cs) = String.utf8EncodeChar c ++ bytes cs :=
  List.flatMap_cons

theorem bytes_append (x y : List Char) : bytes (x ++ y) = bytes x ++ bytes y := List.flatMap_append

theorem length_bytes (cs : List Char) : (bytes cs).length = width cs := by
  induction cs with
  | nil => rfl
  | cons c cs ih => rw [bytes_cons, List.length_append, String.length_utf8EncodeChar, ih, width_cons]

/-- These are the bytes of which a stored text consists. -/
theorem bytes_toList (s : String) : bytes s.toList = s.toByteArray.data.toList := by
  rw [← String.utf8Encode_toList]
  simp [List.utf8Encode, bytes]

theorem bytes_isPrefix_iff {x y : List Char} : bytes x <+: bytes y ↔ x <+: y := by
  constructor
  · rintro ⟨rest, hrest⟩
    refine List.isPrefix_of_utf8Encode_append_eq_utf8Encode rest.toByteArray ?_
    have hencode := congrArg List.toByteArray hrest
    rwa [List.toByteArray_append] at hencode
  · rintro ⟨rest, rfl⟩
    exact ⟨bytes rest, (bytes_append x rest).symm⟩

/-- A character can be told by its first byte to begin there; its other bytes begin none. -/
theorem exists_utf8EncodeChar_eq (c : Char) :
    ∃ b bs, String.utf8EncodeChar c = b :: bs ∧ b.IsUTF8FirstByte ∧ ∀ d ∈ bs, ¬ d.IsUTF8FirstByte := by
  obtain ⟨b, bs, hcode⟩ := List.exists_cons_of_ne_nil (String.utf8EncodeChar_ne_nil (c := c))
  have hfirst : ∀ (i : Nat) (hi : i < (b :: bs).length), (b :: bs)[i].IsUTF8FirstByte ↔ i = 0 := by
    rw [← hcode]
    intro i hi
    exact UInt8.isUTF8FirstByte_getElem_utf8EncodeChar
  refine ⟨b, bs, hcode, (hfirst 0 (Nat.succ_pos _)).2 rfl, fun d hd hbegins => ?_⟩
  obtain ⟨i, hi, rfl⟩ := List.getElem_of_mem hd
  exact absurd ((hfirst (i + 1) (Nat.succ_lt_succ hi)).1 hbegins) (Nat.succ_ne_zero i)

/-! ### Stretches -/

/-- The text between two offsets. The first one must not be behind the second one, and both must be ends of the text or
places between two of its characters. -/
def stretch? (text : String) (low high : Nat) : Option String :=
  if h : low ≤ high ∧ String.Pos.Raw.IsValid text ⟨low⟩ ∧ String.Pos.Raw.IsValid text ⟨high⟩ then
    some (text.extract (text.pos ⟨low⟩ h.2.1) (text.pos ⟨high⟩ h.2.2))
  else
    none

theorem isSome_stretch?_iff {text : String} {low high : Nat} :
    (stretch? text low high).isSome = true ↔ low ≤ high ∧ high ≤ text.utf8ByteSize ∧
      String.Pos.Raw.IsValid text ⟨low⟩ ∧ String.Pos.Raw.IsValid text ⟨high⟩ := by
  unfold stretch?
  split
  · next h => exact iff_of_true rfl ⟨h.1, h.2.2.le_utf8ByteSize, h.2⟩
  · next h => exact iff_of_false Bool.noConfusion fun h' => h ⟨h'.1, h'.2.2⟩

theorem stretch?_append (before middle after : String) :
    stretch? (before ++ middle ++ after) before.utf8ByteSize (before.utf8ByteSize + middle.utf8ByteSize) =
      some middle := by
  have hlow : String.Pos.Raw.IsValid (before ++ middle ++ after) ⟨before.utf8ByteSize⟩ :=
    String.Pos.Raw.isValid_iff_exists_append.2 ⟨before, middle ++ after, String.append_assoc .., rfl⟩
  have hhigh : String.Pos.Raw.IsValid (before ++ middle ++ after) ⟨before.utf8ByteSize + middle.utf8ByteSize⟩ :=
    String.Pos.Raw.isValid_iff_exists_append.2 ⟨before ++ middle, after, rfl,
      String.Pos.Raw.ext String.utf8ByteSize_append.symm⟩
  unfold stretch?
  rw [dif_pos ⟨Nat.le_add_right _ _, hlow, hhigh⟩, Option.some_inj, ← String.toByteArray_inj,
    String.toByteArray_extract, String.offset_pos, String.offset_pos, String.toByteArray_append,
    String.toByteArray_append, ByteArray.append_assoc]
  -- what stands before the stretch takes up the bytes in front of it
  show (before.toByteArray ++ (middle.toByteArray ++ after.toByteArray)).extract (before.toByteArray.size + 0)
    (before.toByteArray.size + middle.toByteArray.size) = middle.toByteArray
  rw [ByteArray.extract_append_size_add, ByteArray.extract_append_eq_left rfl]

/-- The same for characters. -/
theorem stretch?_of_toList {text : String} (before middle after : List Char)
    (h : text.toList = before ++ middle ++ after) :
    stretch? text (width before) (width before + width middle) = some (String.ofList middle) := by
  have htext : text = String.ofList before ++ String.ofList middle ++ String.ofList after := by
    rw [← String.ofList_append, ← String.ofList_append, ← h, String.ofList_toList]
  rw [htext, ← utf8ByteSize_ofList, ← utf8ByteSize_ofList, stretch?_append]

/-! ### Characters and their offsets -/

/-- The characters of a text from an offset on, each with the offset at which it begins. -/
def placed (offset : Nat) : List Char → List (Nat × Char)
  | [] => []
  | c :: cs => (offset, c) :: placed (offset + c.utf8Size) cs

@[simp] theorem placed_nil (offset : Nat) : placed offset [] = [] := rfl

@[simp] theorem placed_cons (offset : Nat) (c : Char) (cs : List Char) :
    placed offset (c :: cs) = (offset, c) :: placed (offset + c.utf8Size) cs := rfl

theorem placed_append (offset : Nat) (x y : List Char) :
    placed offset (x ++ y) = placed offset x ++ placed (offset + width x) y := by
  induction x generalizing offset with
  | nil => rfl
  | cons c x ih => simp [ih, Nat.add_assoc]

@[simp] theorem map_snd_placed (offset : Nat) (cs : List Char) : (placed offset cs).map Prod.snd = cs := by
  induction cs generalizing offset with
  | nil => rfl
  | cons c cs ih => simp [ih]

theorem takeWhile_placed (p : Char → Bool) (offset : Nat) (cs : List Char) :
    (placed offset cs).takeWhile (p ·.2) = placed offset (cs.takeWhile p) := by
  induction cs generalizing offset with
  | nil => rfl
  | cons c cs ih => by_cases hc : p c = true <;> simp [hc, ih]

theorem dropWhile_placed (p : Char → Bool) (offset : Nat) (cs : List Char) :
    (placed offset cs).dropWhile (p ·.2) = placed (offset + width (cs.takeWhile p)) (cs.dropWhile p) := by
  induction cs generalizing offset with
  | nil => rfl
  | cons c cs ih => by_cases hc : p c = true <;> simp [hc, ih, Nat.add_assoc]

/-- The offset at which the next character begins or, if there is none, the text ends. -/
def nextOffset (stop : Nat) (cs : List (Nat × Char)) : Nat := (cs.head?.map Prod.fst).getD stop

theorem nextOffset_placed {stop offset : Nat} {cs : List Char} (h : stop = offset + width cs) :
    nextOffset stop (placed offset cs) = offset := by
  cases cs with
  | nil => exact h
  | cons c cs => rfl

end MarketBrief.Text
