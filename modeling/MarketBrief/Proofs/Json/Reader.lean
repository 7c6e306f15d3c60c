import MarketBrief.Json.Printer
import MarketBrief.Json.Reader
import MarketBrief.Proofs.Json.Quoted

/-!
# Written values are read back

The reader takes one token at a time. Behind the text of a value it stands where it stood before, with the value
complete; what follows the text, and how it is laid out, does not matter.

* `State.after?`: the state of the reader behind a text;
* `Reads`: a text is read as a value, wherever a value may stand;
* `reads_array`, `reads_object`: the texts of arrays and objects, with blanks between their tokens;
* `Value.IsTextual`: the values without numbers, in which every string has a text;
* `reads_compact`, `reads_prettyAt`: both written forms of such a value are read as the value.
-/

namespace MarketBrief.Json

/-! ### The reader behind a text -/

/-- The state behind the tokens of a text, if each of them may come. -/
def State.after? (s : State) (cs : List Char) : Option State := Token.scan cs >>= fun tokens => tokens.foldlM State.step s

theorem read?_ofList (cs : List Char) :
    Value.read? (String.ofList cs) = (State.value []).after? cs >>= State.result? := by
  rw [Value.read?, String.toList_ofList, State.after?]
  cases Token.scan cs <;> rfl

section After

variable (s : State)

theorem after?_nil : s.after? [] = some s := by
  rw [State.after?, Token.scan]
  rfl

theorem after?_of_isSpace {c : Char} (h : isSpace c = true) (cs : List Char) : s.after? (c :: cs) = s.after? cs := by
  rw [State.after?, Token.scan, if_pos h, State.after?]

theorem after?_blanks {blanks : List Char} (h : ∀ c ∈ blanks, isSpace c = true) (cs : List Char) :
    s.after? (blanks ++ cs) = s.after? cs := by
  induction blanks with
  | nil => rfl
  | cons b blanks ih =>
    obtain ⟨hb, hblanks⟩ := List.forall_mem_cons.1 h
    rw [List.cons_append, after?_of_isSpace s hb, ih hblanks]

theorem after?_of_next? {c : Char} {cs rest : List Char} {t : Token} (hspace : isSpace c = false)
    (h : Token.next? (c :: cs) = some (t, rest)) : s.after? (c :: cs) = s.step t >>= (·.after? rest) := by
  have hscan : Token.scan (c :: cs) = (Token.scan rest).map (t :: ·) := by
    rw [Token.scan, if_neg (by simp [hspace])]
    split
    · next hnone => simp [h] at hnone
    · next t' rest' hsome =>
      rw [h] at hsome
      cases hsome
      rfl
  unfold State.after?
  rw [hscan]
  cases Token.scan rest with
  | none => cases s.step t <;> rfl
  | some tokens => rfl

/-- A mark is a token by itself. -/
theorem after?_mark (c : Char) (t : Token) (cs : List Char) (hspace : isSpace c = false := by decide)
    (hnext : ∀ cs, Token.next? (c :: cs) = some (t, cs) := by intro; rfl) :
    s.after? (c :: cs) = s.step t >>= (·.after? cs) :=
  after?_of_next? s hspace (hnext cs)

theorem after?_quotedText (text : String) (cs : List Char) :
    s.after? (quotedText (some text) ++ cs) = s.step (.string (some text)) >>= (·.after? cs) := by
  obtain ⟨pieces, hscan, htext⟩ := exists_scanQuoted_escape text.toList cs
  have hnext : Token.next? ('"' :: (escape text.toList ++ '"' :: cs)) = some (.string (some text), cs) := by
    simp [Token.next?, hscan, htext]
  have hwritten : quotedText (some text) ++ cs = '"' :: (escape text.toList ++ '"' :: cs) := by
    simp [quotedText, quoted]
  rw [hwritten, after?_of_next? s (by decide) hnext]

end After

/-! ### Texts of values -/

/-- A value may come here, and the arrays and objects `around` are open. -/
def State.Awaits (s : State) (around : List Open) : Prop := ∀ t, t ≠ .closeArray → s.step t = beginValue around t

theorem awaits_value (around : List Open) : (State.value around).Awaits around := fun _ _ => rfl

theorem awaits_arrayStart (around : List Open) : (State.arrayStart around).Awaits (.array [] :: around) := by
  intro t ht
  cases t with
  | closeArray => exact absurd rfl ht
  | _ => rfl

/-- The text is read as the value, wherever a value may stand and whatever follows. -/
def Reads (cs : List Char) (v : Value) : Prop :=
  ∀ s around rest, State.Awaits s around → s.after? (cs ++ rest) = (State.complete v around).after? rest

/-- The text ends an array, of which it holds the items behind the first one. -/
def EndsArray (cs : List Char) (items : List Value) : Prop :=
  ∀ v done around rest, (State.complete v (.array done :: around)).after? (cs ++ rest) =
    (State.complete (.array (done.reverse ++ v :: items)) around).after? rest

/-- The text ends an object, of which it holds the members behind the first one. -/
def EndsObject (cs : List Char) (members : List (String × Value)) : Prop :=
  ∀ name v done around rest, (State.complete v (.member done (some name) :: around)).after? (cs ++ rest) =
    (State.complete (.object (done.reverse ++ (some name, v) :: members.map fun (name, v) => (some name, v))) around).after?
      rest

theorem reads_of_next? {c : Char} {cs : List Char} {t : Token} {v : Value} (hspace : isSpace c = false)
    (hnext : ∀ rest, Token.next? (c :: (cs ++ rest)) = some (t, rest)) (hclose : t ≠ .closeArray)
    (hstep : ∀ around, State.beginValue around t = some (.complete v around)) : Reads (c :: cs) v := by
  intro s around rest hs
  rw [List.cons_append, after?_of_next? s hspace (hnext rest), hs t hclose, hstep]
  rfl

theorem reads_null : Reads ['n', 'u', 'l', 'l'] .null :=
  reads_of_next? (by decide) (fun _ => rfl) (by simp) fun _ => rfl

theorem reads_bool (b : Bool) : Reads (Value.bool b).compact (.bool b) := by
  cases b with
  | true => exact reads_of_next? (by decide) (fun _ => rfl) (by simp) fun _ => rfl
  | false => exact reads_of_next? (by decide) (fun _ => rfl) (by simp) fun _ => rfl

theorem reads_ofText (text : String) : Reads (quotedText (some text)) (.ofText text) := by
  intro s around rest hs
  rw [after?_quotedText, hs _ (by simp)]
  rfl

/-! ### Texts of arrays -/

section Layout

variable {blanks : List Char} (hblanks : ∀ c ∈ blanks, isSpace c = true)

include hblanks

theorem endsArray_nil : EndsArray (blanks ++ [']']) [] := by
  intro v done around rest
  rw [List.append_assoc, after?_blanks _ hblanks, List.singleton_append, after?_mark _ ']' .closeArray, ← List.reverse_cons]
  rfl

/-- Where the next item of an array may come, the rest of the array follows. -/
theorem after?_items {s : State} {done : List Value} {around : List Open} (hs : s.Awaits (.array done :: around)) {v : Value}
    {items : List Value} {cs more : List Char} (hv : Reads cs v) (hmore : EndsArray more items) (rest : List Char) :
    s.after? (blanks ++ (cs ++ more) ++ rest) =
      (State.complete (.array (done.reverse ++ v :: items)) around).after? rest := by
  rw [List.append_assoc, after?_blanks _ hblanks, List.append_assoc, hv _ _ _ hs, hmore]

theorem endsArray_cons {v : Value} {items : List Value} {cs more : List Char} (hv : Reads cs v)
    (hmore : EndsArray more items) : EndsArray (',' :: (blanks ++ (cs ++ more))) (v :: items) := by
  intro first done around rest
  rw [List.cons_append, after?_mark _ ',' .comma]
  show (State.value (.array (first :: done) :: around)).after? _ = _
  rw [after?_items hblanks (awaits_value _) hv hmore, List.reverse_cons, List.append_assoc, List.singleton_append]

theorem reads_array {v : Value} {items : List Value} {cs more : List Char} (hv : Reads cs v)
    (hmore : EndsArray more items) : Reads ('[' :: (blanks ++ (cs ++ more))) (.array (v :: items)) := by
  intro s around rest hs
  rw [List.cons_append, after?_mark _ '[' .openArray, hs _ (by simp)]
  show (State.arrayStart around).after? _ = _
  rw [after?_items hblanks (awaits_arrayStart _) hv hmore, List.reverse_nil, List.nil_append]

end Layout

theorem reads_array_nil : Reads ['[', ']'] (.array []) := by
  intro s around rest hs
  rw [List.cons_append, after?_mark _ '[' .openArray, hs _ (by simp)]
  show (State.arrayStart around).after? (']' :: rest) = _
  rw [after?_mark _ ']' .closeArray]
  rfl

/-! ### Texts of objects -/

section Layout

variable {blanks gap : List Char} (hblanks : ∀ c ∈ blanks, isSpace c = true)

include hblanks

theorem endsObject_nil : EndsObject (blanks ++ ['\x7d']) [] := by
  intro name v done around rest
  rw [List.append_assoc, after?_blanks _ hblanks, List.singleton_append, after?_mark _ '\x7d' .closeObject, List.map_nil,
    ← List.reverse_cons]
  rfl

variable (hgap : ∀ c ∈ gap, isSpace c = true)

include hgap

/-- Where the next name of an object may come, the rest of the object follows. -/
theorem after?_members {s : State} {name : String} {done : List (Option String × Value)} {around : List Open}
    (hs : s.step (.string (some name)) = some (.colon done (some name) around)) {v : Value}
    {members : List (String × Value)} {cs more : List Char} (hv : Reads cs v) (hmore : EndsObject more members)
    (rest : List Char) :
    s.after? (blanks ++ (quotedText (some name) ++ ':' :: (gap ++ (cs ++ more))) ++ rest) =
      (State.complete (.object (done.reverse ++ ((name, v) :: members).map fun (name, v) => (some name, v))) around).after?
        rest := by
  rw [List.append_assoc, after?_blanks _ hblanks, List.append_assoc, after?_quotedText, hs]
  show (State.colon done (some name) around).after? _ = _
  rw [List.cons_append, after?_mark _ ':' .colon]
  show (State.value (.member done (some name) :: around)).after? _ = _
  rw [List.append_assoc, after?_blanks _ hgap, List.append_assoc, hv _ _ _ (awaits_value _), hmore, List.map_cons]

theorem endsObject_cons {v : Value} {members : List (String × Value)} {cs more : List Char} (name : String)
    (hv : Reads cs v) (hmore : EndsObject more members) :
    EndsObject (',' :: (blanks ++ (quotedText (some name) ++ ':' :: (gap ++ (cs ++ more))))) ((name, v) :: members) := by
  intro before first done around rest
  rw [List.cons_append, after?_mark _ ',' .comma]
  show (State.nextName ((some before, first) :: done) around).after? _ = _
  rw [after?_members hblanks hgap rfl hv hmore, List.reverse_cons, List.append_assoc, List.singleton_append]

theorem reads_object {v : Value} {members : List (String × Value)} {cs more : List Char} (name : String)
    (hv : Reads cs v) (hmore : EndsObject more members) :
    Reads ('\x7b' :: (blanks ++ (quotedText (some name) ++ ':' :: (gap ++ (cs ++ more)))))
      (.record ((name, v) :: members)) := by
  intro s around rest hs
  rw [List.cons_append, after?_mark _ '\x7b' .openObject, hs _ (by simp)]
  show (State.objectStart around).after? _ = _
  rw [after?_members hblanks hgap rfl hv hmore, List.reverse_nil, List.nil_append]
  rfl

end Layout

theorem reads_record_nil : Reads ['\x7b', '\x7d'] (.record []) := by
  intro s around rest hs
  rw [List.cons_append, after?_mark _ '\x7b' .openObject, hs _ (by simp)]
  show (State.objectStart around).after? ('\x7d' :: rest) = _
  rw [after?_mark _ '\x7d' .closeObject]
  rfl

/-! ### Written values -/

/-- A value without numbers, in which every string has a text. -/
inductive Value.IsTextual : Value → Prop
  | null : IsTextual .null
  | bool (b : Bool) : IsTextual (.bool b)
  | text (text : String) : IsTextual (.ofText text)
  | array {items : List Value} (h : ∀ v ∈ items, IsTextual v) : IsTextual (.array items)
  | record {members : List (String × Value)} (h : ∀ m ∈ members, IsTextual m.2) : IsTextual (.record members)

theorem forall_isSpace_nil : ∀ c ∈ ([] : List Char), isSpace c = true := by simp

theorem endsArray_compactItems {items : List Value} (h : ∀ v ∈ items, Reads v.compact v) :
    EndsArray (compactItems items) items := by
  induction items with
  | nil => exact endsArray_nil forall_isSpace_nil
  | cons v items ih =>
    obtain ⟨hv, hitems⟩ := List.forall_mem_cons.1 h
    exact endsArray_cons forall_isSpace_nil hv (ih hitems)

theorem endsObject_compactMembers {members : List (String × Value)} (h : ∀ m ∈ members, Reads m.2.compact m.2) :
    EndsObject (compactMembers (members.map fun (name, v) => (some name, v))) members := by
  induction members with
  | nil => exact endsObject_nil forall_isSpace_nil
  | cons m members ih =>
    obtain ⟨name, v⟩ := m
    obtain ⟨hv, hmembers⟩ := List.forall_mem_cons.1 h
    have hends := endsObject_cons forall_isSpace_nil forall_isSpace_nil name hv (ih hmembers)
    rw [List.map_cons, compactMembers]
    simpa using hends

theorem reads_compact {v : Value} (h : v.IsTextual) : Reads v.compact v := by
  induction h with
  | null => exact reads_null
  | bool b => exact reads_bool b
  | text text => exact reads_ofText text
  | @array items _ ih =>
    cases items with
    | nil => exact reads_array_nil
    | cons v items =>
      obtain ⟨hv, hitems⟩ := List.forall_mem_cons.1 ih
      exact reads_array forall_isSpace_nil hv (endsArray_compactItems hitems)
  | @record members _ ih =>
    cases members with
    | nil => exact reads_record_nil
    | cons m members =>
      obtain ⟨name, v⟩ := m
      obtain ⟨hv, hmembers⟩ := List.forall_mem_cons.1 ih
      have hreads := reads_object forall_isSpace_nil forall_isSpace_nil name hv (endsObject_compactMembers hmembers)
      rw [Value.record, List.map_cons, Value.compact]
      simpa [Value.record] using hreads

/-! ### Indented values -/

theorem forall_isSpace_newLine (depth : Nat) : ∀ c ∈ newLine depth, isSpace c = true := by
  intro c hc
  rcases List.mem_cons.1 hc with rfl | hc
  · decide
  · rw [List.eq_of_mem_replicate hc]
    decide

theorem forall_isSpace_blank : ∀ c ∈ [' '], isSpace c = true := List.forall_mem_singleton.2 rfl

theorem endsArray_prettyItems {items : List Value} (depth : Nat)
    (h : ∀ v ∈ items, Reads (v.prettyAt (depth + 1)) v) : EndsArray (prettyItems depth items) items := by
  induction items with
  | nil => exact endsArray_nil (forall_isSpace_newLine depth)
  | cons v items ih =>
    obtain ⟨hv, hitems⟩ := List.forall_mem_cons.1 h
    have hends := endsArray_cons (forall_isSpace_newLine (depth + 1)) hv (ih hitems)
    rw [prettyItems]
    simpa using hends

theorem endsObject_prettyMembers {members : List (String × Value)} (depth : Nat)
    (h : ∀ m ∈ members, Reads (m.2.prettyAt (depth + 1)) m.2) :
    EndsObject (prettyMembers depth (members.map fun (name, v) => (some name, v))) members := by
  induction members with
  | nil => exact endsObject_nil (forall_isSpace_newLine depth)
  | cons m members ih =>
    obtain ⟨name, v⟩ := m
    obtain ⟨hv, hmembers⟩ := List.forall_mem_cons.1 h
    have hends := endsObject_cons (forall_isSpace_newLine (depth + 1)) forall_isSpace_blank name hv (ih hmembers)
    rw [List.map_cons, prettyMembers]
    simpa using hends

theorem reads_prettyAt {v : Value} (h : v.IsTextual) (depth : Nat) : Reads (v.prettyAt depth) v := by
  induction h generalizing depth with
  | null => exact reads_null
  | bool b => exact reads_bool b
  | text text => exact reads_ofText text
  | @array items _ ih =>
    cases items with
    | nil => exact reads_array_nil
    | cons v items =>
      obtain ⟨hv, hitems⟩ := List.forall_mem_cons.1 ih
      have hreads := reads_array (forall_isSpace_newLine (depth + 1)) (hv (depth + 1))
        (endsArray_prettyItems depth fun v hmem => hitems v hmem (depth + 1))
      rw [Value.prettyAt]
      simpa using hreads
  | @record members _ ih =>
    cases members with
    | nil => exact reads_record_nil
    | cons m members =>
      obtain ⟨name, v⟩ := m
      obtain ⟨hv, hmembers⟩ := List.forall_mem_cons.1 ih
      have hreads := reads_object (forall_isSpace_newLine (depth + 1)) forall_isSpace_blank name (hv (depth + 1))
        (endsObject_prettyMembers depth fun m hmem => hmembers m hmem (depth + 1))
      rw [Value.record, List.map_cons, Value.prettyAt]
      simpa [Value.record] using hreads

/-! ### Whole texts -/

theorem read?_of_reads {cs blanks : List Char} {v : Value} (h : Reads cs v) (hblanks : ∀ c ∈ blanks, isSpace c = true) :
    Value.read? (String.ofList (cs ++ blanks)) = some v := by
  have hrest := after?_blanks (.complete v []) hblanks []
  rw [List.append_nil, after?_nil] at hrest
  rw [read?_ofList, h _ _ _ (awaits_value []), hrest]
  rfl

end MarketBrief.Json
