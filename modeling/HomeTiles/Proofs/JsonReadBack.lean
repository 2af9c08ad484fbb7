import HomeTiles.Proofs.NumberReading

/-!
# Reading undoes writing

`readText_quoted` reads a text in quotes back, every escape and every pair of
units in it. `readValue_render` does so for whole values in either layout, by
induction over the parts of the value: the fuel needed is at most the length of
the text. `read_of_write` says what comes of it for whole texts, and
`textual_of_read` that a text never gives anything but a value that texts hold.
-/

namespace HomeTiles.JsonReader

open JsonWriter

/-! ## Texts in quotes -/

private theorem hexValue?_digitChar {n : Nat} (small : n < 16) : hexValue? n.digitChar = some n := by
  revert n
  decide

private theorem unit?_digits {n : Nat} (small : n < 0x10000) :
    unit? (n / 4096 % 16).digitChar (n / 256 % 16).digitChar (n / 16 % 16).digitChar (n % 16).digitChar = some n := by
  have digit : ∀ m, hexValue? (m % 16).digitChar = some (m % 16) := fun m =>
    hexValue?_digitChar (Nat.mod_lt m (by decide))
  simp only [unit?, digit, Option.some.injEq]
  omega

private theorem readEscape_unit {n : Nat} (small : n < 0x10000) (alone : opensPair n = false ∧ closesPair n = false)
    (rest : List Char) : readEscape ((unitEscape n).tail ++ rest) = .ok (Char.ofNat n, rest) := by
  simp [unitEscape, readEscape, unit?_digits small, unitChar, alone.1, alone.2]

private theorem readEscape_pair {first second : Nat} (opens : opensPair first = true) (closes : closesPair second = true)
    (rest : List Char) :
    readEscape ((unitEscape first).tail ++ (unitEscape second ++ rest)) = .ok (pairChar first second, rest) := by
  have small : first < 0x10000 ∧ second < 0x10000 := by
    simp only [opensPair, closesPair, Bool.and_eq_true, decide_eq_true_eq] at opens closes
    omega
  simp [unitEscape, readEscape, unit?_digits small.1, unit?_digits small.2, opens, closes]

/-- The character after an escape joins those already seen. -/
private theorem readChars_backslash {fuel : Nat} {seen cs more : List Char} {c : Char}
    (escaped : readEscape cs = .ok (c, more)) :
    readChars (fuel + 1) seen ('\\' :: cs) = readChars fuel (c :: seen) more := by
  simp [readChars, escaped]

/-- However a character is written, it is read as itself. -/
private theorem readChars_escape (fuel : Nat) (seen : List Char) (c : Char) (more : List Char) :
    readChars (fuel + 1) seen (escape c ++ more) = readChars fuel (c :: seen) more := by
  have valid : c.toNat < 0xd800 ∨ 0xdfff < c.toNat ∧ c.toNat < 0x110000 := c.valid
  have itself : Char.ofNat c.toNat = c := Char.ofNat_toNat c
  unfold escape
  split_ifs with quote backslash feed carriage tab form back plain unit
  · subst quote
    exact readChars_backslash rfl
  · subst backslash
    exact readChars_backslash rfl
  · subst feed
    exact readChars_backslash rfl
  · subst carriage
    exact readChars_backslash rfl
  · subst tab
    exact readChars_backslash rfl
  · subst form
    exact readChars_backslash rfl
  · subst back
    exact readChars_backslash rfl
  · have visible : ¬ c.toNat < 0x20 := Nat.not_lt.mpr plain.1
    rw [List.singleton_append, readChars.eq_def]
    split
    · contradiction
    · next same =>
      injection same with level
      subst level
      split
      · contradiction
      · next same => injection same with head _; exact absurd head quote
      · next same => injection same with head _; exact absurd head backslash
      · next same =>
        injection same with head tail
        subst head tail
        rw [if_neg visible]
  · have alone : opensPair c.toNat = false ∧ closesPair c.toNat = false := by
      simp only [opensPair, closesPair, Bool.and_eq_false_iff, decide_eq_false_iff_not]
      omega
    exact readChars_backslash ((readEscape_unit unit alone more).trans (by rw [itself]))
  · have opens : opensPair (0xd800 + (c.toNat - 0x10000) / 0x400) = true := by
      simp only [opensPair, Bool.and_eq_true, decide_eq_true_eq]
      omega
    have closes : closesPair (0xdc00 + (c.toNat - 0x10000) % 0x400) = true := by
      simp only [closesPair, Bool.and_eq_true, decide_eq_true_eq]
      omega
    have whole : pairChar (0xd800 + (c.toNat - 0x10000) / 0x400) (0xdc00 + (c.toNat - 0x10000) % 0x400) = c := by
      rw [pairChar, show 0x10000 + (0xd800 + (c.toNat - 0x10000) / 0x400 - 0xd800) * 0x400
        + (0xdc00 + (c.toNat - 0x10000) % 0x400 - 0xdc00) = c.toNat by omega, itself]
    rw [List.append_assoc]
    exact readChars_backslash ((readEscape_pair opens closes more).trans (by rw [whole]))

private theorem readChars_flatMap (cs seen rest : List Char) {fuel : Nat} (enough : cs.length < fuel) :
    readChars fuel seen (cs.flatMap escape ++ '"' :: rest) = .ok (String.ofList (seen.reverse ++ cs), rest) := by
  induction cs generalizing seen fuel with
  | nil =>
    obtain ⟨less, rfl⟩ : ∃ less, fuel = less + 1 := ⟨fuel - 1, by omega⟩
    simp [readChars]
  | cons c more ih =>
    obtain ⟨less, rfl⟩ : ∃ less, fuel = less + 1 := ⟨fuel - 1, by omega⟩
    rw [List.flatMap_cons, List.append_assoc, readChars_escape, ih (c :: seen) (by simpa using enough),
      List.reverse_cons, List.append_assoc, List.singleton_append]

private theorem length_le_flatMap_escape (cs : List Char) : cs.length ≤ (cs.flatMap escape).length := by
  induction cs with
  | nil => exact le_rfl
  | cons c more ih =>
    have some_char : 0 < (escape c).length := by
      unfold escape
      split_ifs <;> simp [unitEscape]
    rw [List.flatMap_cons, List.length_append, List.length_cons]
    omega

/-- A text in quotes is read as itself. -/
theorem readText_quoted (s : String) (rest : List Char) :
    readText (s.toList.flatMap escape ++ '"' :: rest) = .ok (s, rest) := by
  have length := length_le_flatMap_escape s.toList
  rw [readText, readChars_flatMap s.toList [] rest (by rw [List.length_append]; omega), List.reverse_nil,
    List.nil_append, String.ofList_toList]

/-! ## How texts begin -/

/-- A character that begins a value and is no bracket. -/
private def BeginsScalar (c : Char) : Prop := isBlank c = false ∧ c ≠ ']' ∧ c ≠ '[' ∧ c ≠ '\x7b'

private theorem beginsScalar_of_digit {c : Char} (digit : c.isDigit = true) : BeginsScalar c := by
  refine ⟨?_, ?_, ?_, ?_⟩
  · simp only [isBlank, Bool.or_eq_false_iff, decide_eq_false_iff_not]
    refine ⟨⟨⟨?_, ?_⟩, ?_⟩, ?_⟩ <;> (rintro rfl; exact absurd digit (by decide))
  all_goals
    rintro rfl
    exact absurd digit (by decide)

private theorem integer_begins (n : Int) : ∃ first more, integer n = first :: more ∧ BeginsScalar first := by
  obtain ⟨first, more, front⟩ := List.exists_cons_of_ne_nil (Nat.toDigits_ne_nil (n := n.natAbs) (b := 10))
  unfold integer
  split_ifs with below
  · exact ⟨'-', _, rfl, by unfold BeginsScalar; decide⟩
  · exact ⟨first, more, front, beginsScalar_of_digit
      (Nat.isDigit_of_mem_toDigits (by decide) (by decide) (front ▸ List.mem_cons_self))⟩

private theorem double_begins (x : Double) : ∃ first more, x.text jsonWords = first :: more ∧ BeginsScalar first := by
  cases x with
  | nan computed => exact ⟨'N', _, rfl, by unfold BeginsScalar; decide⟩
  | infinity negative =>
    cases negative
    · exact ⟨'I', _, rfl, by unfold BeginsScalar; decide⟩
    · exact ⟨'-', _, rfl, by unfold BeginsScalar; decide⟩
  | finite negative ordinal =>
    have body : ∃ first more, (if ordinal.val = 0 then ['0', '.', '0'] else (Decimal.shortest ordinal).text) =
        first :: more ∧ BeginsScalar first := by
      split_ifs with none
      · exact ⟨'0', _, rfl, beginsScalar_of_digit rfl⟩
      · obtain ⟨first, more, front, digit⟩ := text_begins_with_digit (Double.digits_shortest_ne_zero none)
        exact ⟨first, more, front, beginsScalar_of_digit digit⟩
    obtain ⟨first, more, front, begins⟩ := body
    rw [Double.text, front]
    cases negative
    · exact ⟨first, more, rfl, begins⟩
    · exact ⟨'-', first :: more, rfl, by unfold BeginsScalar; decide⟩

/-- No value's text begins with a blank or with the end of an array. -/
private theorem render_begins (layout : Layout) (level : Nat) (v : Value) :
    ∃ first more, v.render layout level = first :: more ∧ isBlank first = false ∧ first ≠ ']' := by
  cases v with
  | null => exact ⟨'n', _, rfl, by decide⟩
  | bool b =>
    cases b
    · exact ⟨'f', _, rfl, by decide⟩
    · exact ⟨'t', _, rfl, by decide⟩
  | int n =>
    obtain ⟨first, more, front, begins⟩ := integer_begins n
    exact ⟨first, more, by rw [Value.render, front], begins.1, begins.2.1⟩
  | float x =>
    obtain ⟨first, more, front, begins⟩ := double_begins x
    exact ⟨first, more, by rw [Value.render, front], begins.1, begins.2.1⟩
  | text s => exact ⟨'"', _, rfl, by decide⟩
  | array items =>
    cases items
    · exact ⟨'[', _, rfl, by decide⟩
    · exact ⟨'[', _, rfl, by decide⟩
  | object fields =>
    cases fields
    · exact ⟨'\x7b', _, rfl, by decide⟩
    · exact ⟨'\x7b', _, rfl, by decide⟩
  | handle b => exact ⟨'n', _, rfl, by decide⟩

/-! ## Blanks between the parts -/

private theorem skipBlanks_append {gap : List Char} (blank : ∀ c ∈ gap, isBlank c = true) (cs : List Char) :
    skipBlanks (gap ++ cs) = skipBlanks cs := List.dropWhile_append_of_pos blank

private theorem skipBlanks_cons {c : Char} (visible : isBlank c = false) (cs : List Char) :
    skipBlanks (c :: cs) = c :: cs := by
  simp [skipBlanks, visible]

private theorem lineBreak_blank (layout : Layout) (level : Nat) : ∀ c ∈ layout.lineBreak level, isBlank c = true := by
  intro c inside
  cases layout with
  | compact => cases inside
  | indented step =>
    rcases List.mem_cons.mp inside with same | later
    · rw [same]
      rfl
    · rw [List.eq_of_mem_replicate later]
      rfl

private theorem separator_comma (layout : Layout) (level : Nat) :
    ∃ gap, layout.separator level = ',' :: gap ∧ ∀ c ∈ gap, isBlank c = true := by
  cases layout with
  | compact =>
    refine ⟨[' '], rfl, fun c inside => ?_⟩
    rw [List.mem_singleton.mp inside]
    rfl
  | indented step => exact ⟨_, rfl, lineBreak_blank (.indented step) level⟩

private theorem endsNumber_separator (layout : Layout) (level : Nat) (rest : List Char) :
    EndsNumber (layout.separator level ++ rest) := by
  obtain ⟨gap, comma, _⟩ := separator_comma layout level
  rw [comma, List.cons_append]
  exact endsNumber_cons _ (by decide)

private theorem endsNumber_lineBreak (layout : Layout) (level : Nat) (bracket : Char) (rest : List Char)
    (other : bracket.isDigit = false ∧ bracket ≠ '.' ∧ bracket ≠ 'e' ∧ bracket ≠ 'E') :
    EndsNumber (layout.lineBreak level ++ bracket :: rest) := by
  cases layout with
  | compact => exact endsNumber_cons _ other
  | indented step => exact endsNumber_cons _ (by decide)

/-! ## Values -/

/-- The text of a value is read as the settled value, whatever comes after it. -/
private def ReadsBack (layout : Layout) (v : Value) : Prop :=
  ∀ level fuel rest, (v.render layout level).length ≤ fuel → EndsNumber rest →
    readValue (some digitLimit) fuel (v.render layout level ++ rest) = .ok (v.settled, rest)

private theorem readValue_scalar {limit : Option Nat} {first : Char} (begins : BeginsScalar first) (fuel : Nat)
    (more : List Char) : readValue limit (fuel + 1) (first :: more) = readScalar limit (first :: more) := by
  rw [readValue.eq_def]
  dsimp only
  split
  · next same => injection same with head _; exact absurd head begins.2.2.1
  · next same => injection same with head _; exact absurd head begins.2.2.2
  · rfl

private theorem readValue_items {limit : Option Nat} {first : Char} (other : first ≠ ']') (fuel : Nat)
    {cs more : List Char} (skipped : skipBlanks cs = first :: more) :
    readValue limit (fuel + 1) ('[' :: cs) = readItems limit fuel [] (first :: more) := by
  simp only [readValue, skipped]
  split
  · next same => injection same with head _; exact absurd head other
  · rfl

private theorem readValue_fields {limit : Option Nat} {first : Char} (other : first ≠ '\x7d') (fuel : Nat)
    {cs more : List Char} (skipped : skipBlanks cs = first :: more) :
    readValue limit (fuel + 1) ('\x7b' :: cs) = readFields limit fuel [] (first :: more) := by
  simp only [readValue, skipped]
  split
  · next same => injection same with head _; exact absurd head other
  · rfl

private theorem skipBlanks_renderItems (layout : Layout) (level : Nat) (x : Value) (rest : List Value)
    {gap : List Char} (blank : ∀ c ∈ gap, isBlank c = true) (more : List Char) :
    ∃ first tail, Value.renderItems layout level (x :: rest) ++ more = first :: tail ∧ first ≠ ']' ∧
      skipBlanks (gap ++ (Value.renderItems layout level (x :: rest) ++ more)) = first :: tail := by
  obtain ⟨first, tail, front, visible, other⟩ := render_begins layout level x
  have begins : ∃ tail, Value.renderItems layout level (x :: rest) ++ more = first :: tail := by
    rw [Value.renderItems, front]
    exact ⟨_, rfl⟩
  obtain ⟨tail, begins⟩ := begins
  exact ⟨first, tail, begins, other, by rw [skipBlanks_append blank, begins, skipBlanks_cons visible]⟩

private theorem readItems_renderItems {layout : Layout} (level outer : Nat) (more : List Char) {items : List Value}
    (nonempty : items ≠ []) (back : ∀ x ∈ items, ReadsBack layout x) (seen : List Value) {fuel : Nat}
    (enough : (Value.renderItems layout level items).length < fuel) :
    readItems (some digitLimit) fuel seen
        (Value.renderItems layout level items ++ (layout.lineBreak outer ++ ']' :: more)) =
      .ok (.array (seen.reverse ++ Value.settledItems items), more) := by
  induction items generalizing seen fuel with
  | nil => exact absurd rfl nonempty
  | cons x rest ih =>
    obtain ⟨less, rfl⟩ : ∃ less, fuel = less + 1 := ⟨fuel - 1, by omega⟩
    have here := back x List.mem_cons_self level less
    cases rest with
    | nil =>
      have ends := endsNumber_lineBreak layout outer ']' more (by decide)
      simp only [Value.renderItems, List.isEmpty_nil, if_true, List.append_nil] at enough ⊢
      simp only [readItems, here _ (by omega) ends, skipBlanks_append (lineBreak_blank layout outer),
        skipBlanks_cons (c := ']') rfl, List.reverse_cons, Value.settledItems]
    | cons y ys =>
      obtain ⟨gap, comma, blank⟩ := separator_comma layout level
      obtain ⟨first, tail, begins, _, skipped⟩ :=
        skipBlanks_renderItems layout level y ys blank (layout.lineBreak outer ++ ']' :: more)
      have text : Value.renderItems layout level (x :: y :: ys) =
          x.render layout level ++ (layout.separator level ++ Value.renderItems layout level (y :: ys)) := by
        rw [Value.renderItems]
        rfl
      have length := congrArg List.length text
      rw [comma] at length
      simp only [List.length_append, List.length_cons] at length
      have ends := endsNumber_separator layout level
        (Value.renderItems layout level (y :: ys) ++ (layout.lineBreak outer ++ ']' :: more))
      have tailRead := ih (List.cons_ne_nil y ys) (fun z inside => back z (List.mem_cons_of_mem x inside))
        (x.settled :: seen) (show _ < less by omega)
      rw [begins] at tailRead
      rw [comma, List.cons_append] at ends
      rw [text, comma, List.append_assoc, List.append_assoc, List.cons_append]
      simp only [readItems, here _ (by omega) ends, skipBlanks_cons (c := ',') rfl, skipped, tailRead,
        List.reverse_cons, List.append_assoc, List.singleton_append, Value.settledItems]

private theorem readName_quoted (name : String) (level : Nat) (layout : Layout) (v : Value) (more : List Char) :
    readName (quoted name ++ ':' :: ' ' :: (v.render layout level ++ more)) =
      .ok (name, v.render layout level ++ more) := by
  obtain ⟨first, tail, front, visible, _⟩ := render_begins layout level v
  have text : quoted name ++ ':' :: ' ' :: (v.render layout level ++ more) =
      '"' :: (name.toList.flatMap escape ++ '"' :: ':' :: ' ' :: (v.render layout level ++ more)) := by
    simp [quoted]
  have skipped : skipBlanks (' ' :: (v.render layout level ++ more)) = v.render layout level ++ more := by
    rw [front]
    exact skipBlanks_cons visible (tail ++ more)
  rw [text]
  simp only [readName, readText_quoted, skipBlanks_cons (c := ':') rfl, skipped]

private theorem readFields_renderFields {layout : Layout} (level outer : Nat) (more : List Char) {fields seen : Fields}
    (nonempty : fields ≠ []) (back : ∀ entry ∈ fields, ReadsBack layout entry.2)
    (distinct : (Entries.names seen ++ Entries.names fields).Nodup) {fuel : Nat}
    (enough : (Value.renderFields layout level fields).length < fuel) :
    readFields (some digitLimit) fuel seen
        (Value.renderFields layout level fields ++ (layout.lineBreak outer ++ '\x7d' :: more)) =
      .ok (.object (seen ++ Value.settledFields fields), more) := by
  induction fields generalizing seen fuel with
  | nil => exact absurd rfl nonempty
  | cons entry rest ih =>
    obtain ⟨k, x⟩ := entry
    obtain ⟨less, rfl⟩ : ∃ less, fuel = less + 1 := ⟨fuel - 1, by omega⟩
    have here : ReadsBack layout x := back (k, x) List.mem_cons_self
    have new : k ∉ Entries.names seen := fun inside =>
      (List.nodup_append.mp distinct).2.2 k inside k List.mem_cons_self rfl
    have added : ∀ v, seen.put k v = seen ++ [(k, v)] := Entries.put_of_not_mem new
    cases rest with
    | nil =>
      have ends := endsNumber_lineBreak layout outer '\x7d' more (by decide)
      simp only [Value.renderFields, List.isEmpty_nil, if_true, List.append_nil, List.length_append] at enough ⊢
      simp only [List.append_assoc, List.cons_append, List.nil_append]
      simp only [readFields, readName_quoted, here level less _ (by omega) ends, skipBlanks_append
        (lineBreak_blank layout outer), skipBlanks_cons (c := '\x7d') rfl, added, Value.settledFields]
    | cons next others =>
      obtain ⟨gap, comma, blank⟩ := separator_comma layout level
      have text : Value.renderFields layout level ((k, x) :: next :: others) =
          quoted k ++ ':' :: ' ' :: (x.render layout level ++
            (layout.separator level ++ Value.renderFields layout level (next :: others))) := by
        rw [Value.renderFields]
        simp
      have length := congrArg List.length text
      rw [comma] at length
      simp only [List.length_append, List.length_cons] at length
      have ends := endsNumber_separator layout level
        (Value.renderFields layout level (next :: others) ++ (layout.lineBreak outer ++ '\x7d' :: more))
      have order : (Entries.names (seen ++ [(k, x.settled)]) ++ Entries.names (next :: others)).Nodup := by
        simpa [Entries.names_append] using distinct
      have tailRead := ih (List.cons_ne_nil next others) (fun entry inside => back entry (List.mem_cons_of_mem _ inside))
        order (show _ < less by omega)
      have skipped : skipBlanks (gap ++ (Value.renderFields layout level (next :: others) ++
          (layout.lineBreak outer ++ '\x7d' :: more))) = Value.renderFields layout level (next :: others) ++
          (layout.lineBreak outer ++ '\x7d' :: more) := by
        rw [skipBlanks_append blank, Value.renderFields, quoted]
        exact skipBlanks_cons rfl _
      rw [comma, List.cons_append] at ends
      rw [text, comma]
      simp only [List.append_assoc, List.cons_append]
      simp only [readFields, readName_quoted, here level less _ (by omega) ends, skipBlanks_cons (c := ',') rfl, skipped,
        added, tailRead, Value.settledFields, List.append_assoc, List.singleton_append]

private theorem exists_fuel {layout : Layout} {level fuel : Nat} {v : Value}
    (enough : (v.render layout level).length ≤ fuel) : ∃ less, fuel = less + 1 := by
  obtain ⟨first, tail, front, _⟩ := render_begins layout level v
  rw [front, List.length_cons] at enough
  exact ⟨fuel - 1, by omega⟩

private theorem readsBack_array {layout : Layout} {items : List Value} (back : ∀ x ∈ items, ReadsBack layout x) :
    ReadsBack layout (.array items) := by
  intro level fuel rest enough ends
  obtain ⟨less, rfl⟩ := exists_fuel enough
  cases items with
  | nil => rfl
  | cons x others =>
    have text : (Value.array (x :: others)).render layout level ++ rest =
        '[' :: (layout.lineBreak (level + 1) ++ (Value.renderItems layout (level + 1) (x :: others) ++
          (layout.lineBreak level ++ ']' :: rest))) := by
      simp [Value.render]
    simp only [Value.render, List.length_cons, List.length_append] at enough
    obtain ⟨first, tail, begins, other, skipped⟩ := skipBlanks_renderItems layout (level + 1) x others
      (lineBreak_blank layout (level + 1)) (layout.lineBreak level ++ ']' :: rest)
    have read := readItems_renderItems (level + 1) level rest (List.cons_ne_nil x others) back []
      (show _ < less by omega)
    rw [begins] at read
    rw [text, readValue_items other less skipped, read, Value.settled]
    rfl

private theorem readsBack_object {layout : Layout} {fields : Fields} (distinct : (Entries.names fields).Nodup)
    (back : ∀ entry ∈ fields, ReadsBack layout entry.2) : ReadsBack layout (.object fields) := by
  intro level fuel rest enough ends
  obtain ⟨less, rfl⟩ := exists_fuel enough
  cases fields with
  | nil => rfl
  | cons entry others =>
    have text : (Value.object (entry :: others)).render layout level ++ rest =
        '\x7b' :: (layout.lineBreak (level + 1) ++ (Value.renderFields layout (level + 1) (entry :: others) ++
          (layout.lineBreak level ++ '\x7d' :: rest))) := by
      simp [Value.render]
    simp only [Value.render, List.length_cons, List.length_append] at enough
    have read := readFields_renderFields (level + 1) level rest (List.cons_ne_nil entry others) back
      (show (Entries.names [] ++ Entries.names (entry :: others)).Nodup from distinct) (show _ < less by omega)
    obtain ⟨tail, begins⟩ : ∃ tail, Value.renderFields layout (level + 1) (entry :: others) ++
        (layout.lineBreak level ++ '\x7d' :: rest) = '"' :: tail := ⟨_, rfl⟩
    rw [begins] at read
    have skipped := skipBlanks_append (lineBreak_blank layout (level + 1)) ('"' :: tail)
    rw [skipBlanks_cons rfl] at skipped
    rw [text, begins, readValue_fields (by decide) less skipped, read, Value.settled]
    rfl

/-- A scalar whose text begins like one is read as `readScalar` reads it. -/
private theorem readsBack_scalar {layout : Layout} {v : Value} {written : List Char}
    (text : ∀ level, v.render layout level = written) (front : ∃ first more, written = first :: more ∧ BeginsScalar first)
    (read : ∀ rest, EndsNumber rest → readScalar (some digitLimit) (written ++ rest) = .ok (v.settled, rest)) :
    ReadsBack layout v := by
  intro level fuel rest enough ends
  obtain ⟨less, rfl⟩ := exists_fuel enough
  obtain ⟨first, more, rfl, begins⟩ := front
  rw [text, List.cons_append, readValue_scalar begins, ← List.cons_append]
  exact read rest ends

/-- The text of a proper value without a fault is read as the settled value. -/
private theorem readValue_render (layout : Layout) {v : Value} (fault : v.writeFault? = none) (proper : v.Proper) :
    ReadsBack layout v := by
  induction v using Value.byParts with
  | null =>
    intro level fuel rest enough ends
    obtain ⟨less, rfl⟩ := exists_fuel enough
    rfl
  | bool b =>
    intro level fuel rest enough ends
    obtain ⟨less, rfl⟩ := exists_fuel enough
    cases b <;> rfl
  | int n =>
    have short : exceedsDigitLimit n = false := by
      cases long : exceedsDigitLimit n
      · rfl
      · simp [Value.writeFault?, long] at fault
    exact readsBack_scalar (fun _ => rfl) (integer_begins n) fun rest ends => readScalar_integer short ends
  | float x => exact readsBack_scalar (fun _ => rfl) (double_begins x) fun rest ends => readScalar_double x ends
  | text s =>
    have quotes : ∀ level, (Value.text s).render layout level = quoted s := fun _ => rfl
    refine readsBack_scalar quotes ⟨'"', _, rfl, by unfold BeginsScalar; decide⟩ fun rest _ => ?_
    have text : quoted s ++ rest = '"' :: (s.toList.flatMap escape ++ '"' :: rest) := by simp [quoted]
    rw [text]
    simp only [readScalar, readText_quoted]
    rfl
  | handle b => simp [Value.writeFault?] at fault
  | array items ih =>
    exact readsBack_array fun x inside =>
      ih x inside (Value.itemsFault?_eq_none_iff.mp fault x inside) (Value.proper_array_iff.mp proper x inside)
  | object fields ih =>
    obtain ⟨distinct, all⟩ := Value.proper_object_iff.mp proper
    exact readsBack_object distinct fun entry inside =>
      ih entry inside (Value.fieldsFault?_eq_none_iff.mp fault entry inside) (all entry inside)

/-! ## What values are read -/

private theorem isObject_of_readFields {limit : Option Nat} {fuel : Nat} {seen : Fields} {cs rest : List Char} {v : Value}
    (read : readFields limit fuel seen cs = .ok (v, rest)) : v.isObject = true := by
  induction fuel generalizing seen cs with
  | zero => cases read
  | succ less ih =>
    rw [readFields.eq_def] at read
    dsimp only at read
    split at read
    · cases read
    · split at read
      · cases read
      · split at read
        · cases read
          rfl
        · exact ih read
        · cases read

/-- After an opening brace nothing but an object is read. -/
private theorem isObject_of_readValue {limit : Option Nat} {fuel : Nat} {cs rest : List Char} {v : Value}
    (read : readValue limit fuel ('\x7b' :: cs) = .ok (v, rest)) : v.isObject = true := by
  cases fuel with
  | zero => cases read
  | succ less =>
    rw [readValue] at read
    split at read
    · cases read
      rfl
    · exact isObject_of_readFields read

/-- Whatever fuel there is, the three parts of the reader give values as texts hold them. -/
private theorem textual_of_parts (fuel : Nat) :
    (∀ cs v rest, readValue (some digitLimit) fuel cs = .ok (v, rest) → v.Textual) ∧
    (∀ seen cs v rest, (∀ x ∈ seen, x.Textual) →
      readItems (some digitLimit) fuel seen cs = .ok (v, rest) → v.Textual) ∧
    (∀ seen cs v rest, (Value.object seen).Textual →
      readFields (some digitLimit) fuel seen cs = .ok (v, rest) → v.Textual) := by
  induction fuel with
  | zero =>
    refine ⟨?_, ?_, ?_⟩
    · intro cs v rest read
      cases read
    · intro seen cs v rest _ read
      cases read
    · intro seen cs v rest _ read
      cases read
  | succ less ih =>
    obtain ⟨values, items, fields⟩ := ih
    refine ⟨?_, ?_, ?_⟩
    · intro cs v rest read
      rw [readValue.eq_def] at read
      dsimp only at read
      split at read
      · split at read
        · cases read
          exact Value.textual_array_iff.mpr fun x inside => absurd inside List.not_mem_nil
        · exact items [] _ v rest (fun x inside => absurd inside List.not_mem_nil) read
      · have none : (Value.object []).Textual :=
          Value.textual_object_iff.mpr ⟨List.nodup_nil, fun x inside => absurd inside List.not_mem_nil⟩
        split at read
        · cases read
          exact none
        · exact fields [] _ v rest none read
      · exact textual_of_readScalar read
    · intro seen cs v rest before read
      rw [readItems.eq_def] at read
      dsimp only at read
      split at read
      · cases read
      · next x more found =>
        have all : ∀ y ∈ x :: seen, y.Textual := List.forall_mem_cons.mpr ⟨values _ _ _ found, before⟩
        split at read
        · cases read
          exact Value.textual_array_iff.mpr fun y inside => all y (List.mem_reverse.mp inside)
        · exact items _ _ v rest all read
        · cases read
    · intro seen cs v rest before read
      rw [readFields.eq_def] at read
      dsimp only at read
      split at read
      · cases read
      · next name afterName named =>
        split at read
        · cases read
        · next x more found =>
          have all := before.put name (values _ _ _ found)
          split at read
          · cases read
            exact all
          · exact fields _ _ v rest all read
          · cases read

end HomeTiles.JsonReader

namespace HomeTiles.Value

open JsonReader

/-! ## Whole texts -/

/-- What was written is read as the settled value. -/
theorem read_of_write {layout : Layout} {v : Value} {s : String} (written : v.write layout = .ok s) (proper : v.Proper) :
    Value.read s = .ok v.settled := by
  unfold Value.write at written
  cases fault : v.writeFault? with
  | some found => simp [fault] at written
  | none =>
    simp only [fault, Except.ok.injEq] at written
    obtain ⟨first, more, front, visible, _⟩ := render_begins layout 0 v
    have back := readValue_render layout fault proper 0 (2 * (v.render layout 0).length + 2) [] (by omega) endsNumber_nil
    rw [List.append_nil] at back
    have skipped : skipBlanks (v.render layout 0) = v.render layout 0 := by
      rw [front]
      exact skipBlanks_cons visible more
    rw [← written]
    simp only [Value.read, Value.readWithin, String.toList_ofList, skipped, back]
    rfl

/-- Whatever is read of the text of an object is an object, also where names stand twice. -/
theorem isObject_of_read {layout : Layout} {fields : Fields} {s : String} {v : Value}
    (written : (object fields).write layout = .ok s) (read : Value.read s = .ok v) : v.isObject = true := by
  unfold Value.write at written
  split at written
  · cases written
  · cases written
    have brace : ∃ more, (object fields).render layout 0 = '\x7b' :: more := by
      cases fields
      · exact ⟨_, rfl⟩
      · exact ⟨_, rfl⟩
    obtain ⟨more, brace⟩ := brace
    have skipped : skipBlanks ('\x7b' :: more) = '\x7b' :: more := skipBlanks_cons (by decide) more
    unfold Value.read Value.readWithin at read
    dsimp only at read
    rw [String.toList_ofList, brace, skipped] at read
    split at read
    · cases read
    · next found =>
      split_ifs at read
      cases read
      exact isObject_of_readValue found

/-- A text never gives anything but a value as texts hold it. -/
theorem textual_of_read {s : String} {v : Value} (read : Value.read s = .ok v) : v.Textual := by
  unfold Value.read Value.readWithin at read
  dsimp only at read
  split at read
  · cases read
  · next found =>
    split_ifs at read
    cases read
    exact (textual_of_parts _).1 _ _ _ found

end HomeTiles.Value
