import RecordRules.Proofs.Attempts
import RecordRules.Proofs.Number.Numeral
import RecordRules.Proofs.Text

/-!
# Written rules read back

A rule that fits a line is read back from it (`read_render`): with its field,
its capability and its message, and with the operand that its value segment
spells, in which numbers and booleans have become text (`Operand.written`).

The parts of the line are found again because only the message, which comes
last, may hold a colon, and no part has white space at its ends
(`segments_render`). The value segment is taken for a list exactly when it is
one: a list has a comma within, and a rule with a single value has no comma
anywhere (`Written.readValue_eq`).
-/

namespace RecordRules

/-! ## Items of a value segment -/

/-- Text that can be an item of a value segment. -/
structure IsItem (s : String) : Prop where
  ne_nil : s.toList ≠ []
  tight : Text.Tight s.toList
  noComma : ',' ∉ s.toList
  noColon : ':' ∉ s.toList

theorem IsItem.ne_empty {s : String} (h : IsItem s) : s ≠ "" :=
  mt String.toList_eq_nil_iff.mpr h.ne_nil

theorem IsItem.contains_comma {s : String} (h : IsItem s) : s.toList.contains ',' = false := by
  simpa using h.noComma

theorem isTrimmed_iff {s : String} : isTrimmed s = true ↔ Text.Tight s.toList := by
  rw [isTrimmed, beq_iff_eq, Text.trimmed, ← Text.trim_eq_self_iff, ← String.toList_inj,
    String.toList_ofList]

/-- The character is neither white space nor a separator. -/
def isItemChar (c : Char) : Bool := !Text.isSpace c && c != ',' && c != ':'

theorem isItemChar_iff {c : Char} :
    isItemChar c = true ↔ Text.isSpace c = false ∧ c ≠ ',' ∧ c ≠ ':' := by
  simp [isItemChar, and_assoc]

theorem isItemChar_of_isNumeralChar {c : Char} (h : isNumeralChar c = true) :
    isItemChar c = true := by
  rw [isNumeralChar, Bool.or_eq_true] at h
  rcases h with h | h
  · rw [Char.isDigit_iff_toNat] at h
    have hlow : 48 ≤ c.toNat := h.1
    have hhigh : c.toNat ≤ 57 := h.2
    refine isItemChar_iff.mpr ⟨?_, ?_, ?_⟩
    · simp only [Text.isSpace]
      grind
    · rintro rfl
      exact absurd hlow (by decide)
    · rintro rfl
      exact absurd hhigh (by decide)
  · have hall : ['.', 'e', '+', '-'].all isItemChar = true := by decide
    exact List.all_eq_true.mp hall c (List.contains_iff_mem.mp h)

/-- Text without any white space or separator is an item. -/
theorem isItem_of_chars {s : String} (hne : s.toList ≠ [])
    (h : ∀ c ∈ s.toList, isItemChar c = true) : IsItem s where
  ne_nil := hne
  tight := by
    refine ⟨?_, ?_⟩
    · exact fun c hc => (isItemChar_iff.mp (h c (List.mem_of_head? hc))).1
    · exact fun c hc => (isItemChar_iff.mp (h c (List.mem_of_getLast? hc))).1
  noComma hc := (isItemChar_iff.mp (h _ hc)).2.1 rfl
  noColon hc := (isItemChar_iff.mp (h _ hc)).2.2 rfl

theorem IsNumeral.isItem {s : String} (h : IsNumeral s.toList) : IsItem s :=
  isItem_of_chars h.ne_nil fun c hc => isItemChar_of_isNumeralChar (h.chars c hc)

/-- A plain value is spelled as an item. -/
theorem isItem_of_isPlain {v : Json} (h : isPlain v = true) : IsItem (Operand.segmentText v) := by
  cases v with
  | null => cases h
  | bool b =>
      cases b
      · exact isItem_of_chars (by decide) (List.all_eq_true.mp (by decide))
      · exact isItem_of_chars (by decide) (List.all_eq_true.mp (by decide))
  | num n => exact n.render_numeral.isItem
  | str s =>
      simp only [isPlain, Bool.and_eq_true, Bool.not_eq_true', List.contains_eq_mem,
        decide_eq_false_iff_not] at h
      obtain ⟨⟨⟨hne, hcomma⟩, hcolon⟩, htrim⟩ := h
      refine ⟨?_, isTrimmed_iff.mp htrim, hcomma, hcolon⟩
      exact mt String.toList_eq_nil_iff.mp (String.isEmpty_eq_false_iff.mp hne)
  | arr items => cases h
  | obj entries => cases h

theorem toList_joinedItems (ts : List String) :
    (Text.joined "," ts).toList = Text.join [','] (ts.map String.toList) :=
  Text.toList_joined rfl ts

theorem tight_joinedItems {ts : List String} (h : ∀ t ∈ ts, IsItem t) :
    Text.Tight (Text.joined "," ts).toList := by
  rw [toList_joinedItems]
  refine Text.Tight.join ?_ ?_
  · exact List.forall_mem_map.mpr fun t ht => (h t ht).tight
  · exact List.forall_mem_map.mpr fun t ht => (h t ht).ne_nil

theorem noColon_joinedItems {ts : List String} (h : ∀ t ∈ ts, IsItem t) :
    ':' ∉ (Text.joined "," ts).toList := by
  rw [toList_joinedItems, Text.mem_join (by decide)]
  rintro ⟨cs, hcs, hc⟩
  obtain ⟨t, ht, rfl⟩ := List.mem_map.mp hcs
  exact (h t ht).noColon hc

/-- Several items are joined with a comma. -/
theorem mem_comma_joinedItems {ts : List String} (hlen : 1 < ts.length) :
    ',' ∈ (Text.joined "," ts).toList := by
  rw [toList_joinedItems]
  match ts, hlen with
  | t :: u :: ts, _ => simp [Text.join]

/-- Joined items are found again. -/
theorem listItems_joinedItems {ts : List String} (h : ∀ t ∈ ts, IsItem t) (hne : ts ≠ []) :
    Rule.listItems (Text.joined "," ts) = ts := by
  have hpieces : Text.pieces ',' (Text.joined "," ts) = ts := by
    rw [Text.pieces, toList_joinedItems, Text.splitOn_join (by simpa using hne), List.map_map]
    · exact (List.map_congr_left fun t _ => String.ofList_toList).trans (List.map_id ts)
    · exact List.forall_mem_map.mpr fun t ht => (h t ht).noComma
  have htrim : ts.map Text.trimmed = ts := by
    exact (List.map_congr_left fun t ht => (h t ht).tight.trimmed_eq).trans (List.map_id ts)
  rw [Rule.listItems, hpieces, htrim, List.filter_eq_self]
  intro t ht
  rw [String.isEmpty_eq_false_iff.mpr (h t ht).ne_empty]
  rfl

/-! ## Value segments -/

theorem readValue_item {t : String} (h : IsItem t) :
    Rule.readValue t false = .scalar (.str t) := by
  rw [Rule.readValue, if_neg (mt String.isEmpty_iff.mp h.ne_empty)]
  rfl

theorem readValue_joinedItems {ts : List String} (h : ∀ t ∈ ts, IsItem t) (hne : ts ≠ []) :
    Rule.readValue (Text.joined "," ts) true = .list (ts.map .str) := by
  have hempty : Text.joined "," ts ≠ "" := by
    refine mt String.toList_eq_nil_iff.mpr ?_
    rw [toList_joinedItems]
    refine Text.join_ne_nil (by simpa using hne) ?_
    exact List.forall_mem_map.mpr fun t ht => (h t ht).ne_nil
  rw [Rule.readValue, if_neg (mt String.isEmpty_iff.mp hempty), if_pos rfl,
    listItems_joinedItems h hne]
  split
  next => exact absurd rfl hne
  next => rfl

/-- The operand that the value segment of an operand spells. -/
def Operand.written : Operand → Operand
  | .absent | .field _ | .keyed _ .null => .absent
  | .list items | .keyed _ (.arr items) => .list (items.map fun v => .str (segmentText v))
  | .scalar v | .keyed _ v => .scalar (.str (segmentText v))

/-- A value segment and the raw operand that it spells. -/
inductive Written : String → Operand → Prop
  | none : Written "" .absent
  | single {t : String} (h : IsItem t) : Written t (.scalar (.str t))
  | list {ts : List String} (h : ∀ t ∈ ts, IsItem t) (hlen : 1 < ts.length) :
      Written (Text.joined "," ts) (.list (ts.map .str))

namespace Written

variable {segment : String} {raw : Operand}

theorem ofItems {items : List Json} (h : arePlain items = true) :
    Written (Operand.segmentList items)
      (.list (items.map fun v => .str (Operand.segmentText v))) := by
  rw [arePlain, Bool.and_eq_true, decide_eq_true_eq, List.all_eq_true] at h
  have hl : Written (Text.joined "," (items.map Operand.segmentText))
      (.list ((items.map Operand.segmentText).map .str)) := by
    refine .list ?_ ?_
    · intro t ht
      obtain ⟨v, hv, rfl⟩ := List.mem_map.mp ht
      exact isItem_of_isPlain (h.2 v hv)
    · rw [List.length_map]
      exact h.1
  rwa [List.map_map] at hl

/-- The value segment of a rule that fits a line. -/
theorem ofFits {r : Rule} (h : r.valueFits = true) : Written r.value.segment r.value.written := by
  obtain ⟨field, capability, value, message⟩ := r
  cases value with
  | absent => exact .none
  | field name => exact .none
  | scalar v => exact .single (isItem_of_isPlain h)
  | list items => exact ofItems h
  | keyed f v =>
      simp only [Rule.valueFits, Bool.and_eq_true] at h
      obtain ⟨-, h⟩ := h
      cases v with
      | null => exact .none
      | arr items => exact ofItems h
      | bool b => exact .single (isItem_of_isPlain h)
      | num n => exact .single (isItem_of_isPlain h)
      | str s => exact .single (isItem_of_isPlain h)
      | obj entries => cases h

theorem tight (h : Written segment raw) : Text.Tight segment.toList := by
  cases h with
  | none => exact ⟨nofun, nofun⟩
  | single h => exact h.tight
  | list h hlen => exact tight_joinedItems h

theorem noColon (h : Written segment raw) : ':' ∉ segment.toList := by
  cases h with
  | none => exact List.not_mem_nil
  | single h => exact h.noColon
  | list h hlen => exact noColon_joinedItems h

/-- A segment is read as what it spells, if there is no comma elsewhere in the
line of a single value. -/
theorem readValue_eq (h : Written segment raw) {stray : Bool}
    (hsingle : raw.scalar?.isSome → stray = false) :
    Rule.readValue segment (stray || segment.toList.contains ',') = raw := by
  cases h with
  | none => rfl
  | single h => rw [hsingle rfl, Bool.false_or, h.contains_comma, readValue_item h]
  | list h hlen =>
      rw [List.contains_iff_mem.mpr (mem_comma_joinedItems hlen), Bool.or_true,
        readValue_joinedItems h (List.length_pos_iff.mp (by omega))]

end Written

/-! ## Lines -/

namespace Rule

variable {r : Rule}

/-- What a rule that fits a line is made of. -/
structure Fits (r : Rule) : Prop where
  value : Written r.value.segment r.value.written
  field : Text.Tight r.field.toList
  noColon : ':' ∉ r.field.toList
  message : ∀ m ∈ r.message, m.toList ≠ [] ∧ Text.Tight m.toList
  /-- A single value has no comma around it. -/
  noComma : r.value.written.scalar?.isSome → r.hasStrayComma = false

theorem hasSingleValue_of_written (h : r.value.written.scalar?.isSome) :
    r.hasSingleValue = true := by
  obtain ⟨field, capability, value, message⟩ := r
  cases value with
  | absent => cases h
  | field name => cases h
  | scalar v => rfl
  | list items => cases h
  | keyed f v =>
      cases v with
      | null => cases h
      | arr items => cases h
      | bool b => rfl
      | num n => rfl
      | str s => rfl
      | obj entries => rfl

theorem fits_of_fitsLine (h : r.fitsLine = true) : Fits r := by
  simp only [fitsLine, Bool.and_eq_true, Bool.not_eq_true', List.contains_eq_mem,
    decide_eq_false_iff_not, Bool.and_eq_false_iff] at h
  obtain ⟨⟨⟨⟨hvalue, hcolon⟩, htrim⟩, hmessage⟩, hcomma⟩ := h
  refine ⟨.ofFits hvalue, isTrimmed_iff.mp htrim, hcolon, ?_, ?_⟩
  · intro m hm
    rw [messageFits, Option.mem_def.mp hm] at hmessage
    simp only [Option.all_some, Bool.and_eq_true, Bool.not_eq_true'] at hmessage
    exact ⟨mt String.toList_eq_nil_iff.mp (String.isEmpty_eq_false_iff.mp hmessage.1),
      isTrimmed_iff.mp hmessage.2⟩
  · intro hsingle
    exact hcomma.resolve_left (by rw [hasSingleValue_of_written hsingle]; decide)

/-- The parts of the line that a rule is written on. -/
def parts (r : Rule) : List String :=
  match r.message with
  | some m => [r.field, snakeCase r.capability, r.value.segment, m]
  | none =>
    if r.value.segment.isEmpty then [r.field, snakeCase r.capability]
    else [r.field, snakeCase r.capability, r.value.segment]

theorem toList_render (r : Rule) :
    r.render.toList = Text.join [':'] (r.parts.map String.toList) := by
  rw [render, parts]
  cases r.message with
  | some m => simp [Text.join]
  | none => cases hv : r.value.segment.isEmpty <;> simp [Text.join]

/-- The parts of the line that the rule is written on can be told apart. -/
structure Separable (r : Rule) : Prop where
  field : Text.Tight r.field.toList
  fieldColon : ':' ∉ r.field.toList
  value : Text.Tight r.value.segment.toList
  valueColon : ':' ∉ r.value.segment.toList
  message : ∀ m ∈ r.message, m.toList ≠ [] ∧ Text.Tight m.toList

theorem Fits.separable (h : Fits r) : Separable r :=
  ⟨h.field, h.noColon, h.value.tight, h.value.noColon, h.message⟩

/-- The line is cut into the parts if only the message may hold a colon. -/
theorem splitAtMost_render (hfield : ':' ∉ r.field.toList)
    (hname : ':' ∉ (snakeCase r.capability).toList) (hvalue : ':' ∉ r.value.segment.toList) :
    Text.splitAtMost ':' 4 r.render.toList = r.parts.map String.toList := by
  have hparts : r.parts ≠ [] ∧ r.parts.length ≤ 4 ∧ ∀ s ∈ r.parts.take 3, ':' ∉ s.toList := by
    rw [parts]
    cases hm : r.message with
    | some m => simp [hfield, hname, hvalue]
    | none => cases hv : r.value.segment.isEmpty <;> simp [hfield, hname, hvalue]
  obtain ⟨hne, hlen, hcolon⟩ := hparts
  rw [toList_render, Text.splitAtMost_join (by simpa using hne) (by simpa using hlen)]
  rw [← List.map_take]
  exact List.forall_mem_map.mpr hcolon

/-- Such parts are found again in the line. -/
theorem segments_render (h : Separable r) (hname : IsItem (snakeCase r.capability)) :
    segments r.render = r.parts := by
  have htight : ∀ s ∈ r.parts, Text.Tight s.toList := by
    rw [parts]
    cases hm : r.message with
    | some m => simp [h.field, hname.tight, h.value, (h.message m hm).2]
    | none => cases hv : r.value.segment.isEmpty <;> simp [h.field, hname.tight, h.value]
  rw [segments, splitAtMost_render h.fieldColon hname.noColon h.valueColon, List.map_map]
  exact (List.map_congr_left fun s hs => (htight s hs).trimmed_eq).trans (List.map_id _)

theorem mem_comma_render (r : Rule) : ',' ∈ r.render.toList ↔ ∃ s ∈ r.parts, ',' ∈ s.toList := by
  rw [toList_render, Text.mem_join (by decide)]
  simp

/-- The line of a rule has a comma where the rule has one, and nowhere else. -/
theorem contains_comma_render (hname : IsItem (snakeCase r.capability)) :
    r.render.toList.contains ',' = (r.hasStrayComma || r.value.segment.toList.contains ',') := by
  have hline : ',' ∈ r.render.toList ↔ ',' ∈ r.field.toList ∨ ',' ∈ r.value.segment.toList
      ∨ ∃ m ∈ r.message, ',' ∈ m.toList := by
    rw [mem_comma_render, parts]
    cases hm : r.message with
    | some m => simp [hname.noComma]
    | none =>
        cases hv : r.value.segment.isEmpty with
        | true => simp [hname.noComma, String.isEmpty_iff.mp hv]
        | false => simp [hname.noComma]
  rw [Bool.eq_iff_iff, List.contains_iff_mem, hline, hasStrayComma]
  simp only [Bool.or_eq_true, List.contains_iff_mem, Option.any_eq_true, Option.mem_def]
  rw [or_right_comm, or_assoc]

/-- The value segment in the line of a rule is read as what it spells. -/
theorem readValue_render (h : Fits r) (hname : IsItem (snakeCase r.capability)) :
    readValue r.value.segment (r.render.toList.contains ',') = r.value.written := by
  rw [contains_comma_render hname]
  exact h.value.readValue_eq h.noComma

/-- The line of a rule is read with the field and the message of the rule, and
with the value that its value segment is read as. -/
theorem read_line {registry : Registry} {e : Entry} (h : Separable r) (hfield : r.field ≠ "")
    (hname : IsItem (snakeCase r.capability))
    (he : registry.resolve (titleCase (snakeCase r.capability)) = .ok e) :
    read registry r.render =
      .ok ⟨r.field, e.name,
        (readValue r.value.segment (r.render.toList.contains ',')).shaped e.shape r.field,
        r.message⟩ := by
  have hne : ¬ (r.field.isEmpty || (snakeCase r.capability).isEmpty) = true := by
    simp [hfield, hname.ne_empty]
  have hresolve : ∀ value message, resolve registry r.field (snakeCase r.capability) value message =
      .ok ⟨r.field, e.name, value.shaped e.shape r.field, message⟩ := by
    intro value message
    rw [resolve, he]
    rfl
  rw [read, segments_render h hname, parts]
  cases hm : r.message with
  | some m =>
      have hmne : m ≠ "" := mt String.toList_eq_nil_iff.mpr (h.message m hm).1
      have hfilter : (some m).filter (!·.isEmpty) = some m := by simp [hmne]
      dsimp only
      rw [if_neg hne]
      simp only [List.getElem?_cons_zero, List.getElem?_cons_succ, Option.elim_some, hfilter,
        hresolve]
  | none =>
      cases hv : r.value.segment.isEmpty with
      | true =>
          have habsent : readValue r.value.segment (r.render.toList.contains ',') = .absent := by
            rw [readValue, if_pos hv]
          rw [if_pos rfl, habsent]
          dsimp only
          rw [if_neg hne]
          simp only [List.getElem?_nil, Option.elim_none, Option.filter_none, hresolve]
      | false =>
          rw [if_neg Bool.false_ne_true]
          dsimp only
          rw [if_neg hne]
          simp only [List.getElem?_cons_zero, List.getElem?_cons_succ, List.getElem?_nil,
            Option.elim_some, Option.filter_none, hresolve]

/-- **A rule that fits a line is read back from it.** -/
theorem read_render {registry : Registry} {e : Entry} (hfit : r.fitsLine = true)
    (hfield : r.field ≠ "") (hname : IsItem (snakeCase r.capability))
    (he : registry.resolve (titleCase (snakeCase r.capability)) = .ok e) :
    read registry r.render =
      .ok ⟨r.field, e.name, r.value.written.shaped e.shape r.field, r.message⟩ := by
  have h := fits_of_fitsLine hfit
  rw [read_line h.separable hfield hname he, readValue_render h hname]

end Rule

end RecordRules
