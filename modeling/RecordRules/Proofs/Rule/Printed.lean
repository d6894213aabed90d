import RecordRules.Proofs.Rule.Saved

/-!
# Printed rules read back

A rule that was read from a line is printed, and the print is read. White
space, empty items and a value that the shape of the capability drops are gone
after the first reading, so the parts of the rule are found again in the print
(`Rule.FromLine.separable`). All that can change is the kind of the value: it
is taken for a list when the line has a comma, and the print of a list of one
item has none of its own. Such a list is read back as its item, unless the
field or the message has a comma (`printed_reads_back`).
-/

namespace RecordRules

/-! ## Lists of one item -/

namespace Operand

/-- The operand is a list of one item, by itself or for a field. -/
def isLone : Operand → Bool
  | .list [_] | .keyed _ (.arr [_]) => true
  | _ => false

/-- The operand with the item in place of a list of one. -/
def unlisted : Operand → Operand
  | .list [v] => .scalar v
  | .keyed f (.arr [v]) => .keyed f v
  | o => o

theorem unlisted_eq_self_iff (o : Operand) : o.unlisted = o ↔ o.isLone = false := by
  unfold unlisted isLone
  split
  next => simp
  next f v =>
    have hv : v ≠ .arr [v] := by
      intro h
      have hsize := congrArg sizeOf h
      simp at hsize
      omega
    simp [hv]
  next hlist hkeyed => simp

theorem segment_texts (ss : List String) :
    (Operand.list (ss.map .str)).segment = Text.joined "," ss := by
  rw [segment, segmentList, List.map_map]
  exact congrArg (Text.joined ",") (List.map_id ss)

theorem joined_lone (s : String) : Text.joined "," [s] = s := String.ofList_toList

theorem segment_lone (s : String) : (Operand.list [.str s]).segment = s :=
  (segment_texts [s]).trans (joined_lone s)

end Operand

theorem Written.textual {segment : String} {raw : Operand} (h : Written segment raw) :
    raw.Textual := by
  cases h with
  | none => exact .absent
  | single h => exact .text _
  | @list ts h hlen => exact .texts ts

/-- What a segment spells is no list of one, whatever it is shaped for. -/
theorem Written.isLone_shaped {segment : String} {raw : Operand} (h : Written segment raw)
    (shape : OperandShape) (field : String) : (raw.shaped shape field).isLone = false := by
  cases h with
  | none => cases shape <;> rfl
  | single h => cases shape <;> rfl
  | @list ts h hlen =>
      match ts, hlen with
      | t :: u :: ts, _ => cases shape <;> rfl

theorem Written.unlisted_shaped {segment : String} {raw : Operand} (h : Written segment raw)
    (shape : OperandShape) (field : String) :
    (raw.shaped shape field).unlisted = raw.shaped shape field :=
  (Operand.unlisted_eq_self_iff _).mpr (h.isLone_shaped shape field)

theorem Written.unlisted_eq {segment : String} {raw : Operand} (h : Written segment raw) :
    raw.unlisted = raw :=
  h.unlisted_shaped .scalar ""

/-! ## Operands from a line -/

/-- Raw operands that a line gives: those that their value segment spells, and
lists of one item, which it does not tell from the item. -/
inductive Operand.FromLine : Operand → Prop
  | spelled {raw : Operand} (h : Written raw.segment raw) : FromLine raw
  | lone {s : String} (hs : IsItem s) : FromLine (.list [.str s])

namespace Operand.FromLine

variable {raw : Operand}

theorem absent : FromLine .absent := .spelled .none

theorem text {s : String} (hs : IsItem s) : FromLine (.scalar (.str s)) := .spelled (.single hs)

theorem texts {ss : List String} (hss : ∀ s ∈ ss, IsItem s) (hne : ss ≠ []) :
    FromLine (.list (ss.map .str)) := by
  match ss, hne with
  | [s], _ => exact .lone (hss s (List.mem_singleton_self s))
  | s :: t :: ss, _ =>
      refine .spelled ?_
      rw [segment_texts]
      exact .list hss (by simp)

theorem tight (h : raw.FromLine) : Text.Tight raw.segment.toList := by
  cases h with
  | spelled h => exact h.tight
  | lone hs =>
      rw [segment_lone]
      exact hs.tight

theorem noColon (h : raw.FromLine) : ':' ∉ raw.segment.toList := by
  cases h with
  | spelled h => exact h.noColon
  | lone hs =>
      rw [segment_lone]
      exact hs.noColon

/-- The value segment of the operand is read as the operand; a list of one
item as the item, if there is no comma elsewhere. -/
theorem readValue_segment (h : raw.FromLine) {stray : Bool}
    (hsingle : raw.scalar?.isSome → stray = false) :
    Rule.readValue raw.segment (stray || raw.segment.toList.contains ',') =
      if stray then raw else raw.unlisted := by
  cases h with
  | spelled h =>
      rw [h.unlisted_eq, ite_self]
      exact h.readValue_eq hsingle
  | @lone s hs =>
      rw [segment_lone, hs.contains_comma, Bool.or_false]
      cases stray with
      | false => exact readValue_item hs
      | true =>
          have hlist : Rule.readValue (Text.joined "," [s]) true = .list [.str s] :=
            readValue_joinedItems (by simpa using hs) (List.cons_ne_nil s [])
          rwa [joined_lone] at hlist

/-- An item takes the place of a list of one before or after shaping. -/
theorem shaped_unlisted (h : raw.FromLine) (shape : OperandShape) (field : String) :
    raw.unlisted.shaped shape field = (raw.shaped shape field).unlisted := by
  cases h with
  | spelled h =>
      rw [h.unlisted_eq, h.unlisted_shaped]
  | lone hs => cases shape <;> rfl

theorem textual (h : raw.FromLine) : raw.Textual := by
  cases h with
  | spelled h => exact h.textual
  | @lone s hs => exact .texts [s]

theorem exists_of_isLone (h : raw.FromLine) {shape : OperandShape} {field : String}
    (hlone : (raw.shaped shape field).isLone = true) :
    ∃ s : String, raw.shaped shape field = .list [.str s]
      ∨ raw.shaped shape field = .keyed field (.arr [.str s]) := by
  cases h with
  | spelled h =>
      rw [h.isLone_shaped] at hlone
      cases hlone
  | @lone s hs =>
      cases shape with
      | scalar => exact ⟨s, .inl rfl⟩
      | fieldKeyed => exact ⟨s, .inr rfl⟩
      | fieldName => cases hlone

/-- The shape of a capability keeps the segment of a value, or drops the value. -/
theorem exists_kept (h : raw.FromLine) (shape : OperandShape) (field : String) :
    ∃ kept : Operand, kept.FromLine ∧ (kept.scalar?.isSome → raw.scalar?.isSome)
      ∧ raw.shaped shape field = kept.shaped shape field
      ∧ (kept.shaped shape field).segment = kept.segment := by
  cases shape with
  | scalar => exact ⟨raw, h, id, rfl, rfl⟩
  | fieldKeyed =>
      refine ⟨raw, h, id, rfl, ?_⟩
      cases h.textual <;> rfl
  | fieldName =>
      refine ⟨.absent, .absent, ?_, ?_, rfl⟩
      · intro hnone
        cases hnone
      · cases h.textual <;> rfl

end Operand.FromLine

theorem isItem_of_mem_listItems {segment s : String} (hcolon : ':' ∉ segment.toList)
    (h : s ∈ Rule.listItems segment) : IsItem s := by
  rw [Rule.listItems, List.mem_filter] at h
  obtain ⟨hs, hne⟩ := h
  obtain ⟨piece, hpiece, rfl⟩ := List.mem_map.mp hs
  obtain ⟨cs, hcs, rfl⟩ := List.mem_map.mp hpiece
  have hsub : (Text.trimmed (String.ofList cs)).toList ⊆ cs := by
    rw [Text.trimmed, String.toList_ofList, String.toList_ofList]
    exact Text.trim_subset cs
  refine ⟨?_, Text.tight_trimmed _, ?_, ?_⟩
  · rw [Bool.not_eq_true', String.isEmpty_eq_false_iff] at hne
    exact mt String.toList_eq_nil_iff.mp hne
  · exact fun hc => Text.notMem_of_mem_splitOn hcs (hsub hc)
  · exact fun hc => hcolon (Text.mem_of_mem_splitOn (by decide) hcs (hsub hc))

/-- What a value segment is read as, if it is taken for a list when it has a
comma. -/
theorem Rule.fromLine_readValue {segment : String} {asList : Bool}
    (htight : Text.Tight segment.toList) (hcolon : ':' ∉ segment.toList)
    (hcomma : ',' ∈ segment.toList → asList = true) : (readValue segment asList).FromLine := by
  unfold readValue
  split
  next => exact .absent
  next hne =>
    split
    next =>
      split
      next => exact .absent
      next hitems =>
        exact .texts (fun s hs => isItem_of_mem_listItems hcolon hs) hitems
    next hsingle =>
      refine .text ⟨?_, htight, fun hc => hsingle (hcomma hc), hcolon⟩
      exact mt String.toList_eq_nil_iff.mp (mt String.isEmpty_iff.mpr hne)

/-! ## Rules from a line -/

namespace Rule

/-- What a rule from a line is made of. The raw operand is what the value
segment of the rule spells again: a value that was dropped is none. -/
structure FromLine (r : Rule) (k : Kind) (raw : Operand) : Prop where
  field : r.field ≠ ""
  fieldTight : Text.Tight r.field.toList
  fieldColon : ':' ∉ r.field.toList
  capability : r.capability = k.name
  value : r.value = raw.shaped k.shape r.field
  segment : r.value.segment = raw.segment
  spelled : raw.FromLine
  message : ∀ m ∈ r.message, m.toList ≠ [] ∧ Text.Tight m.toList
  /-- A single value has no comma around it. -/
  noComma : raw.scalar?.isSome → r.hasStrayComma = false

/-- Only the message can hold a colon. -/
theorem noColon_of_segments {text s : String} {i : Nat} (hi : i < 3)
    (h : (segments text)[i]? = some s) : ':' ∉ s.toList := by
  have hmem : s ∈ (segments text).take 3 := by
    refine List.mem_of_getElem? (i := i) ?_
    rw [List.getElem?_take_of_lt hi, h]
  rw [segments, ← List.map_take] at hmem
  obtain ⟨cs, hcs, rfl⟩ := List.mem_map.mp hmem
  rw [String.toList_ofList]
  exact fun hc => Text.notMem_of_mem_splitAtMost hcs (Text.trim_subset cs hc)

theorem mem_comma_of_mem_segments {text s : String} (h : s ∈ segments text)
    (hs : ',' ∈ s.toList) : ',' ∈ text.toList := by
  obtain ⟨cs, hcs, rfl⟩ := List.mem_map.mp h
  rw [String.toList_ofList] at hs
  exact Text.mem_of_mem_splitAtMost (by decide) hcs (Text.trim_subset cs hs)

theorem asList_of_scalar? {segment : String} {asList : Bool}
    (h : (readValue segment asList).scalar?.isSome) : asList = false := by
  unfold readValue at h
  split at h
  next => cases h
  next =>
    split at h
    next =>
      split at h
      next => cases h
      next => cases h
    next hsingle => exact eq_false_of_ne_true hsingle

theorem fromLine_rawValue (text : String) : (rawValue text).FromLine := by
  rw [rawValue]
  cases hs : (segments text)[2]? with
  | none => exact .absent
  | some s =>
      have hmem : s ∈ segments text := List.mem_of_getElem? hs
      refine fromLine_readValue (tight_of_mem_segments hmem) (noColon_of_segments (by decide) hs) ?_
      intro hcomma
      exact List.contains_iff_mem.mpr (mem_comma_of_mem_segments hmem hcomma)

/-- A single value comes from a line without a comma. -/
theorem notMem_comma_of_scalar? {text : String} (h : (rawValue text).scalar?.isSome) :
    ',' ∉ text.toList := by
  rw [rawValue] at h
  cases hs : (segments text)[2]? with
  | none =>
      rw [hs] at h
      cases h
  | some s =>
      rw [hs] at h
      have hlist : text.toList.contains ',' = false := asList_of_scalar? h
      simpa using hlist

theorem message_of_read {registry : Registry} {text : String} {r : Rule}
    (h : read registry text = .ok r) : ∀ m ∈ r.message, m ∈ segments text ∧ m ≠ "" := by
  intro m hm
  rw [(segments_of_read h).2.2] at hm
  obtain ⟨hm, hne⟩ := Option.mem_filter_iff.mp hm
  exact ⟨List.mem_of_getElem? hm, by simpa using hne⟩

theorem hasStrayComma_eq_false_iff (r : Rule) :
    r.hasStrayComma = false ↔ ',' ∉ r.field.toList ∧ ∀ m ∈ r.message, ',' ∉ m.toList := by
  simp [hasStrayComma, Option.any_eq_false]

/-- A rule over the built-in capabilities that is read from a line is made of
such parts. -/
theorem fromLine_of_read {text : String} {r : Rule} (h : read .builtin text = .ok r) :
    ∃ k raw, r.FromLine k raw := by
  obtain ⟨e, he, hname, hraw⟩ := read_eq_ok h
  obtain ⟨k, rfl⟩ := Registry.builtin_resolve_eq_ok he
  obtain ⟨hfield, hne, -⟩ := segments_of_read h
  obtain ⟨kept, hkept, hsingle, hshaped, hsegment⟩ :=
    (fromLine_rawValue text).exists_kept k.shape r.field
  have hvalue : r.value = kept.shaped k.shape r.field := hraw.symm.trans hshaped
  have hmem : r.field ∈ segments text := List.mem_of_getElem? hfield
  refine ⟨k, kept, hne, tight_of_mem_segments hmem, noColon_of_segments (by decide) hfield,
    hname.symm, hvalue, hvalue ▸ hsegment, hkept, ?_, ?_⟩
  · intro m hm
    obtain ⟨hm, hmne⟩ := message_of_read h m hm
    exact ⟨mt String.toList_eq_nil_iff.mp hmne, tight_of_mem_segments hm⟩
  · intro hscalar
    have hcomma := notMem_comma_of_scalar? (hsingle hscalar)
    refine r.hasStrayComma_eq_false_iff.mpr ⟨?_, ?_⟩
    · exact fun hc => hcomma (mem_comma_of_mem_segments hmem hc)
    · exact fun m hm hc => hcomma (mem_comma_of_mem_segments (message_of_read h m hm).1 hc)

theorem FromLine.separable {r : Rule} {k : Kind} {raw : Operand} (h : r.FromLine k raw) :
    Separable r where
  field := h.fieldTight
  fieldColon := h.fieldColon
  value := h.segment ▸ h.spelled.tight
  valueColon := h.segment ▸ h.spelled.noColon
  message := h.message

/-- The rule that is read from the print of a rule from a line. -/
theorem FromLine.read_render {r : Rule} {k : Kind} {raw : Operand} (h : r.FromLine k raw) :
    read .builtin r.render =
      .ok { r with value := if r.hasStrayComma then r.value else r.value.unlisted } := by
  have hname : IsItem (snakeCase r.capability) := h.capability ▸ k.isItem_snakeCase_name
  have hresolve : Registry.builtin.resolve (titleCase (snakeCase r.capability)) =
      .ok (.ofKind k) := h.capability ▸ k.resolve_snakeCase_name
  have hvalue : (if r.hasStrayComma then raw else raw.unlisted).shaped k.shape r.field =
      if r.hasStrayComma then r.value else r.value.unlisted := by
    rw [h.value, ← h.spelled.shaped_unlisted]
    exact apply_ite (Operand.shaped k.shape r.field) _ raw raw.unlisted
  rw [read_line h.separable h.field hname hresolve, contains_comma_render hname, h.segment,
    h.spelled.readValue_segment h.noComma]
  dsimp only [Entry.ofKind]
  rw [hvalue, ← h.capability]

end Rule

/-- **A printed rule reads back.** A text is read as a rule over the built-in
capabilities. Then the print of the rule is read as a rule with the same
field, the same capability and the same message. It has the same operand too,
unless that is a list of one item and neither the field nor the message has a
comma; then the item has taken the place of the list. -/
theorem printed_reads_back {text : String} {r : Rule} (h : Rule.read .builtin text = .ok r) :
    ∃ r', Rule.read .builtin r.render = .ok r' ∧ r'.field = r.field
      ∧ r'.capability = r.capability ∧ r'.message = r.message
      ∧ (r'.value ≠ r.value ↔
          r.value.isLone = true ∧ ',' ∉ r.field.toList ∧ ∀ m ∈ r.message, ',' ∉ m.toList)
      ∧ (r'.value ≠ r.value → ∃ s : String,
          (r.value = .list [.str s] ∧ r'.value = .scalar (.str s))
            ∨ (r.value = .keyed r.field (.arr [.str s]) ∧ r'.value = .keyed r.field (.str s))) := by
  obtain ⟨k, raw, hline⟩ := Rule.fromLine_of_read h
  have hstray := r.hasStrayComma_eq_false_iff
  have hchanged : (if r.hasStrayComma then r.value else r.value.unlisted) ≠ r.value ↔
      r.value.isLone = true ∧ r.hasStrayComma = false := by
    cases r.hasStrayComma with
    | true => simp
    | false => simp [Operand.unlisted_eq_self_iff]
  refine ⟨_, hline.read_render, rfl, rfl, rfl, hchanged.trans (and_congr_right' hstray), ?_⟩
  intro hne
  obtain ⟨hlone, hnone⟩ := hchanged.mp hne
  have hlone' : (raw.shaped k.shape r.field).isLone = true := hline.value ▸ hlone
  obtain ⟨s, hs⟩ := hline.spelled.exists_of_isLone hlone'
  refine ⟨s, ?_⟩
  rw [hnone]
  rcases hs with hs | hs
  · have hvalue : r.value = .list [.str s] := hline.value.trans hs
    exact .inl ⟨hvalue, congrArg Operand.unlisted hvalue⟩
  · have hvalue : r.value = .keyed r.field (.arr [.str s]) := hline.value.trans hs
    exact .inr ⟨hvalue, congrArg Operand.unlisted hvalue⟩

/-- A list of one item for a field, from a line with empty items around it. -/
theorem printed_reads_back_as_item :
    ∃ r r', Rule.read .builtin " tags : has_one_that_equals : a ,, : not: a" = .ok r
      ∧ r.value = .keyed "tags" (.arr [.str "a"])
      ∧ r.render = "tags:has_one_that_equals:a:not: a"
      ∧ Rule.read .builtin r.render = .ok r'
      ∧ r'.value = .keyed "tags" (.str "a") ∧ r'.message = some "not: a" := by
  have hread : (Rule.read .builtin " tags : has_one_that_equals : a ,, : not: a").toOption =
      some ⟨"tags", "HasOneThatEquals", .keyed "tags" (.arr [.str "a"]), some "not: a"⟩ := by
    decide +kernel
  obtain ⟨r', hr', -, -, hmessage, hchanged, hcases⟩ :=
    printed_reads_back (toOption_eq_some.mp hread)
  have hne := hchanged.mpr ⟨rfl, by decide, by simp⟩
  obtain ⟨s, hs⟩ := hcases hne
  refine ⟨_, r', toOption_eq_some.mp hread, rfl, by decide +kernel, hr', ?_, hmessage⟩
  rcases hs with ⟨hlist, -⟩ | ⟨hkeyed, hitem⟩
  · cases hlist
  · cases hkeyed
    exact hitem

end RecordRules
