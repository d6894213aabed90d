import RecordRules.Proofs.Registry
import RecordRules.Proofs.Rule.ReadBack

/-!
# Saved rules read back

An entry over the built-in capabilities is read as a rule that gives a
capability a value (`Rule.Gives`): the value is brought into the shape of the
capability for the rule's own field. The entry that such a rule is saved as is
read back as `Rule.reread`, which is the rule itself but for two losses
(`RuleEntry.toRule_ofRule_reread`):

- in a line, numbers and booleans become text (`Operand.respelled`);
- in a map, a value for the rule's own field is written without the field, so
  if it is a map with one entry itself, that entry is taken for the field and
  its value (`Operand.unwrapped`).

Neither happens to a rule whose value is text, a list of texts or nothing: it
is read back as the very same rule (`RuleEntry.toRule_ofRule`).
-/

namespace RecordRules

/-! ## Values that are text -/

/-- The value is text, a list of texts or null. -/
def Json.isTextual : Json → Bool
  | .null | .str _ => true
  | .arr items => items.all Json.isText
  | _ => false

/-- The entry has no value that is not text. -/
def RuleEntry.isTextual : RuleEntry → Bool
  | .line _ => true
  | .binding b => b.value.all Json.isTextual

/-- The raw operands that such values give. -/
inductive Operand.Textual : Operand → Prop
  | absent : Textual .absent
  | text (s : String) : Textual (.scalar (.str s))
  | texts (ss : List String) : Textual (.list (ss.map .str))

/-- Rules that such entries are read as. -/
structure Rule.Textual (r : Rule) (k : Kind) : Prop where
  field : r.field ≠ ""
  trimmed : Text.trimmed r.field = r.field
  capability : r.capability = k.name
  value : ∃ raw : Operand, raw.Textual ∧ r.value = raw.shaped k.shape r.field

theorem Json.exists_texts {items : List Json} (h : items.all Json.isText = true) :
    ∃ ss : List String, items = ss.map .str := by
  induction items with
  | nil => exact ⟨[], rfl⟩
  | cons v items ih =>
      rw [List.all_cons, Bool.and_eq_true] at h
      obtain ⟨ss, rfl⟩ := ih h.2
      cases v with
      | str s => exact ⟨s :: ss, rfl⟩
      | null | bool b | num n | arr vs | obj es => cases h.1

theorem Operand.Textual.exists_ofJson {raw : Operand} (h : raw.Textual) :
    ∃ v, raw = .ofJson v := by
  cases h with
  | absent => exact ⟨.null, rfl⟩
  | text s => exact ⟨.str s, rfl⟩
  | texts ss => exact ⟨.arr (ss.map .str), rfl⟩

theorem Operand.textual_ofJson {v : Json} (h : v.isTextual = true) :
    (Operand.ofJson v).Textual := by
  cases v with
  | null => exact .absent
  | bool b => cases h
  | num n => cases h
  | str s => exact .text s
  | arr items =>
      obtain ⟨ss, rfl⟩ := Json.exists_texts h
      exact .texts ss
  | obj entries => cases h

/-! ## Reading -/

/-- The rule gives a value to a capability of its field. -/
structure Rule.Gives (r : Rule) (k : Kind) (v : Json) : Prop where
  field : r.field ≠ ""
  trimmed : Text.trimmed r.field = r.field
  capability : r.capability = k.name
  value : r.value = (Operand.ofJson v).shaped k.shape r.field

/-- A value segment gives text, a list of texts or nothing. -/
theorem Rule.readValue_eq_ofJson (segment : String) (asList : Bool) :
    ∃ v, v.isTextual = true ∧ Rule.readValue segment asList = .ofJson v := by
  unfold Rule.readValue
  split
  · exact ⟨.null, rfl, rfl⟩
  · split
    · split
      · exact ⟨.null, rfl, rfl⟩
      · exact ⟨.arr ((Rule.listItems segment).map .str), by simp [Json.isTextual, Json.isText], rfl⟩
    · exact ⟨.str segment, rfl, rfl⟩

theorem Rule.gives_resolve {field name : String} {v : Json} {message : Option String} {r : Rule}
    (hfield : field ≠ "") (htrim : Text.trimmed field = field)
    (h : Rule.resolve .builtin field name (.ofJson v) message = .ok r) : ∃ k, r.Gives k v := by
  obtain ⟨e, he, hr⟩ := bind_eq_ok.mp h
  obtain ⟨k, rfl⟩ := Registry.builtin_resolve_eq_ok he
  cases hr
  exact ⟨k, hfield, htrim, rfl, rfl⟩

/-- The operand of a written rule as its value segment gives it, before it is
shaped. -/
def Rule.rawValue (text : String) : Operand :=
  ((segments text)[2]?).elim .absent fun s => readValue s (text.toList.contains ',')

/-- A rule is read with the name of its capability as it is registered, and
with the operand in shape for its field. -/
theorem Rule.read_eq_ok {registry : Registry} {text : String} {r : Rule}
    (h : read registry text = .ok r) :
    ∃ e, registry.resolve r.capability = .ok e ∧ e.name = r.capability
      ∧ (rawValue text).shaped e.shape r.field = r.value := by
  rw [read] at h
  split at h
  next field name rest hsegments =>
    split at h
    next => cases h
    next =>
      obtain ⟨e, he, h⟩ := bind_eq_ok.mp h
      cases h
      refine ⟨e, Registry.resolve_name he, rfl, ?_⟩
      rw [rawValue, hsegments]
      rfl
  next => cases h

/-- And with segments of its line as its field and its message. -/
theorem Rule.segments_of_read {registry : Registry} {text : String} {r : Rule}
    (h : read registry text = .ok r) :
    (segments text)[0]? = some r.field ∧ r.field ≠ ""
      ∧ r.message = ((segments text)[3]?).filter (!·.isEmpty) := by
  rw [read] at h
  split at h
  next field name rest hsegments =>
    split at h
    next => cases h
    next hne =>
      obtain ⟨e, -, h⟩ := bind_eq_ok.mp h
      cases h
      rw [hsegments]
      refine ⟨rfl, ?_, rfl⟩
      rintro rfl
      exact hne rfl
  next => cases h

theorem Rule.tight_of_mem_segments {text s : String} (h : s ∈ segments text) :
    Text.Tight s.toList := by
  obtain ⟨cs, -, rfl⟩ := List.mem_map.mp h
  rw [String.toList_ofList]
  exact Text.tight_trim cs

theorem Rule.rawValue_eq_ofJson (text : String) :
    ∃ v, v.isTextual = true ∧ rawValue text = .ofJson v := by
  rw [rawValue]
  cases (segments text)[2]? with
  | none => exact ⟨.null, rfl, rfl⟩
  | some segment => exact readValue_eq_ofJson segment _

/-- An entry is read as a rule that gives a value; text, if the value of the
entry is. -/
theorem RuleEntry.gives_toRule {entry : RuleEntry} {r : Rule}
    (h : entry.toRule .builtin = .ok r) :
    ∃ k v, r.Gives k v ∧ (entry.isTextual = true → v.isTextual = true) := by
  cases entry with
  | line text =>
      obtain ⟨hfield, hne, -⟩ := Rule.segments_of_read h
      obtain ⟨e, he, hname, hraw⟩ := Rule.read_eq_ok h
      obtain ⟨k, rfl⟩ := Registry.builtin_resolve_eq_ok he
      obtain ⟨v, hv, heq⟩ := Rule.rawValue_eq_ofJson text
      have htight := Rule.tight_of_mem_segments (List.mem_of_getElem? hfield)
      rw [heq] at hraw
      exact ⟨k, v, ⟨hne, htight.trimmed_eq, hname.symm, hraw.symm⟩, fun _ => hv⟩
  | binding b =>
      rw [toRule, RuleBinding.toRule] at h
      split at h
      · cases h
      · next hne =>
        have hfield : Text.trimmed b.field ≠ "" := by
          intro he
          rw [he] at hne
          exact hne rfl
        have hvalue : b.value.elim .absent Operand.ofJson = Operand.ofJson (b.value.getD .null) := by
          cases b.value <;> rfl
        rw [hvalue] at h
        obtain ⟨k, hk⟩ := Rule.gives_resolve hfield (Text.tight_trimmed b.field).trimmed_eq h
        refine ⟨k, _, hk, fun ht => ?_⟩
        rw [isTextual] at ht
        cases hv : b.value with
        | none => rfl
        | some v =>
            rw [hv] at ht
            exact ht

theorem Rule.Gives.textual {r : Rule} {k : Kind} {v : Json} (h : r.Gives k v)
    (hv : v.isTextual = true) : r.Textual k :=
  ⟨h.field, h.trimmed, h.capability, _, Operand.textual_ofJson hv, h.value⟩

/-- An entry with a value that is text, if any, is read as a textual rule. -/
theorem RuleEntry.textual_toRule {entry : RuleEntry} {r : Rule} (ht : entry.isTextual = true)
    (h : entry.toRule .builtin = .ok r) : ∃ k, r.Textual k := by
  obtain ⟨k, v, hk, hv⟩ := gives_toRule h
  exact ⟨k, hk.textual (hv ht)⟩

/-! ## Saving -/

/-- The operand as a line spells it: numbers and booleans as text. -/
def Operand.respelled : Operand → Operand
  | .scalar v => .scalar (.str (segmentText v))
  | .list items => .list (items.map fun v => .str (segmentText v))
  | .keyed f .null => .keyed f .null
  | .keyed f (.arr items) => .keyed f (.arr (items.map fun v => .str (segmentText v)))
  | .keyed f v => .keyed f (.str (segmentText v))
  | o => o

/-- Text is spelled as the number or boolean that it was. -/
theorem Operand.segment_respelled (o : Operand) : o.respelled.segment = o.segment := by
  have hlist : ∀ items : List Json,
      segmentList (items.map fun v => .str (segmentText v)) = segmentList items := by
    intro items
    rw [segmentList, segmentList, List.map_map]
    rfl
  cases o with
  | absent | field f | scalar v => rfl
  | list items => exact hlist items
  | keyed f v =>
      cases v with
      | arr items => exact hlist items
      | null | bool b | num n | str s | obj entries => rfl

/-- The rule with its value as a line spells it. -/
def Rule.respelled (r : Rule) : Rule := { r with value := r.value.respelled }

theorem Rule.render_respelled (r : Rule) : r.respelled.render = r.render := by
  rw [render, render, respelled, r.value.segment_respelled]

/-- The operand as a map holds it that leaves out the rule's own field: a map
with one entry is taken for a field and its value. -/
def Operand.unwrapped (field : String) : Operand → Operand
  | .keyed f (.obj [(g, v)]) => if f = field then .keyed g v else .keyed f (.obj [(g, v)])
  | o => o

/-- The rule that the entry is read as which a rule is saved as. -/
def Rule.reread (r : Rule) : Rule :=
  { r with value := if r.fitsLine then r.value.respelled else r.value.unwrapped r.field }

namespace Rule.Gives

variable {r : Rule} {k : Kind} {v : Json}

/-- The shape makes up again what a value segment leaves out. -/
theorem written_shaped (h : r.Gives k v) (hfit : r.valueFits = true) :
    r.value.written.shaped k.shape r.field = r.value.respelled := by
  have hvalue := h.value
  rw [valueFits] at hfit
  cases hk : k.shape with
  | scalar =>
      rw [hk, Operand.shaped_scalar] at hvalue
      rw [hvalue]
      cases v <;> rfl
  | fieldKeyed =>
      obtain ⟨f, w, hw⟩ := Operand.exists_keyedFor r.field (Operand.ofJson v)
      rw [hk, Operand.shaped, hw] at hvalue
      rw [hvalue, Bool.and_eq_true, beq_iff_eq] at hfit
      rw [hvalue, hfit.1]
      cases w <;> rfl
  | fieldName =>
      rw [hk] at hvalue
      rw [hvalue]
      cases v <;> rfl

/-- And what the value of a map leaves out, but for a map of one entry. -/
theorem savedValue_shaped (h : r.Gives k v) :
    (r.savedValue.elim .absent Operand.ofJson).shaped k.shape r.field =
      r.value.unwrapped r.field := by
  have hvalue := h.value
  rw [savedValue]
  cases hk : k.shape with
  | scalar =>
      rw [hk, Operand.shaped_scalar] at hvalue
      rw [hvalue]
      cases v <;> rfl
  | fieldKeyed =>
      obtain ⟨f, w, hw⟩ := Operand.exists_keyedFor r.field (Operand.ofJson v)
      rw [hk, Operand.shaped, hw] at hvalue
      rw [hvalue]
      by_cases hf : f = r.field
      · cases w with
        | obj entries =>
            rcases entries with _ | ⟨⟨g, u⟩, _ | ⟨e, entries⟩⟩ <;>
              simp [hf, Operand.ofJson, Operand.shaped, Operand.keyedFor, Operand.unwrapped]
        | null | bool b | num n | str t | arr items =>
            simp [hf, Operand.ofJson, Operand.shaped, Operand.keyedFor, Operand.unwrapped]
      · have hsame : (Operand.keyed f w).unwrapped r.field = .keyed f w := by
          unfold Operand.unwrapped
          split
          next heq =>
            cases heq
            rw [if_neg hf]
          next => rfl
        rw [hsame]
        simp [hf, Operand.ofJson, Operand.shaped, Operand.keyedFor]
  | fieldName =>
      rw [hk] at hvalue
      rw [hvalue]
      cases v <;> rfl

end Rule.Gives

theorem Kind.isItem_snakeCase_name (k : Kind) : IsItem (snakeCase k.name) := by
  have hall : ∀ k ∈ Kind.catalogue, snakeChars k.name.toList ≠ []
      ∧ (snakeChars k.name.toList).all isItemChar = true := by decide +kernel
  obtain ⟨hne, hchars⟩ := hall k k.mem_catalogue
  refine isItem_of_chars ?_ ?_
  · rwa [snakeCase, String.toList_ofList]
  · rwa [snakeCase, String.toList_ofList, ← List.all_eq_true]

theorem Kind.resolve_snakeCase_name (k : Kind) :
    Registry.builtin.resolve (titleCase (snakeCase k.name)) = .ok (.ofKind k) := by
  rw [k.titleCase_snakeCase_name, Registry.builtin_resolve]

/-- **The entry that a rule is saved as is read as what `reread` says.** -/
theorem RuleEntry.toRule_ofRule_reread {r : Rule} {k : Kind} {v : Json} (h : r.Gives k v) :
    (RuleEntry.ofRule r).toRule .builtin = .ok r.reread := by
  have hname : IsItem (snakeCase r.capability) := h.capability ▸ k.isItem_snakeCase_name
  have hresolve : Registry.builtin.resolve (titleCase (snakeCase r.capability)) =
      .ok (.ofKind k) := h.capability ▸ k.resolve_snakeCase_name
  have hrule : ∀ value : Operand,
      (⟨r.field, k.name, value, r.message⟩ : Rule) = { r with value } := by
    intro value
    rw [← h.capability]
  rw [RuleEntry.ofRule, Rule.reread]
  split
  next hfit =>
    have hvalue : r.valueFits = true := by
      simp only [Rule.fitsLine, Bool.and_eq_true] at hfit
      exact hfit.1.1.1.1
    rw [toRule, Rule.read_render hfit h.field hname hresolve]
    refine congrArg Except.ok ((hrule _).trans ?_)
    exact congrArg (fun value => { r with value }) (h.written_shaped hvalue)
  next =>
    have hne : ¬ (r.field.isEmpty || (snakeCase r.capability).isEmpty) = true := by
      simp [h.field, hname.ne_empty]
    rw [toRule, RuleBinding.toRule]
    dsimp only
    rw [h.trimmed, hname.tight.trimmed_eq, if_neg hne, Rule.resolve, hresolve]
    refine congrArg Except.ok ((hrule _).trans ?_)
    exact congrArg (fun value => { r with value }) h.savedValue_shaped

/-! ## Textual rules -/

/-- Neither loss happens to text. -/
theorem Rule.reread_of_textual {r : Rule} {k : Kind} (h : r.Textual k) : r.reread = r := by
  obtain ⟨raw, hraw, hvalue⟩ := h.value
  have hrespelled : r.value.respelled = r.value := by
    rw [hvalue]
    cases hraw with
    | absent => cases k.shape <;> rfl
    | text s => cases k.shape <;> rfl
    | texts ss =>
        have htexts : (ss.map Json.str).map (fun v => .str (Operand.segmentText v)) =
            ss.map Json.str := by
          rw [List.map_map]
          rfl
        cases k.shape with
        | scalar => exact congrArg Operand.list htexts
        | fieldKeyed =>
            exact congrArg (fun items : List Json => Operand.keyed r.field (.arr items)) htexts
        | fieldName => rfl
  have hunwrapped : r.value.unwrapped r.field = r.value := by
    rw [hvalue]
    cases hraw <;> cases k.shape <;> rfl
  rw [reread, hrespelled, hunwrapped, ite_self]

/-- **A textual rule is read back from the entry that it is saved as.** -/
theorem RuleEntry.toRule_ofRule {r : Rule} {k : Kind} (h : r.Textual k) :
    (RuleEntry.ofRule r).toRule .builtin = .ok r := by
  obtain ⟨raw, hraw, hvalue⟩ := h.value
  obtain ⟨v, rfl⟩ := hraw.exists_ofJson
  have hgives : r.Gives k v := ⟨h.field, h.trimmed, h.capability, hvalue⟩
  rw [toRule_ofRule_reread hgives, Rule.reread_of_textual h]

end RecordRules
