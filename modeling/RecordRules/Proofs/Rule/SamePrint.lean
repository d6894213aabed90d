import RecordRules.Proofs.Rule.Saved

/-!
# Rules with the same print

How much the print of a rule tells of the rule. If neither the field nor the
value segment holds a colon, the print is cut into the parts again, so rules
with one print have the same field, capability, value segment and message
(`Rule.Gives.parts_of_render_eq`). A value segment spells one operand only
(`Written.unique`), and the shape of the capability makes up again what it
leaves out; so the values are the same, too, but for numbers and booleans that
became text (`Rule.Gives.render_eq_iff`).
-/

namespace RecordRules

/-! ## Value segments -/

/-- A value segment spells one operand only. -/
theorem Written.unique {segment : String} {raw raw' : Operand} (h : Written segment raw)
    (h' : Written segment raw') : raw = raw' := by
  have hread : Rule.readValue segment (false || segment.toList.contains ',') = raw :=
    h.readValue_eq fun _ => rfl
  have hread' : Rule.readValue segment (false || segment.toList.contains ',') = raw' :=
    h'.readValue_eq fun _ => rfl
  exact hread.symm.trans hread'

/-! ## Parts -/

theorem Kind.name_inj {k k' : Kind} (h : k.name = k'.name) : k = k' :=
  List.inj_on_of_nodup_map nodup_names k.mem_catalogue k'.mem_catalogue h

namespace Rule

variable {r r' : Rule} {k k' : Kind} {v v' : Json}

theorem getElem?_parts (r : Rule) :
    r.parts[0]? = some r.field ∧ r.parts[1]? = some (snakeCase r.capability)
      ∧ r.parts[2]?.getD "" = r.value.segment ∧ r.parts[3]? = r.message := by
  unfold parts
  cases r.message with
  | some m => exact ⟨rfl, rfl, rfl, rfl⟩
  | none =>
      cases hv : r.value.segment.isEmpty with
      | true => exact ⟨rfl, rfl, (String.isEmpty_iff.mp hv).symm, rfl⟩
      | false => exact ⟨rfl, rfl, rfl, rfl⟩

theorem parts_inj (h : r.parts = r'.parts) :
    r.field = r'.field ∧ snakeCase r.capability = snakeCase r'.capability
      ∧ r.value.segment = r'.value.segment ∧ r.message = r'.message := by
  obtain ⟨hfield, hname, hvalue, hmessage⟩ := r.getElem?_parts
  obtain ⟨hfield', hname', hvalue', hmessage'⟩ := r'.getElem?_parts
  rw [h] at hfield hname hvalue hmessage
  exact ⟨Option.some.inj (hfield.symm.trans hfield'), Option.some.inj (hname.symm.trans hname'),
    hvalue.symm.trans hvalue', hmessage.symm.trans hmessage'⟩

/-- What the print tells of a rule if only the message may hold a colon. -/
theorem Gives.parts_of_render_eq (h : r.Gives k v) (h' : r'.Gives k' v') (hf : ':' ∉ r.field.toList)
    (hf' : ':' ∉ r'.field.toList) (hv : ':' ∉ r.value.segment.toList)
    (hv' : ':' ∉ r'.value.segment.toList) (heq : r.render = r'.render) :
    r.field = r'.field ∧ k = k' ∧ r.value.segment = r'.value.segment ∧ r.message = r'.message := by
  have hname := k.isItem_snakeCase_name.noColon
  have hname' := k'.isItem_snakeCase_name.noColon
  rw [← h.capability] at hname
  rw [← h'.capability] at hname'
  have hcut := splitAtMost_render hf hname hv
  rw [heq, splitAtMost_render hf' hname' hv'] at hcut
  have hparts : r.parts = r'.parts :=
    (List.map_injective_iff.mpr fun s t => String.toList_inj.mp) hcut.symm
  obtain ⟨hfield, hcapability, hvalue, hmessage⟩ := parts_inj hparts
  refine ⟨hfield, ?_, hvalue, hmessage⟩
  have hkinds := congrArg titleCase hcapability
  rw [h.capability, h'.capability, k.titleCase_snakeCase_name, k'.titleCase_snakeCase_name]
    at hkinds
  exact Kind.name_inj hkinds

/-! ## Printable rules -/

/-- The value can be a value segment, and the field cannot be cut in two. -/
structure IsPrintable (r : Rule) : Prop where
  field : ':' ∉ r.field.toList
  value : r.valueFits = true

/-- **The print tells the rule**, but for numbers and booleans in its value. -/
theorem Gives.render_eq_iff (h : r.Gives k v) (h' : r'.Gives k' v') (hr : r.IsPrintable)
    (hr' : r'.IsPrintable) : r.render = r'.render ↔ r.respelled = r'.respelled := by
  constructor
  · intro heq
    have hw := Written.ofFits hr.value
    have hw' := Written.ofFits hr'.value
    obtain ⟨hfield, rfl, hsegment, hmessage⟩ :=
      h.parts_of_render_eq h' hr.field hr'.field hw.noColon hw'.noColon heq
    rw [hsegment] at hw
    have hvalue := h.written_shaped hr.value
    rw [hw.unique hw', hfield, h'.written_shaped hr'.value] at hvalue
    rw [respelled, respelled, ← hvalue, hfield, hmessage, h.capability, h'.capability]
  · intro heq
    rw [← r.render_respelled, heq, r'.render_respelled]

end Rule

end RecordRules
