import RecordRules.Proofs.Rule.Saved
import RecordRules.Proofs.ValidatorSet.Steps

/-!
# Ways to declare a validator

A validator is declared by a written rule, by the rule that was read from it,
by the entry of a document, or by its field, its capability, its operand and
its message. On the way the capability is looked up and the operand shaped,
once or twice. That makes no difference: what is found under a name is found
under its own name, and what is in shape is kept. So all these ways add the
same binding to a set (`ways_to_declare_agree`).
-/

namespace RecordRules

/-! ## Declaring -/

/-- Both spellings of a built-in name find the capability. -/
theorem Registry.builtin_resolve_of_spelling {k : Kind} {name : String}
    (h : name ∈ [k.name, snakeCase k.name]) : builtin.resolve name = .ok (.ofKind k) := by
  refine builtin_resolve_of_titleCase ?_
  rcases List.mem_pair.mp h with rfl | rfl
  · exact k.titleCase_name
  · exact k.titleCase_snakeCase_name

namespace ValidatorSet

theorem addValidatorFromRule_of_read {s : ValidatorSet} {text : String} {r : Rule}
    (h : Rule.read s.registry text = .ok r) : s.addValidatorFromRule text = s.addRule r := by
  rw [addValidatorFromRule, Building.addValidatorFromRule, after_get, after_lift, h, addRule]

/-- The only validator of a document is declared as its text is. -/
theorem foldlM_addValidatorEntry_line (s : ValidatorSet) (text : String) :
    [RuleEntry.line text].foldlM Document.addValidatorEntry s = s.addValidatorFromRule text := by
  rw [List.foldlM_cons, addValidatorEntry_eq, ← addValidatorFromRule_eq]
  cases s.addValidatorFromRule text <;> rfl

end ValidatorSet

/-- **All ways to declare a rule come to the same set.** A text is read as a
rule over the built-in capabilities. Then the text, the rule and the document
with the text as its only validator each add one binding to a set, and so does
a validator that is declared with the field and the message of the rule, under
either spelling of its capability and with the operand before or after it is
shaped. It is the same binding every time. -/
theorem ways_to_declare_agree {text : String} {r : Rule} (h : Rule.read .builtin text = .ok r)
    {s : ValidatorSet} (hs : s.registry = .builtin) :
    ∃ k t, r.capability = k.name ∧ t = s.addBinding r.field ⟨.ofKind k, r.value, r.message⟩
      ∧ s.addValidatorFromRule text = .ok t
      ∧ s.addRule r = .ok t
      ∧ ({ validators := [.line text] } : Document).validators.foldlM Document.addValidatorEntry s
        = .ok t
      ∧ ∀ name ∈ [r.capability, snakeCase r.capability], ∀ value ∈ [Rule.rawValue text, r.value],
          s.addValidator r.field name value r.message = .ok t := by
  obtain ⟨e, he, hname, hraw⟩ := Rule.read_eq_ok h
  obtain ⟨k, rfl⟩ := Registry.builtin_resolve_eq_ok he
  have hcapability : r.capability = k.name := hname.symm
  have hdeclare : ∀ name ∈ [r.capability, snakeCase r.capability],
      ∀ value ∈ [Rule.rawValue text, r.value], s.addValidator r.field name value r.message =
        .ok (s.addBinding r.field ⟨.ofKind k, r.value, r.message⟩) := by
    intro name hspelling value hvalue
    rw [hcapability] at hspelling
    have hshaped : value.shaped (Entry.ofKind k).shape r.field = r.value := by
      rcases List.mem_pair.mp hvalue with rfl | rfl
      · exact hraw
      · rw [← hraw, Operand.shaped_shaped]
    refine ValidatorSet.addValidator_of_resolve ?_ hshaped r.message
    rw [hs, Registry.builtin_resolve_of_spelling hspelling]
  have hrule : s.addRule r = .ok (s.addBinding r.field ⟨.ofKind k, r.value, r.message⟩) :=
    hdeclare _ (List.mem_cons_self ..) _ (List.mem_pair.mpr (.inr rfl))
  have htext := (ValidatorSet.addValidatorFromRule_of_read (hs ▸ h)).trans hrule
  exact ⟨k, _, hcapability, rfl, htext, hrule,
    (s.foldlM_addValidatorEntry_line text).trans htext, hdeclare⟩

/-- A list with a message, for a field that has a validator already. -/
theorem ways_to_declare_list_agree :
    ∃ s t, ValidatorSet.ofRules ["tags:not_empty", "name:equal:x"] .both = .ok s
      ∧ t.fields = ["tags", "name"] ∧ (t.bindings "tags").length = 2
      ∧ s.addValidatorFromRule " tags : has_one_that_equals : a, b : no: tag" = .ok t
      ∧ s.addRule ⟨"tags", "HasOneThatEquals", .keyed "tags" (.arr [.str "a", .str "b"]),
          some "no: tag"⟩ = .ok t
      ∧ s.addValidator "tags" "has_one_that_equals" (.list [.str "a", .str "b"])
          (some "no: tag") = .ok t := by
  have hread : (Rule.read .builtin " tags : has_one_that_equals : a, b : no: tag").toOption =
      some ⟨"tags", "HasOneThatEquals", .keyed "tags" (.arr [.str "a", .str "b"]),
        some "no: tag"⟩ := by decide +kernel
  have hraw : Rule.rawValue " tags : has_one_that_equals : a, b : no: tag" =
      .list [.str "a", .str "b"] := by decide +kernel
  have hsnake : snakeCase "HasOneThatEquals" = "has_one_that_equals" := by decide +kernel
  have hrun : (ValidatorSet.ofRules ["tags:not_empty", "name:equal:x"] .both >>= fun s =>
      s.addValidatorFromRule " tags : has_one_that_equals : a, b : no: tag" >>= fun t =>
        pure (t.fields, (t.bindings "tags").length)).toOption =
      some (["tags", "name"], 2) := by decide +kernel
  obtain ⟨s, hs, hrun⟩ := bind_eq_ok.mp (toOption_eq_some.mp hrun)
  obtain ⟨u, hu, hrun⟩ := bind_eq_ok.mp hrun
  obtain ⟨hfields, hlength⟩ := Prod.mk.inj (Except.ok.inj hrun)
  have hregistry : s.registry = .builtin := by
    rw [@Start.make_fst (.ofRules _ _) s hs, ValidatorSet.registry_applyAll]
    rfl
  obtain ⟨k, t, -, -, htext, hrule, -, hdeclare⟩ :=
    ways_to_declare_agree (toOption_eq_some.mp hread) hregistry
  obtain rfl : t = u := Except.ok.inj (htext.symm.trans hu)
  refine ⟨s, t, hs, hfields, hlength, htext, hrule, ?_⟩
  rw [← hraw, ← hsnake]
  exact hdeclare _ (List.mem_pair.mpr (.inr rfl)) _ (List.mem_cons_self ..)

end RecordRules
