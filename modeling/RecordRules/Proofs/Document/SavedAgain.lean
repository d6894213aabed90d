import Mathlib.Logic.Function.Iterate
import RecordRules.Proofs.Document.SavedMeaning
import RecordRules.Proofs.Rule.Shaping

/-!
# Sets that are saved again

A set that is saved and built again has every rule reread, and may be saved in
its turn. Numbers and booleans in a line have become text by then, which the
line spells as before (`Rule.ofRule_respelled`), so nearly every rule is saved
as the same entry again. The exception is a value for the rule's own field that
is a map with that field as its only key. It is saved without the outer field,
so the map is taken for a field and its value, and the next pass saves what is
left (`Rule.ofRule_reread_iff`).

Every pass takes one such map off (`Rule.nesting_reread`). So a set is saved as
the same document after `n` passes and after one more exactly if no rule has
more than `n` such maps, one within the other (`saving_settles_by_nesting`).
Saving always comes to an end, then, but one pass need not be enough
(`saving_again_changes_document`).
-/

namespace RecordRules

/-! ## Nested maps -/

/-- How many maps the value begins with, one within the other, that have the
field as their only key. -/
def Json.nesting (field : String) : Json → Nat
  | .obj [(g, v)] => if g = field then v.nesting field + 1 else 0
  | _ => 0

/-- How many such maps a value for the rule's own field begins with. -/
def Rule.nesting (r : Rule) : Nat :=
  match r.value with
  | .keyed f v => if f = r.field then v.nesting f else 0
  | _ => 0

/-! ## Lines -/

/-- A plain value is still plain when it has become text. -/
theorem isPlain_segmentText {v : Json} (h : isPlain v = true) :
    isPlain (.str (Operand.segmentText v)) = true := by
  have hitem := isItem_of_isPlain h
  simp only [isPlain, Bool.and_eq_true, Bool.not_eq_true', List.contains_eq_mem,
    decide_eq_false_iff_not]
  exact ⟨⟨⟨String.isEmpty_eq_false_iff.mpr hitem.ne_empty, hitem.noComma⟩, hitem.noColon⟩,
    isTrimmed_iff.mpr hitem.tight⟩

theorem arePlain_segmentText {items : List Json} (h : arePlain items = true) :
    arePlain (items.map fun v => .str (Operand.segmentText v)) = true := by
  rw [arePlain, Bool.and_eq_true, List.all_eq_true] at h ⊢
  refine ⟨by rw [List.length_map]; exact h.1, ?_⟩
  exact List.forall_mem_map.mpr fun v hv => isPlain_segmentText (h.2 v hv)

namespace Rule

theorem valueFits_respelled {r : Rule} (h : r.valueFits = true) :
    r.respelled.valueFits = true := by
  obtain ⟨field, capability, value, message⟩ := r
  cases value with
  | absent | field f => rfl
  | scalar v => exact isPlain_segmentText h
  | list items => exact arePlain_segmentText h
  | keyed f v =>
      rw [valueFits, Bool.and_eq_true] at h
      cases v with
      | null => exact Bool.and_eq_true_iff.mpr h
      | arr items => exact Bool.and_eq_true_iff.mpr ⟨h.1, arePlain_segmentText h.2⟩
      | bool b => exact Bool.and_eq_true_iff.mpr ⟨h.1, isPlain_segmentText h.2⟩
      | num n => exact Bool.and_eq_true_iff.mpr ⟨h.1, isPlain_segmentText h.2⟩
      | str s => exact Bool.and_eq_true_iff.mpr ⟨h.1, isPlain_segmentText h.2⟩
      | obj entries => cases h.2

theorem hasSingleValue_respelled (r : Rule) :
    r.respelled.hasSingleValue = r.hasSingleValue := by
  obtain ⟨field, capability, value, message⟩ := r
  cases value with
  | absent | field f | scalar v | list items => rfl
  | keyed f v => cases v <;> rfl

theorem fitsLine_respelled {r : Rule} (h : r.fitsLine = true) :
    r.respelled.fitsLine = true := by
  simp only [fitsLine, Bool.and_eq_true] at h ⊢
  obtain ⟨⟨⟨⟨hvalue, hcolon⟩, htrim⟩, hmessage⟩, hcomma⟩ := h
  refine ⟨⟨⟨⟨valueFits_respelled hvalue, hcolon⟩, htrim⟩, hmessage⟩, ?_⟩
  rw [hasSingleValue_respelled]
  exact hcomma

/-- A rule that fits a line is saved as the same line when it is respelled. -/
theorem ofRule_respelled {r : Rule} (h : r.fitsLine = true) :
    RuleEntry.ofRule r.respelled = RuleEntry.ofRule r := by
  rw [RuleEntry.ofRule, RuleEntry.ofRule, if_pos (fitsLine_respelled h), if_pos h,
    r.render_respelled]

end Rule

/-! ## Rules -/

/-- A map with one key that is given for the field is taken for that key and
its value, and nothing else is changed. -/
theorem Operand.unwrapped_cases (field : String) (o : Operand) :
    (∃ g v, o = .keyed field (.obj [(g, v)]) ∧ o.unwrapped field = .keyed g v)
    ∨ ((∀ g v, o ≠ .keyed field (.obj [(g, v)])) ∧ o.unwrapped field = o) := by
  unfold unwrapped
  split
  next f g v =>
    split
    next hf => exact .inl ⟨g, v, by rw [hf], rfl⟩
    next hf => exact .inr ⟨fun g v h => hf (keyed.inj h).1, rfl⟩
  next hne => exact .inr ⟨fun g v h => hne field g v h, rfl⟩

namespace Rule

variable {r : Rule}

/-- A value that begins with no such map has no nesting. -/
theorem nesting_eq_zero (h : ∀ v, r.value ≠ .keyed r.field (.obj [(r.field, v)])) :
    r.nesting = 0 := by
  rw [nesting]
  split
  next f v hvalue =>
    split
    next hf =>
      unfold Json.nesting
      split
      next g w =>
        rw [if_neg]
        rintro rfl
        exact h w (hf ▸ hvalue)
      next => rfl
    next => rfl
  next => rfl

theorem nesting_of_keyed {g : String} {v : Json} (h : r.value = .keyed r.field (.obj [(g, v)])) :
    r.nesting = if g = r.field then v.nesting r.field + 1 else 0 := by
  rw [nesting, h]
  dsimp only
  rw [if_pos rfl, Json.nesting]

/-- No map fits a line. -/
theorem fitsLine_ne_obj (h : r.fitsLine = true) (f : String) (entries : List (String × Json)) :
    r.value ≠ .keyed f (.obj entries) := by
  intro hvalue
  simp only [fitsLine, valueFits, hvalue, isPlain, Bool.and_false, Bool.false_and,
    Bool.false_eq_true] at h

/-- A rule that fits a line is respelled. Of the others, one whose value is a
map with one key for the rule's own field loses the map, and the rest come back
as they are. -/
theorem reread_cases (r : Rule) :
    (r.fitsLine = true ∧ r.reread = r.respelled)
    ∨ (∃ g v, r.value = .keyed r.field (.obj [(g, v)]) ∧ r.reread = { r with value := .keyed g v })
    ∨ ((∀ g v, r.value ≠ .keyed r.field (.obj [(g, v)])) ∧ r.reread = r) := by
  by_cases hfit : r.fitsLine = true
  · exact .inl ⟨hfit, by rw [reread, if_pos hfit, respelled]⟩
  · rw [reread, if_neg hfit]
    rcases r.value.unwrapped_cases r.field with ⟨g, v, hvalue, heq⟩ | ⟨hne, heq⟩
    · exact .inr (.inl ⟨g, v, hvalue, by rw [heq]⟩)
    · exact .inr (.inr ⟨hne, by rw [heq]⟩)

/-- **Every pass takes one map off.** -/
theorem nesting_reread (r : Rule) : r.reread.nesting = r.nesting - 1 := by
  rcases r.reread_cases with ⟨hfit, heq⟩ | ⟨g, v, hvalue, heq⟩ | ⟨hne, heq⟩
  · have hr : r.nesting = 0 := nesting_eq_zero fun v => fitsLine_ne_obj hfit _ _
    rw [heq, hr]
    exact nesting_eq_zero fun v => fitsLine_ne_obj (fitsLine_respelled hfit) _ _
  · rw [heq, nesting_of_keyed hvalue, nesting]
    dsimp only
    by_cases hg : g = r.field
    · rw [if_pos hg, if_pos hg, hg, Nat.add_sub_cancel]
    · rw [if_neg hg, if_neg hg]
  · rw [heq, nesting_eq_zero fun v => hne r.field v]

/-- A map that is given for the rule's own field is saved as it is. -/
theorem ofRule_of_keyed {entries : List (String × Json)}
    (h : r.value = .keyed r.field (.obj entries)) :
    RuleEntry.ofRule r =
      .binding ⟨r.field, snakeCase r.capability, some (.obj entries), r.message⟩ := by
  have hfit : ¬ r.fitsLine = true := fun hfit => fitsLine_ne_obj hfit _ _ h
  rw [RuleEntry.ofRule, if_neg hfit, savedValue, h]
  dsimp only
  rw [if_pos rfl]

/-- No value is saved as the map that holds it. -/
theorem savedValue_ne_obj (capability : String) (field : String) (v : Json)
    (message : Option String) :
    savedValue ⟨field, capability, .keyed field v, message⟩ ≠ some (.obj [(field, v)]) := by
  rw [savedValue]
  dsimp only
  rw [if_pos rfl]
  split
  next => exact (Option.some_ne_none _).symm
  next => exact fun h => Operand.ne_obj_singleton field v (Option.some.inj h)

/-- **A rule is saved as the same entry when it is reread, unless it has maps
nested.** -/
theorem ofRule_reread_iff (r : Rule) :
    RuleEntry.ofRule r.reread = RuleEntry.ofRule r ↔ r.nesting = 0 := by
  rcases r.reread_cases with ⟨hfit, heq⟩ | ⟨g, v, hvalue, heq⟩ | ⟨hne, heq⟩
  · refine iff_of_true ?_ (nesting_eq_zero fun v => fitsLine_ne_obj hfit _ _)
    rw [heq, ofRule_respelled hfit]
  · rw [heq, ofRule_of_keyed hvalue, nesting_of_keyed hvalue, RuleEntry.ofRule]
    by_cases hg : g = r.field
    · rw [if_pos hg, hg]
      refine iff_of_false (fun h => ?_) (Nat.succ_ne_zero _)
      split at h
      next => cases h
      next => exact savedValue_ne_obj _ _ v _ (congrArg RuleBinding.value (RuleEntry.binding.inj h))
    · have hfit : ¬ ({ r with value := .keyed g v } : Rule).fitsLine = true := by
        intro hfit
        simp [fitsLine, valueFits, hg] at hfit
      rw [if_neg hg, if_neg hfit, savedValue]
      dsimp only
      rw [if_neg hg]
      exact iff_of_true rfl rfl
  · refine iff_of_true ?_ (nesting_eq_zero fun v => hne r.field v)
    rw [heq]

theorem nesting_iterate_reread (r : Rule) (n : Nat) :
    (Rule.reread^[n] r).nesting = r.nesting - n := by
  induction n with
  | zero => rfl
  | succ n ih => rw [Function.iterate_succ_apply', nesting_reread, ih, Nat.sub_sub]

end Rule

/-! ## Sets -/

namespace ValidatorSet

/-- The rules of the conditions. -/
def gateRules (s : ValidatorSet) : List Rule := s.conditions.map Condition.toRule

/-- The rules of the validators, field by field. -/
def boundRules (s : ValidatorSet) : List Rule :=
  s.declared.flatMap fun d => d.bindings.map (Binding.toRule d.field)

theorem rules_eq (s : ValidatorSet) : s.rules = s.gateRules ++ s.boundRules := rfl

theorem gateRules_reread (s : ValidatorSet) : s.reread.gateRules = s.gateRules.map Rule.reread := by
  rw [gateRules, gateRules, reread, List.map_map, List.map_map]
  rfl

theorem boundRules_reread (s : ValidatorSet) :
    s.reread.boundRules = s.boundRules.map Rule.reread := by
  rw [boundRules, boundRules, reread, List.flatMap_map, List.map_flatMap]
  refine List.flatMap_congr fun d _ => ?_
  rw [DeclaredField.reread, List.map_map, List.map_map]
  rfl

theorem rules_reread (s : ValidatorSet) : s.reread.rules = s.rules.map Rule.reread := by
  rw [rules_eq, rules_eq, gateRules_reread, boundRules_reread, List.map_append]

theorem rules_iterate_reread (s : ValidatorSet) (n : Nat) :
    (reread^[n] s).rules = s.rules.map Rule.reread^[n] := by
  induction n with
  | zero => exact (List.map_id _).symm
  | succ n ih =>
      rw [Function.iterate_succ_apply', rules_reread, ih, List.map_map]
      exact congrArg (List.map · s.rules) (Function.iterate_succ' _ n).symm

/-- A document holds the entries of the rules, in order. -/
theorem toDocument_eq (s : ValidatorSet) :
    s.toDocument = ⟨s.strict, s.gateRules.map RuleEntry.ofRule,
      s.boundRules.map RuleEntry.ofRule⟩ := by
  rw [toDocument, gateRules, boundRules, List.map_map, List.map_flatMap]
  simp only [List.map_map]
  rfl

/-- A set is saved as the same document when it is reread, if its rules are
saved as the same entries. -/
theorem toDocument_reread_iff (s : ValidatorSet) :
    s.reread.toDocument = s.toDocument ↔ ∀ r ∈ s.rules, r.nesting = 0 := by
  have hstrict : s.reread.strict = s.strict := rfl
  rw [toDocument_eq, toDocument_eq, gateRules_reread, boundRules_reread, hstrict, List.map_map,
    List.map_map, Document.mk.injEq, eq_self, true_and, List.map_inj_left, List.map_inj_left,
    rules_eq, List.forall_mem_append]
  simp only [Function.comp_apply, Rule.ofRule_reread_iff]

end ValidatorSet

/-- **Saving comes to an end with the nested maps.** What a document is built
as is saved and built again, any number of times. A pass saves the same
document as the one before it exactly if by then all maps are taken off: if no
rule of the set has more maps nested than passes were made. -/
theorem saving_settles_by_nesting {d : Document} {s : ValidatorSet}
    (h : d.build .builtin = .ok s) :
    ∃ pass : Nat → ValidatorSet, pass 0 = s ∧ ∀ n,
      (pass n).toDocument.build .builtin = .ok (pass (n + 1))
      ∧ ((pass (n + 1)).toDocument = (pass n).toDocument ↔ ∀ r ∈ s.rules, r.nesting ≤ n) := by
  have hbuilt : ∀ n, ∃ e : Document, e.build .builtin = .ok (ValidatorSet.reread^[n] s) := by
    intro n
    induction n with
    | zero => exact ⟨d, h⟩
    | succ n ih =>
        obtain ⟨e, he⟩ := ih
        rw [Function.iterate_succ_apply']
        exact ⟨_, build_toDocument_reread he⟩
  refine ⟨fun n => ValidatorSet.reread^[n] s, rfl, fun n => ?_⟩
  obtain ⟨e, he⟩ := hbuilt n
  dsimp only
  rw [Function.iterate_succ_apply']
  refine ⟨build_toDocument_reread he, ?_⟩
  rw [ValidatorSet.toDocument_reread_iff, ValidatorSet.rules_iterate_reread, List.forall_mem_map]
  simp only [Rule.nesting_iterate_reread, Nat.sub_eq_zero_iff_le]

/-- An item is asked for that is a map of a map, under the name of the field. -/
def twiceNestedDocument : Document where
  conditions := [.line "b:in:1,2"]
  validators := [.binding ⟨"a", "has_one_that_equals",
    some (.obj [("a", .obj [("a", .obj [("a", .str "x")])])]), none⟩]

/-- The first two passes each save another document. -/
theorem saving_settles_in_third_pass :
    ∃ (s : ValidatorSet) (pass : Nat → ValidatorSet), twiceNestedDocument.build .builtin = .ok s
      ∧ pass 0 = s ∧ ∀ n, (pass n).toDocument.build .builtin = .ok (pass (n + 1))
        ∧ ((pass (n + 1)).toDocument = (pass n).toDocument ↔ 2 ≤ n) := by
  have hrun : (twiceNestedDocument.build .builtin >>= fun s =>
      pure (s.rules.map Rule.nesting)).toOption = some [0, 2] := by decide +kernel
  obtain ⟨s, hs, hrun⟩ := bind_eq_ok.mp (toOption_eq_some.mp hrun)
  have hnestings : s.rules.map Rule.nesting = [0, 2] := Except.ok.inj hrun
  obtain ⟨pass, hstart, hpass⟩ := saving_settles_by_nesting hs
  refine ⟨s, pass, hs, hstart, fun n => ⟨(hpass n).1, (hpass n).2.trans ?_⟩⟩
  have hmax : (∀ m ∈ s.rules.map Rule.nesting, m ≤ n) ↔ 2 ≤ n := by simp [hnestings]
  rwa [List.forall_mem_map] at hmax

/-- An item is asked for that is a map with the name of the field as its key. -/
def nestedOnceDocument : Document where
  validators := [.binding ⟨"a", "has_one_that_equals",
    some (.obj [("a", .obj [("a", .str "x")])]), none⟩]

/-- The map is saved without the field, and taken for the value of the field
then. -/
theorem saving_again_changes_document :
    ∃ s t, nestedOnceDocument.build .builtin = .ok s ∧ s.toDocument.build .builtin = .ok t
      ∧ s.toDocument.validators =
        [.binding ⟨"a", "has_one_that_equals", some (.obj [("a", .str "x")]), none⟩]
      ∧ t.toDocument.validators = [.line "a:has_one_that_equals:x"]
      ∧ t.toDocument ≠ s.toDocument := by
  have hrun : (nestedOnceDocument.build .builtin >>= fun s =>
      s.toDocument.build .builtin >>= fun t =>
        pure (s.toDocument.validators, t.toDocument.validators)).toOption =
      some ([.binding ⟨"a", "has_one_that_equals", some (.obj [("a", .str "x")]), none⟩],
        [.line "a:has_one_that_equals:x"]) := by decide +kernel
  obtain ⟨s, hs, hrun⟩ := bind_eq_ok.mp (toOption_eq_some.mp hrun)
  obtain ⟨t, ht, hrun⟩ := bind_eq_ok.mp hrun
  obtain ⟨hfirst, hsecond⟩ := Prod.mk.inj (Except.ok.inj hrun)
  refine ⟨s, t, hs, ht, hfirst, hsecond, fun he => ?_⟩
  rw [he, hfirst] at hsecond
  cases hsecond

end RecordRules
