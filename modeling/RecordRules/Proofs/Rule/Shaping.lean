import RecordRules.Proofs.Rule.Declared

/-!
# Shaping and resolving

The operand of a condition is kept as it was given: for every record first its
references are put in place, and then it is brought into the shape of its
capability. The operand of a validator is shaped once, when it is declared, and
references are put in place later. So a raw operand goes through the same two
steps in either order.

For most shapes the order does not matter. Pairing an operand with a field is
another thing (`keyedFor`), as it looks at the operand: a list becomes one
value, in which nothing is replaced any more, and a map with one entry is taken
apart, be it the operand's own or one that a record has put in. These are the
cases in which the two orders part, and there are no others
(`Operand.shaped_resolve_comm_iff`).
-/

namespace RecordRules

namespace Operand

/-- Putting references in place before the operand is paired with a field is
the same as doing so after: nothing in a list is replaced, nor in a map with one
entry, and no text stands for such a map. -/
def IsOrderFree (record : Json) : Operand → Prop
  | .list items => ∀ item ∈ items, resolveValue record item = item
  | .scalar (.str text) => ∀ f v, resolveText record text ≠ .obj [(f, v)]
  | .scalar (.obj [(_, v)]) => resolveValue record v = v
  | _ => True

section Pairing

variable {field : String} {record : Json}

/-- A value that is no map with one entry is paired with the field whole. -/
theorem keyedFor_scalar {v : Json} (h : ∀ f w, v ≠ .obj [(f, w)]) :
    (scalar v).keyedFor field = .keyed field v := by
  cases v with
  | null | bool b | num n | str s | arr items => rfl
  | obj entries =>
      rcases entries with _ | ⟨⟨f, w⟩, _ | ⟨e, es⟩⟩
      · rfl
      · exact absurd rfl (h f w)
      · rfl

/-- A value is not a map that holds it. -/
theorem ne_obj_singleton (f : String) (v : Json) : v ≠ .obj [(f, v)] := by
  intro h
  have hsize := congrArg sizeOf h
  simp only [Json.obj.sizeOf_spec, List.cons.sizeOf_spec, List.nil.sizeOf_spec,
    Prod.mk.sizeOf_spec] at hsize
  omega

theorem map_resolveValue_eq_self {items : List Json} :
    items.map (resolveValue record) = items ↔ ∀ item ∈ items, resolveValue record item = item := by
  constructor
  · intro h item hitem
    rw [← List.map_id items, List.map_map] at h
    exact List.map_inj_left.mp h item hitem
  · intro h
    exact (List.map_congr_left h).trans (List.map_id _)

/-- A text that stands for a map with one entry gives that entry if it is
resolved first, and the whole map for the field if it is paired first. -/
theorem keyedFor_resolve_text_iff (text : String) :
    ((scalar (.str text)).resolve record).keyedFor field =
        ((scalar (.str text)).keyedFor field).resolve record ↔
      ∀ f v, resolveText record text ≠ .obj [(f, v)] := by
  change (scalar (resolveText record text)).keyedFor field =
    keyed field (resolveText record text) ↔ _
  constructor
  · intro h f v hv
    rw [hv] at h
    exact ne_obj_singleton f v (keyed.inj h).2
  · exact keyedFor_scalar

theorem keyedFor_resolve_iff (o : Operand) :
    (o.resolve record).keyedFor field = (o.keyedFor field).resolve record ↔
      o.IsOrderFree record := by
  cases o with
  | absent | keyed f v | field f => exact iff_of_true rfl trivial
  | list items =>
      refine Iff.trans ?_ map_resolveValue_eq_self
      change keyed field (.arr (items.map _)) = keyed field (.arr items) ↔ _
      rw [keyed.injEq, Json.arr.injEq, and_iff_right rfl]
  | scalar v =>
      cases v with
      | null | bool b | num n | arr items => exact iff_of_true rfl trivial
      | str text => exact keyedFor_resolve_text_iff text
      | obj entries =>
          rcases entries with _ | ⟨⟨f, w⟩, _ | ⟨e, es⟩⟩
          · exact iff_of_true rfl trivial
          · change keyed f w = keyed f (resolveValue record w) ↔ resolveValue record w = w
            rw [keyed.injEq, and_iff_right rfl, eq_comm]
          · exact iff_of_true rfl trivial

theorem namedFor_resolve (o : Operand) :
    (o.resolve record).namedFor field = (o.namedFor field).resolve record := by
  cases o <;> rfl

/-- **Only for a capability that takes a field and a value the order of shaping
and resolving matters**, and then exactly for the operands that are not free of
it. -/
theorem shaped_resolve_comm_iff (shape : OperandShape) (o : Operand) :
    (o.resolve record).shaped shape field = (o.shaped shape field).resolve record ↔
      (shape = .fieldKeyed → o.IsOrderFree record) := by
  cases shape with
  | scalar => exact iff_of_true rfl nofun
  | fieldKeyed => exact (keyedFor_resolve_iff o).trans ⟨fun h _ => h, fun h => h rfl⟩
  | fieldName => exact iff_of_true (namedFor_resolve o) nofun

end Pairing

end Operand

/-- **A condition and a validator of the same rule make the same instance**, or
fail with the same error, for every raw operand, unless their capability takes a
field and a value and the operand is not free of the order in which it is shaped
and resolved. -/
theorem condition_binds_as_validator_materializes {name : String} {k : Kind}
    (hk : Registry.builtin.resolve name = .ok (.ofKind k)) {field : String} {o : Operand}
    {record : Json} (ho : k.shape = .fieldKeyed → o.IsOrderFree record) :
    ∃ c b, Condition.new .builtin field name o = .ok c
      ∧ (∀ s : ValidatorSet, s.registry = .builtin →
          s.addValidator field name o = .ok (s.addBinding field b))
      ∧ c.bind record = b.materialize record := by
  refine ⟨{ field, entry := .ofKind k, value := o }, ⟨.ofKind k, o.shaped k.shape field, none⟩,
    ?_, ?_, ?_⟩
  · rw [Condition.new, hk]
    rfl
  · intro s hs
    exact ValidatorSet.addValidator_of_resolve (by rw [hs, hk]) rfl none
  · change (Entry.ofKind k).construct ((o.resolve record).shaped k.shape field) none =
      (Entry.ofKind k).construct ((o.shaped k.shape field).resolve record) none
    rw [(Operand.shaped_resolve_comm_iff k.shape o).mpr ho]

/-- What is wanted is told by the record, as a map with two entries. -/
def recordOfWanted : Json :=
  .obj [("wanted", .obj [("color", .str "red"), ("size", .str "m")]), ("tags", .arr [])]

theorem condition_binds_as_validator_materializes_for_map :
    Operand.IsOrderFree recordOfWanted (.scalar (.str "[wanted]"))
      ∧ ∃ c b i,
        Condition.new .builtin "tags" "HasOneThatEquals" (.scalar (.str "[wanted]")) = .ok c
          ∧ ValidatorSet.empty.addValidator "tags" "HasOneThatEquals" (.scalar (.str "[wanted]"))
            = .ok (ValidatorSet.empty.addBinding "tags" b)
          ∧ c.bind recordOfWanted = .ok i ∧ b.materialize recordOfWanted = .ok i := by
  have hfree : Operand.IsOrderFree recordOfWanted (.scalar (.str "[wanted]")) := by
    have hwanted : resolveText recordOfWanted "[wanted]" =
        .obj [("color", .str "red"), ("size", .str "m")] := by decide +kernel
    intro f v h
    cases hwanted.symm.trans h
  obtain ⟨c, b, hc, hb, hsame⟩ := @condition_binds_as_validator_materializes "HasOneThatEquals" _
    (Registry.builtin_resolve (.item (.equals .atLeastOne))) "tags" _ recordOfWanted fun _ => hfree
  have hrun : (Condition.new .builtin "tags" "HasOneThatEquals" (.scalar (.str "[wanted]")) >>=
      fun c => c.bind recordOfWanted >>= fun _ => pure ()).toOption = some () := by decide +kernel
  obtain ⟨c', hc', hrun⟩ := bind_eq_ok.mp (toOption_eq_some.mp hrun)
  obtain rfl : c = c' := Except.ok.inj (hc.symm.trans hc')
  obtain ⟨i, hi, -⟩ := bind_eq_ok.mp hrun
  exact ⟨hfree, c, b, i, hc, hb _ rfl, hi, hsame.symm.trans hi⟩

/-- A condition and a validator of that operand look for different values. -/
def Operand.PartsAt (o : Operand) (record : Json) : Prop :=
  ∃ c b i j, Condition.new .builtin "tags" "HasOneThatEquals" o = .ok c
    ∧ ValidatorSet.empty.addValidator "tags" "HasOneThatEquals" o
      = .ok (ValidatorSet.empty.addBinding "tags" b)
    ∧ c.bind record = .ok i ∧ b.materialize record = .ok j ∧ i.operand ≠ j.operand

theorem Operand.partsAt_of_operands {o p q : Operand} {record : Json}
    (hp : (Condition.new .builtin "tags" "HasOneThatEquals" o >>= fun c =>
      c.bind record >>= fun i => pure i.operand).toOption = some p)
    (hq : (ValidatorSet.empty.bindingFor "tags" "HasOneThatEquals" o none >>= fun b =>
      b.materialize record >>= fun i => pure i.operand).toOption = some q)
    (h : p ≠ q) : o.PartsAt record := by
  obtain ⟨c, hc, hp⟩ := bind_eq_ok.mp (toOption_eq_some.mp hp)
  obtain ⟨i, hi, hp⟩ := bind_eq_ok.mp hp
  obtain ⟨b, hb, hq⟩ := bind_eq_ok.mp (toOption_eq_some.mp hq)
  obtain ⟨j, hj, hq⟩ := bind_eq_ok.mp hq
  cases hp
  cases hq
  exact ⟨c, b, i, j, hc, ValidatorSet.addValidator_of_bindingFor hb, hi, hj, h⟩

/-- A text that stands for a map with one entry, a list with a text that stands
for something, and a map with one such entry. -/
theorem condition_parts_from_validator :
    (Operand.scalar (.str "[x]")).PartsAt
        (.obj [("tags", .arr []), ("ids", .arr [.str "v"]), ("x", .obj [("ids", .str "v")])])
      ∧ (Operand.list [.str "[x]"]).PartsAt
        (.obj [("tags", .arr [.arr [.str "v"]]), ("x", .str "v")])
      ∧ (Operand.scalar (.obj [("tags", .str "[x]")])).PartsAt
        (.obj [("tags", .arr [.str "v"]), ("x", .str "v")]) := by
  refine ⟨?_, ?_, ?_⟩
  · exact Operand.partsAt_of_operands (p := .keyed "ids" (.str "v"))
      (q := .keyed "tags" (.obj [("ids", .str "v")])) (by decide +kernel) (by decide +kernel)
      (by decide)
  · exact Operand.partsAt_of_operands (p := .keyed "tags" (.arr [.str "v"]))
      (q := .keyed "tags" (.arr [.str "[x]"])) (by decide +kernel) (by decide +kernel) (by decide)
  · exact Operand.partsAt_of_operands (p := .keyed "tags" (.str "[x]"))
      (q := .keyed "tags" (.str "v")) (by decide +kernel) (by decide +kernel) (by decide)

end RecordRules
