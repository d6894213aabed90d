import RecordRules.Proofs.Rule.Declared

/-!
# When a capability cannot judge

An operand is checked when it is given to a capability, and a judgement reads
it again, in another place for every family of capabilities. The readings
agree: whatever the check accepts, a judgement can read. So a judgement never
finds a fault with its operand. It errs over its input alone, and for every
capability it is said which inputs these are (`Kind.CannotJudge`):

- counts need a list or a map, and subnets an address;
- a capability that looks its field up itself needs a record to look in;
- of those, the ones that measure the field need something to measure there.

Judgements are sequences of such steps. `ErrsOn` says of a step under which
condition it errs, and sequences take the conditions together
(`ErrsOn.bind`), so each family of capabilities is one chain of steps
(`ValueTest.errsOn_judge`, `ItemTest.errsOn_judge`, `FieldTest.errsOn_judge`).
-/

namespace RecordRules

/-! ## Inputs -/

/-- A list or a map. -/
def Json.isCollection : Json → Bool
  | .arr _ | .obj _ => true
  | _ => false

/-- A boolean, a number or a text: neither null nor a list nor a map. -/
def Json.isScalar : Json → Bool
  | .bool _ | .num _ | .str _ => true
  | _ => false

/-- The capability with that operand cannot judge the input. -/
def Kind.CannotJudge (o : Operand) (input : Json) : Kind → Prop
  | .value (.count _) => input.isCollection = false
  | .value .isSubnetOf => ∀ text, valueText input = some text → Ipv4.read? text.toList = none
  | .value _ => False
  | .item (.count _) =>
    input.isCollection = false ∨ ∃ field v, o.targetField = some field ∧ v.isScalar = true
      ∧ if isDotted field then (resolvePath field input).head? = some v
        else input.get? field = some v
  | .item _ => input.isCollection = false
  | .field (.has _) =>
    input.isCollection = false ∨ ∃ field v, o.targetField = some field ∧ v.isScalar = true
      ∧ isDotted field = false ∧ input.get? field = some v
  | .field _ => input.isCollection = false

/-! ## Steps of a judgement -/

/-- The step errs exactly under that condition, and then over the input. -/
structure ErrsOn {α : Type} (name : String) (P : Prop) (r : Except ConfigError α) : Prop where
  overInput : ∀ e, r = .error e → ∃ fault, e = .invalidInput name fault
  iff : (∃ e, r = .error e) ↔ P

namespace ErrsOn

variable {α β : Type} {name : String} {P Q : Prop}

theorem ok (a : α) : ErrsOn name False (.ok a) :=
  ⟨nofun, iff_of_false nofun id⟩

theorem error (fault : InputFault) (h : P) :
    ErrsOn name P (.error (.invalidInput name fault) : Except ConfigError α) :=
  ⟨fun _ he => ⟨fault, (Except.error.inj he).symm⟩, ⟨fun _ => h, fun _ => ⟨_, rfl⟩⟩⟩

theorem congr {r : Except ConfigError α} (h : ErrsOn name P r) (hPQ : P ↔ Q) :
    ErrsOn name Q r :=
  ⟨h.overInput, h.iff.trans hPQ⟩

/-- One step after another errs where the first does, and where the second
does after the first went well. -/
theorem bind {r : Except ConfigError α} {f : α → Except ConfigError β} (h : ErrsOn name P r)
    (hf : ∀ a, r = .ok a → ErrsOn name Q (f a)) : ErrsOn name (P ∨ Q) (r >>= f) := by
  cases hr : r with
  | error e =>
      obtain ⟨fault, rfl⟩ := h.overInput e hr
      exact .error fault (.inl (h.iff.mp ⟨_, hr⟩))
  | ok a =>
      have hP : ¬P := fun hP => by
        obtain ⟨e, he⟩ := h.iff.mpr hP
        cases hr.symm.trans he
      exact (hf a hr).congr ⟨.inr, fun hPQ => hPQ.resolve_left hP⟩

/-- What is made of a step's result does not err. -/
theorem bind_pure {r : Except ConfigError α} (h : ErrsOn name P r) (f : α → β) :
    ErrsOn name P (r >>= fun a => pure (f a)) :=
  (h.bind fun a _ => ok (f a)).congr (iff_of_eq (or_false P))

/-- A step that cannot err may be left out. -/
theorem after_ok {r : Except ConfigError α} {a : α} {f : α → Except ConfigError β}
    (hr : r = .ok a) (h : ErrsOn name P (f a)) : ErrsOn name P (r >>= f) := by
  rw [hr]
  exact h

end ErrsOn

/-! ## Sizes -/

theorem errsOn_countOf (name : String) (v : Json) :
    ErrsOn name (v.isCollection = false) (countOf name v) := by
  cases v with
  | arr items => exact (ErrsOn.ok _).congr (by simp [Json.isCollection])
  | obj entries => exact (ErrsOn.ok _).congr (by simp [Json.isCollection])
  | null | bool b | num n | str s => exact .error _ rfl

theorem errsOn_requireRecord (name : String) (v : Json) :
    ErrsOn name (v.isCollection = false) (requireRecord name v) := by
  cases v with
  | arr items => exact (ErrsOn.ok _).congr (by simp [Json.isCollection])
  | obj entries => exact (ErrsOn.ok _).congr (by simp [Json.isCollection])
  | null | bool b | num n | str s => exact .error _ rfl

theorem requireRecord_of_isCollection {name : String} {record : Json}
    (h : record.isCollection = true) : requireRecord name record = .ok () := by
  cases record with
  | arr items | obj entries => rfl
  | null | bool b | num n | str s => cases h

/-- Nothing and null have no size to err over. -/
theorem errsOn_sizeOf (name : String) (found : Option Json) :
    ErrsOn name (∃ v, v.isScalar = true ∧ found = some v) (sizeOf? name found) := by
  cases found with
  | none => exact (ErrsOn.ok _).congr (by simp)
  | some v =>
      cases v with
      | null | arr items | obj entries => exact (ErrsOn.ok _).congr (by simp [Json.isScalar])
      | bool b | num n | str s => exact .error _ ⟨_, rfl, rfl⟩

theorem errsOn_listSize (name : String) (record : Json) (field : String) :
    ErrsOn name
      (∃ v, v.isScalar = true ∧ if isDotted field then (resolvePath field record).head? = some v
        else record.get? field = some v)
      (listSize name record field) := by
  rw [listSize]
  split
  next hd => simpa [hd] using errsOn_sizeOf name (resolvePath field record).head?
  next hd => simpa [hd] using errsOn_sizeOf name (record.get? field)

theorem errsOn_fieldSize (name : String) (record : Json) (field : String) :
    ErrsOn name
      (∃ v, v.isScalar = true ∧ isDotted field = false ∧ record.get? field = some v)
      (fieldSize name record field) := by
  rw [fieldSize]
  split
  next hd => exact (ErrsOn.ok _).congr (by simp [hd])
  next hd => simpa [hd] using errsOn_sizeOf name (record.get? field)

/-! ## Checked operands -/

theorem discard_eq_ok {ε α : Type} {r : Except ε α} :
    discard r = .ok () ↔ ∃ a, r = .ok a := by
  cases r with
  | error e => exact ⟨nofun, nofun⟩
  | ok a => exact ⟨fun _ => ⟨a, rfl⟩, fun _ => rfl⟩

/-- Only patterns are kept beside the operand. -/
theorem Kind.prepare_eq_check {k : Kind} (hk : k ≠ .value .regEx) (o : Operand) :
    k.prepare o = (k.check o).map fun _ => [] := by
  unfold prepare
  split
  next => exact absurd rfl hk
  next => rfl

/-- What can be prepared has passed the check. -/
theorem Kind.check_of_prepare {k : Kind} {o : Operand} {patterns : List Pattern}
    (h : k.prepare o = .ok patterns) : k.check o = .ok () := by
  unfold prepare at h
  split at h
  next => exact discard_eq_ok.mpr ⟨patterns, h⟩
  next =>
    cases hc : k.check o with
    | error fault =>
        rw [hc] at h
        cases h
    | ok u => rfl

namespace Operand

theorem entry_eq_ok {o : Operand} {field : String} {v : Json} :
    o.entry = .ok (field, v) ↔ o = .keyed field v ∧ field.isEmpty = false := by
  cases o with
  | keyed f w =>
      rw [entry]
      split
      next hf =>
        refine iff_of_false nofun ?_
        rintro ⟨ho, hfield⟩
        cases ho
        exact absurd hf (by simp [hfield])
      next hf =>
        simp only [Except.ok.injEq, Prod.mk.injEq, keyed.injEq, iff_self_and]
        rintro ⟨rfl, rfl⟩
        simpa using hf
  | absent | scalar w | list items | field f => exact iff_of_false nofun nofun

theorem fieldName_eq_ok {o : Operand} {name : String} :
    o.fieldName = .ok name ↔ o = .field name ∧ name.isEmpty = false := by
  cases o with
  | field f =>
      rw [fieldName]
      split
      next hf =>
        refine iff_of_false nofun ?_
        rintro ⟨ho, hname⟩
        cases ho
        exact absurd hf (by simp [hname])
      next hf =>
        simp only [Except.ok.injEq, field.injEq, iff_self_and]
        rintro rfl
        simpa using hf
  | absent | scalar w | list items | keyed f w => exact iff_of_false nofun nofun

theorem entry_keyed {field : String} (h : field ≠ "") (v : Json) :
    (keyed field v).entry = .ok (field, v) :=
  entry_eq_ok.mpr ⟨rfl, by simpa using h⟩

theorem fieldName_field {name : String} (h : name ≠ "") : (field name).fieldName = .ok name :=
  fieldName_eq_ok.mpr ⟨rfl, by simpa using h⟩

end Operand

/-! ## Judgements -/

theorem orFaulty_of_ok {α : Type} {name : String} {r : Except OperandFault α} {a : α}
    (h : r = .ok a) : orFaulty name r = .ok a := by
  rw [h]
  rfl

section Judge

variable {o : Operand} {input : Json}

theorem ValueTest.errsOn_judge {t : ValueTest} (h : t.check o = .ok ())
    (patterns : List Pattern) :
    ErrsOn t.name ((Kind.value t).CannotJudge o input) (t.judge o patterns input) := by
  unfold judge
  cases t with
  | between ends | lengthBetween ends =>
      obtain ⟨bounds, hb⟩ := discard_eq_ok.mp h
      exact .after_ok (orFaulty_of_ok hb) (.ok _)
  | dateTimeBetween ends =>
      obtain ⟨bounds, hb⟩ := discard_eq_ok.mp h
      exact .after_ok (orFaulty_of_ok hb) (.ok _)
  | length | lengthBound bound =>
      obtain ⟨x, hx⟩ := discard_eq_ok.mp h
      exact .after_ok (orFaulty_of_ok hx) (.ok _)
  | threshold bound =>
      obtain ⟨x, hx⟩ := discard_eq_ok.mp h
      exact .after_ok (discard_eq_ok.mpr ⟨x, orFaulty_of_ok hx⟩) (.ok _)
  | count relation =>
      obtain ⟨x, hx⟩ := discard_eq_ok.mp h
      exact .after_ok (orFaulty_of_ok hx) ((errsOn_countOf _ input).bind_pure _)
  | isSubnetOf =>
      obtain ⟨s, hs⟩ := discard_eq_ok.mp h
      refine .after_ok (orFaulty_of_ok hs) ?_
      have haddress : (valueText input).bind (fun s => Ipv4.read? s.toList) = none ↔
          (Kind.value .isSubnetOf).CannotJudge o input := by
        simp [Kind.CannotJudge, Option.bind_eq_none_iff]
      split
      next address ha => exact (ErrsOn.ok _).congr (by simp [← haddress, ha])
      next ha => exact .error _ (haddress.mp ha)
  | isJson => cases input <;> exact .ok _
  | _ => exact .ok _

theorem ItemTest.errsOn_judge {t : ItemTest} (h : t.check o = .ok ()) :
    ErrsOn t.name ((Kind.item t).CannotJudge o input) (t.judge o input) := by
  obtain ⟨⟨⟩, hentry, hnumber⟩ := bind_eq_ok.mp h
  obtain ⟨⟨field, v⟩, hentry⟩ := discard_eq_ok.mp hentry
  obtain ⟨rfl, -⟩ := Operand.entry_eq_ok.mp hentry
  have hrecord := errsOn_requireRecord t.name input
  unfold judge
  rw [orFaulty_of_ok hentry]
  cases t with
  | equals quota | contains quota | beyond bound => exact hrecord.bind_pure _
  | count relation =>
      obtain ⟨x, hx⟩ := discard_eq_ok.mp hnumber
      have hsize := errsOn_listSize (ItemTest.count relation).name input field
      refine (hrecord.bind fun _ _ => .after_ok (orFaulty_of_ok hx) (hsize.bind_pure _)).congr ?_
      simp [Kind.CannotJudge, Operand.targetField]

theorem FieldTest.errsOn_judge {t : FieldTest} (h : discard o.fieldName = .ok ()) :
    ErrsOn t.name ((Kind.field t).CannotJudge o input) (t.judge o input) := by
  obtain ⟨field, hfield⟩ := discard_eq_ok.mp h
  obtain ⟨rfl, -⟩ := Operand.fieldName_eq_ok.mp hfield
  have hrecord := errsOn_requireRecord t.name input
  unfold judge
  rw [orFaulty_of_ok hfield]
  cases t with
  | hasOneNotEmpty | required => exact hrecord.bind_pure _
  | has quota =>
      refine (hrecord.bind fun _ _ => (errsOn_fieldSize _ input field).bind_pure _).congr ?_
      simp [Kind.CannotJudge, Operand.targetField]

/-- A judgement with a checked operand errs on the inputs that the capability
cannot judge, and over nothing else. -/
theorem Builtin.errsOn_evaluate (b : Builtin) (input : Json) :
    ErrsOn b.kind.name (b.kind.CannotJudge b.operand input) (b.evaluate input) := by
  obtain ⟨k, o, message, patterns, hp⟩ := b
  have hcheck := Kind.check_of_prepare hp
  cases k with
  | value t => exact ValueTest.errsOn_judge hcheck patterns
  | item t => exact ItemTest.errsOn_judge hcheck
  | field t => exact FieldTest.errsOn_judge hcheck

end Judge

/-! ## Accepted operands -/

namespace Builtin

/-- A capability that was made has the operand that it was made with. -/
theorem make_eq_ok {k : Kind} {o : Operand} {message : Option String} {b : Builtin}
    (h : make k o message = .ok b) : b.kind = k ∧ b.operand = o := by
  obtain ⟨patterns, hp, rfl⟩ := exists_of_make h
  exact ⟨rfl, rfl⟩

end Builtin

/-- **Operand problems surface when an operand is given, never in a
judgement.** A capability whose operand was accepted, when it was made or later
when it got the operand, errs exactly on the inputs that it cannot judge, and
then its error is about the input. -/
theorem evaluate_errs_iff_cannotJudge {k : Kind} {o : Operand} {b : Builtin}
    (h : (∃ message, Builtin.make k o message = .ok b)
      ∨ ∃ b₀ : Builtin, b₀.kind = k ∧ b₀.setOperand o = .ok b)
    (input : Json) :
    (∀ e, b.evaluate input = .error e → ∃ fault, e = .invalidInput k.name fault)
      ∧ ((∃ e, b.evaluate input = .error e) ↔ k.CannotJudge o input) := by
  have hb : b.kind = k ∧ b.operand = o := by
    rcases h with ⟨message, h⟩ | ⟨b₀, rfl, h⟩
    · exact Builtin.make_eq_ok h
    · rw [b₀.setOperand_eq_make] at h
      exact Builtin.make_eq_ok h
  obtain ⟨rfl, rfl⟩ := hb
  have herrs := b.errsOn_evaluate input
  exact ⟨herrs.overInput, herrs.iff⟩

/-- Users with tags; what the first of them has is told. -/
def usersTagged (tags : Json) : Json :=
  .obj [("users", .arr [.obj [("tags", tags)], .obj [("tags", .str "none")]])]

/-- The path was given later, and only its first match is measured. -/
theorem evaluate_errs_iff_cannotJudge_first_match :
    ∃ b₀ b, Builtin.make (.item (.count (.bound .above))) (.keyed "tags" (.str "1")) none = .ok b₀
      ∧ b₀.setOperand (.keyed "users.tags" (.str "1")) = .ok b
      ∧ (∃ fault, b.evaluate (usersTagged (.str "a b")) =
          .error (.invalidInput "HasCountGreaterThan" fault))
      ∧ ∃ passed, b.evaluate (usersTagged (.arr [.str "a", .str "b"])) = .ok passed := by
  have hrun : (Builtin.make (.item (.count (.bound .above))) (.keyed "tags" (.str "1")) none >>=
      fun b₀ => b₀.setOperand (.keyed "users.tags" (.str "1")) >>= fun _ => pure ()).toOption
        = some () := by decide +kernel
  obtain ⟨b₀, hmade, hrun⟩ := bind_eq_ok.mp (toOption_eq_some.mp hrun)
  obtain ⟨b, hset, -⟩ := bind_eq_ok.mp hrun
  have hkind := (Builtin.make_eq_ok hmade).1
  have herrs := evaluate_errs_iff_cannotJudge (.inr ⟨b₀, hkind, hset⟩)
  refine ⟨b₀, b, hmade, hset, ?_, ?_⟩
  · obtain ⟨hover, hiff⟩ := herrs (usersTagged (.str "a b"))
    obtain ⟨e, he⟩ := hiff.mpr (.inr ⟨"users.tags", .str "a b", rfl, rfl, by decide +kernel⟩)
    obtain ⟨fault, rfl⟩ := hover e he
    exact ⟨fault, he⟩
  · obtain ⟨-, hiff⟩ := herrs (usersTagged (.arr [.str "a", .str "b"]))
    have hcan : ¬(Kind.item (.count (.bound .above))).CannotJudge (.keyed "users.tags" (.str "1"))
        (usersTagged (.arr [.str "a", .str "b"])) := by
      rintro (h | ⟨field, v, hfield, hv, h⟩)
      · cases h
      · cases hfield
        have hfirst : (resolvePath "users.tags" (usersTagged (.arr [.str "a", .str "b"]))).head? =
            some (.arr [.str "a", .str "b"]) := by decide +kernel
        rw [if_pos (by decide +kernel), hfirst] at h
        cases h
        cases hv
    cases he : b.evaluate (usersTagged (.arr [.str "a", .str "b"])) with
    | error e => exact absurd (hiff.mp ⟨e, he⟩) hcan
    | ok passed => exact ⟨passed, rfl⟩

end RecordRules
