import RecordRules.Proofs.Capability.Making

/-!
# Replacing operands in place

An instance is written to part by part, and what it keeps of its operand must not
fall behind. One change makes of it what is made with the new operand, or leaves
it alone, and nothing remains of an operand that was replaced. So however often an
instance is changed, it is the one that is made with the last operand that was
accepted (`changed_is_made_with_last_accepted`).
-/

namespace RecordRules

namespace Builtin

variable {b : Builtin}

/-! ## Changes in order -/

/-- What an instance is after changes, those that were refused among them. -/
def changeAll (b : Builtin) (operands : List Operand) : Builtin :=
  operands.foldl (fun b operand => (b.change operand).2) b

/-- The instance is the one that is made with the last of these operands that can
drive the capability. -/
def IsMadeWithLast (k : Kind) (message : Option String) (operands : List Operand) (b : Builtin) :
    Prop :=
  ∃ before last after, operands = before ++ last :: after ∧ make k last message = .ok b
    ∧ ∀ o ∈ after, ∃ e, make k o message = .error e

namespace IsMadeWithLast

variable {k : Kind} {message : Option String} {operands : List Operand}

theorem parts (h : IsMadeWithLast k message operands b) :
    b.kind = k ∧ b.customMessage = message := by
  obtain ⟨before, last, after, -, hmade, -⟩ := h
  obtain ⟨patterns, hp, rfl⟩ := exists_of_make hmade
  exact ⟨rfl, rfl⟩

theorem change (h : IsMadeWithLast k message operands b) (operand : Operand) :
    IsMadeWithLast k message (operands ++ [operand]) (b.change operand).2 := by
  obtain ⟨rfl, rfl⟩ := h.parts
  cases hmake : make b.kind operand b.customMessage with
  | ok fresh =>
      rw [change_of_made hmake]
      refine ⟨operands, operand, [], rfl, hmake, ?_⟩
      intro o ho
      cases ho
  | error e =>
      rw [change_of_refused hmake]
      obtain ⟨before, last, after, rfl, hmade, hrefused⟩ := h
      refine ⟨before, last, after ++ [operand], ?_, hmade, ?_⟩
      · rw [List.append_assoc, List.cons_append]
      · intro o ho
        rcases List.mem_append.mp ho with ho | ho
        · exact hrefused o ho
        · rw [List.mem_singleton.mp ho]
          exact ⟨e, hmake⟩

/-- Changes go on from the operands that there were before. -/
theorem changeAll (h : IsMadeWithLast k message operands b) (more : List Operand) :
    IsMadeWithLast k message (operands ++ more) (b.changeAll more) := by
  induction more generalizing operands b with
  | nil =>
      rw [List.append_nil]
      exact h
  | cons operand more ih =>
      have hrest := ih (h.change operand)
      rw [List.append_assoc] at hrest
      exact hrest

end IsMadeWithLast

end Builtin

/-- **A changed instance is one that is made anew.** An instance of any kind, with
any message, that was changed any number of times is the instance that is made
with the last of its operands that was accepted. A further change makes of it
just what is made with that operand; or it errs as that errs, and nothing of the
instance changes. -/
theorem changed_is_made_with_last_accepted {k : Kind} {o : Operand} {message : Option String}
    {b : Builtin} (h : Builtin.make k o message = .ok b) (operands : List Operand) :
    Builtin.IsMadeWithLast k message (o :: operands) (b.changeAll operands)
      ∧ ∀ operand,
        (∀ fresh, Builtin.make k operand message = .ok fresh →
          (b.changeAll operands).change operand = (.ok (), fresh))
        ∧ ∀ e, Builtin.make k operand message = .error e →
          (b.changeAll operands).change operand = (.error e, b.changeAll operands) := by
  have hfirst : Builtin.IsMadeWithLast k message [o] b := by
    refine ⟨[], o, [], rfl, h, ?_⟩
    intro o' ho'
    cases ho'
  have hlast := hfirst.changeAll operands
  refine ⟨hlast, fun operand => ?_⟩
  obtain ⟨hkind, hmessage⟩ := hlast.parts
  rw [← hkind, ← hmessage]
  exact ⟨fun fresh => Builtin.change_of_made, fun e => Builtin.change_of_refused⟩

/-- A single text is a single pattern, or none. -/
theorem Kind.prepare_pattern (text : String) :
    (Kind.value .regEx).prepare (.scalar (.str text)) =
      match Pattern.ofOperand? text with
      | some p => .ok [p]
      | none => .error (.badPattern text) := by
  change [Json.str text].mapM Operand.pattern = _
  have hpattern : Operand.pattern (.str text) =
      match Pattern.ofOperand? text with
      | some p => .ok p
      | none => .error (.badPattern text) := rfl
  rw [List.mapM_cons, hpattern]
  cases Pattern.ofOperand? text <;> rfl

/-- Of the patterns that are given later, only the middle one can be read. -/
theorem changed_is_made_with_last_accepted_pattern :
    ∃ b fresh, Builtin.make (.value .regEx) (.scalar (.str "^a")) none = .ok b
      ∧ Builtin.make (.value .regEx) (.scalar (.str "b+")) none = .ok fresh
      ∧ b.changeAll [.scalar (.str "("), .scalar (.str "b+"), .scalar (.str "[")] = fresh
      ∧ fresh.change (.scalar (.str "(")) =
        (.error (.invalidOperand "RegEx" (.badPattern "(")), fresh) := by
  have hread : ((Pattern.ofOperand? "^a").isSome && (Pattern.ofOperand? "b+").isSome) = true := by
    decide +kernel
  have hnone : ((Pattern.ofOperand? "(").isNone && (Pattern.ofOperand? "[").isNone) = true := by
    decide +kernel
  rw [Bool.and_eq_true, Option.isSome_iff_exists, Option.isSome_iff_exists] at hread
  rw [Bool.and_eq_true, Option.isNone_iff_eq_none, Option.isNone_iff_eq_none] at hnone
  obtain ⟨⟨p, hp⟩, q, hq⟩ := hread
  obtain ⟨hparenthesis, hbracket⟩ := hnone
  have hmade : ∀ text p, Pattern.ofOperand? text = some p →
      ∃ b, Builtin.make (.value .regEx) (.scalar (.str text)) none = .ok b := by
    intro text p h
    exact ⟨_, Builtin.make_of_prepared (by rw [Kind.prepare_pattern, h]) none⟩
  have hrefused : ∀ text, Pattern.ofOperand? text = none →
      Builtin.make (.value .regEx) (.scalar (.str text)) none =
        .error (.invalidOperand "RegEx" (.badPattern text)) := by
    intro text h
    exact Builtin.make_of_fault (by rw [Kind.prepare_pattern, h]) none
  obtain ⟨b, hb⟩ := hmade "^a" p hp
  obtain ⟨fresh, hfresh⟩ := hmade "b+" q hq
  obtain ⟨-, hsecond⟩ := changed_is_made_with_last_accepted hb [.scalar (.str "(")]
  obtain ⟨-, hthird⟩ := changed_is_made_with_last_accepted hb
    [.scalar (.str "("), .scalar (.str "b+")]
  have hreplaced : b.changeAll [.scalar (.str "("), .scalar (.str "b+")] = fresh :=
    congrArg Prod.snd ((hsecond (.scalar (.str "b+"))).1 fresh hfresh)
  have hkept : b.changeAll [.scalar (.str "("), .scalar (.str "b+"), .scalar (.str "[")] = fresh :=
    (congrArg Prod.snd ((hthird (.scalar (.str "["))).2 _ (hrefused "[" hbracket))).trans hreplaced
  have hagain := (hthird (.scalar (.str "("))).2 _ (hrefused "(" hparenthesis)
  rw [hreplaced] at hagain
  exact ⟨b, fresh, hb, hfresh, hkept, hagain⟩

end RecordRules
