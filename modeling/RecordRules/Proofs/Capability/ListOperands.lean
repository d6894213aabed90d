import RecordRules.Proofs.Capability.Judgement

/-!
# Lists that are written and lists that are found

A rule that lists its values gives a list operand. A reference stands where one
value stands, and if the record has a list there, the operand is one value that
is a list. A test of a value does not tell them apart.

There are three ways to read such an operand. Most tests take its values, which
are the items either way. Those that need one number or one subnet refuse both
operands, though for different faults (`ValueTest.prepare_found`). And those that
compare texts find none in either (`relateTexts_found`). So what is accepted
judges alike (`ValueTest.judge_found`).
-/

namespace RecordRules

/-! ## Readings -/

/-- A list has no text, and a list operand has no value that stands alone. -/
theorem relateTexts_found (r : List Char → List Char → Bool) (input : Json) (vs : List Json) :
    relateTexts r input (.scalar (.arr vs)) = relateTexts r input (.list vs) := by
  unfold relateTexts
  cases valueText input <;> rfl

namespace ValueTest

variable (t : ValueTest) (vs : List Json)

/-- Both operands are prepared alike, unless one value is asked for. -/
theorem prepare_found :
    (Kind.value t).prepare (.scalar (.arr vs)) = (Kind.value t).prepare (.list vs)
      ∨ ∃ fault fault', (Kind.value t).prepare (.scalar (.arr vs)) = .error fault
        ∧ (Kind.value t).prepare (.list vs) = .error fault' := by
  cases t with
  | count relation | threshold bound | length | lengthBound bound =>
      exact .inr ⟨.notNumeric (.arr vs), .notOneNumber, rfl, rfl⟩
  | isSubnetOf => exact .inr ⟨.noSubnet, .noSubnet, rfl, rfl⟩
  | _ => exact .inl rfl

variable {t vs}

theorem judge_found (h : t.check (.list vs) = .ok ()) (patterns : List Pattern) (input : Json) :
    t.judge (.scalar (.arr vs)) patterns input = t.judge (.list vs) patterns input := by
  cases t with
  | count relation | threshold bound | length | lengthBound bound | isSubnetOf => cases h
  | startsWith | endsWith => exact congrArg Except.ok (relateTexts_found _ input vs)
  | _ => rfl

end ValueTest

/-! ## Instances -/

/-- **A list that a reference finds behaves like one that is written.** A test of
a value either refuses both operands or accepts both, and then it says the same
of every input, be it a verdict or an error. -/
theorem found_list_is_written_list {k : Kind} (hk : k.shape = .scalar) (vs : List Json)
    (message message' : Option String) :
    (∃ fault fault',
        Builtin.make k (.list vs) message = .error (.invalidOperand k.name fault)
        ∧ Builtin.make k (.scalar (.arr vs)) message' = .error (.invalidOperand k.name fault'))
      ∨ ∃ b b', Builtin.make k (.list vs) message = .ok b
        ∧ Builtin.make k (.scalar (.arr vs)) message' = .ok b'
        ∧ ∀ input, b.evaluate input = b'.evaluate input := by
  cases k with
  | item t | field t => cases hk
  | value t =>
      rcases t.prepare_found vs with hsame | ⟨fault, fault', hfound, hwritten⟩
      · cases hwritten : (Kind.value t).prepare (.list vs) with
        | error fault =>
            exact .inl ⟨fault, fault, Builtin.make_of_fault hwritten message,
              Builtin.make_of_fault (hsame.trans hwritten) message'⟩
        | ok patterns =>
            refine .inr ⟨_, _, Builtin.make_of_prepared hwritten message,
              Builtin.make_of_prepared (hsame.trans hwritten) message', fun input => ?_⟩
            exact (ValueTest.judge_found (Kind.check_of_prepare hwritten) patterns input).symm
      · exact .inl ⟨fault', fault, Builtin.make_of_fault hwritten message,
          Builtin.make_of_fault hfound message'⟩

/-- A user with a role, and the roles that there are. -/
def roleAmong (names : List String) (role : String) : Json :=
  .obj [("role", .str role), ("roles", .arr (names.map fun name => .obj [("name", .str name)]))]

/-- The roles that there are, found by a path and written out. -/
theorem found_list_is_written_list_of_roles :
    (Operand.scalar (.str "[roles.name]")).resolve (roleAmong ["a", "b"] "b") =
        .scalar (.arr [.str "a", .str "b"])
      ∧ ∃ b b', Builtin.make (.value .isIn) (.list [.str "a", .str "b"]) none = .ok b
        ∧ Builtin.make (.value .isIn) (.scalar (.arr [.str "a", .str "b"])) none = .ok b'
        ∧ b.evaluate (.str "b") = .ok true ∧ b'.evaluate (.str "b") = .ok true := by
  refine ⟨by decide +kernel, ?_⟩
  have hrun : (Builtin.make (.value .isIn) (.list [.str "a", .str "b"]) none >>=
      fun b => b.evaluate (.str "b")).toOption = some true := by decide +kernel
  obtain ⟨b, hb, heval⟩ := bind_eq_ok.mp (toOption_eq_some.mp hrun)
  obtain ⟨fault, fault', hfault, -⟩ | ⟨c, c', hc, hc', hsame⟩ :=
    found_list_is_written_list (k := .value .isIn) rfl [.str "a", .str "b"] none none
  · cases hb.symm.trans hfault
  · obtain rfl : b = c := Except.ok.inj (hb.symm.trans hc)
    exact ⟨b, c', hb, hc', heval, (hsame _).symm.trans heval⟩

end RecordRules
