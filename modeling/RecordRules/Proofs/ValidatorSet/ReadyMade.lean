import RecordRules.Proofs.Record.References
import RecordRules.Proofs.Rule.Phases

/-!
# Ready-made instances

An instance that is loaded for a field has been made before there was a
record. Its operand is replaced when it is loaded, if there is a record and
something to replace. A declared validator keeps its operand as it is given,
and its instance is made anew for each record. For a built-in capability both
come to the same instance or to the same error (`Instance.resolve_eq`): a
capability that is changed to another operand is the one that is made with it
(`Builtin.setOperand_eq_make`), and a null record holds nothing that an operand
could refer to (`Operand.resolve_null`).

So a set of one ready-made instance evaluates the record that it is loaded for
as the set that declares the validator
(`ready_made_evaluates_as_declared`).
-/

namespace RecordRules

/-! ## Instances -/

theorem lookupField_null (field : String) : lookupField .null field = [] := by
  have hpath : resolvePath field .null = [] := by
    simp only [resolvePath, walk, reduceCtorEq, if_false, ite_self]
  rw [lookupField, hpath]
  exact ite_self _

/-- No text refers into null. -/
theorem not_refersInto_null (text : String) : ¬RefersInto .null text := by
  rw [RefersInto]
  cases bracketReference? text with
  | some name => exact fun h => h (lookupField_null name)
  | none =>
      rintro ⟨-, hkey⟩
      cases hkey

theorem Operand.resolve_null (o : Operand) : o.resolve .null = o :=
  resolve_eq_self fun ⟨text, _, h⟩ => not_refersInto_null text h

/-- A made instance that is loaded for a record is the one that its capability
makes of the operand with references put in place. -/
theorem Instance.resolve_eq {k : Kind} {o : Operand} {message : Option String} {i : Instance}
    (h : make k o message = .ok i) (record : Json) :
    i.resolve record = make k (o.resolve record) message := by
  obtain ⟨patterns, hp, rfl⟩ := exists_of_make h
  rw [resolve]
  split
  next hnull =>
    obtain rfl : record = .null := by
      cases record with
      | null => rfl
      | bool b | num n | str s | arr items | obj entries => cases hnull
    rw [Operand.resolve_null, h]
  next =>
    dsimp only
    split
    next hsame => rw [show o.resolve record = o from hsame, h]
    next => exact setOperand_builtin _ _

/-! ## Sets -/

namespace ValidatorSet

/-- The set of one loaded instance runs it, and reports nothing else. -/
theorem evaluate_addInstances_empty_eq (field : String) (i : Instance) (strict : StrictMode)
    (record : Json) :
    ((empty.setStrict strict).addInstances field [i] 0).evaluate record =
      (i.evaluate (subject field i record)).map fun passed =>
        validatedReport strict none [] (FieldOutcome.record field passed i.message []) :=
  evaluate_of_agenda (t := .ready i) rfl rfl record

end ValidatorSet

open ValidatorSet (empty)

/-- **A ready-made instance behaves as a declared one.** An instance of a
built-in capability is loaded into an empty set for a record. If that succeeds
the set evaluates the record as the one that declares the capability with the
same operand and message; if it fails the declaring set fails with the same
error over the record, and the loading set is the empty one still. -/
theorem ready_made_evaluates_as_declared {k : Kind} {o : Operand} {message : Option String}
    {i : Instance} (field : String) (hshape : o.shaped k.shape field = o)
    (hi : Instance.make k o message = .ok i) (strict : StrictMode) (record : Json) :
    ∃ t, (empty.setStrict strict).addValidator field k.name o message = .ok t
      ∧ ((∃ s, (empty.setStrict strict).take (.loadValidator field i record) = (s, none)
          ∧ s.evaluate record = t.evaluate record)
        ∨ ∃ e, (empty.setStrict strict).take (.loadValidator field i record)
            = (empty.setStrict strict, some e)
          ∧ t.evaluate record = .error e) := by
  have hmaterialize : Binding.materialize record ⟨.ofKind k, o, message⟩ = i.resolve record :=
    (Instance.resolve_eq hi record).symm
  have hresolve : (empty.setStrict strict).registry.resolve k.name = .ok (.ofKind k) :=
    Registry.builtin_resolve k
  refine ⟨_, ValidatorSet.addValidator_of_resolve hresolve hshape message, ?_⟩
  have htake := (empty.setStrict strict).after_loadValidator field i record
  rw [ValidatorSet.take, BuildStep.run, htake, Change.loading,
    ValidatorSet.evaluate_addBinding_empty_eq, hmaterialize]
  cases i.resolve record with
  | error e => exact .inr ⟨e, rfl, rfl⟩
  | ok j => exact .inl ⟨_, rfl, ValidatorSet.evaluate_addInstances_empty_eq field j strict record⟩

/-- A text to be matched with a pattern that the record has itself. -/
def recordWithPattern (pattern : String) : Json := .obj [("a", .str "xy"), ("p", .str pattern)]

/-- One record has a pattern, which both sets compile. That of the other is
none, and both sets refuse it. -/
theorem ready_made_pattern_evaluates_as_declared :
    ∃ i s t, Instance.make (.value .regEx) (.scalar (.str "[p]")) none = .ok i
      ∧ empty.addValidator "a" "RegEx" (.scalar (.str "[p]")) none = .ok t
      ∧ empty.take (.loadValidator "a" i (recordWithPattern "y$")) = (s, none)
      ∧ s.evaluate (recordWithPattern "y$") = t.evaluate (recordWithPattern "y$")
      ∧ empty.take (.loadValidator "a" i (recordWithPattern "("))
        = (empty, some (.invalidOperand "RegEx" (.badPattern "(")))
      ∧ t.evaluate (recordWithPattern "(")
        = .error (.invalidOperand "RegEx" (.badPattern "(")) := by
  have hmade : (Instance.make (.value .regEx) (.scalar (.str "[p]")) none >>= fun i =>
      pure (empty.take (.loadValidator "a" i (recordWithPattern "("))).2).toOption =
      some (some (.invalidOperand "RegEx" (.badPattern "("))) := by decide +kernel
  have hdeclared : (empty.addValidator "a" "RegEx" (.scalar (.str "[p]")) none >>= fun t =>
      pure ((t.evaluate (recordWithPattern "y$")).map Report.passed)).toOption =
      some (.ok true) := by decide +kernel
  obtain ⟨i, hi, hmade⟩ := bind_eq_ok.mp (toOption_eq_some.mp hmade)
  obtain ⟨t, ht, hgood⟩ :=
    ready_made_evaluates_as_declared "a" rfl hi .both (recordWithPattern "y$")
  obtain ⟨t', ht', hbad⟩ :=
    ready_made_evaluates_as_declared "a" rfl hi .both (recordWithPattern "(")
  obtain rfl : t = t' := Except.ok.inj (ht.symm.trans ht')
  obtain ⟨u, hu, hpassed⟩ := bind_eq_ok.mp (toOption_eq_some.mp hdeclared)
  obtain rfl : t = u := Except.ok.inj (ht.symm.trans hu)
  obtain ⟨s, hs, heq⟩ := hgood.resolve_right fun ⟨e, _, he⟩ => by
    rw [he] at hpassed
    cases Except.ok.inj hpassed
  obtain ⟨e, hload, he⟩ := hbad.resolve_left fun ⟨s', hs', _⟩ => by
    cases (congrArg Prod.snd hs').symm.trans (Except.ok.inj hmade)
  obtain rfl : e = .invalidOperand "RegEx" (.badPattern "(") :=
    Option.some.inj ((congrArg Prod.snd hload).symm.trans (Except.ok.inj hmade))
  exact ⟨i, s, t, hi, ht, hs, heq, hload, he⟩

end RecordRules
