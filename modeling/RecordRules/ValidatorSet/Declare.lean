import RecordRules.ValidatorSet.Basic

/-!
# Building a set

A step that builds a set (`Building`) reads and changes the set it is at, and
may fail. What it changed before it failed stays changed: `ValidatorSet.after`
gives the set that a step leaves in any case, and the error if there was one.
A step that is made of others takes them in order, up to the first that fails
(`ValidatorSet.after_bind`).

A step that declares one thing looks at all that may fail before it changes
the set.
-/

namespace RecordRules

/-! ## Steps -/

/-- A step that builds a set, and may fail on the way. -/
abbrev Building := ExceptT ConfigError (StateM ValidatorSet)

namespace ValidatorSet

/-- What a step leaves of the set, and the error if it failed. -/
def after (s : ValidatorSet) (step : Building Unit) : ValidatorSet × Option ConfigError :=
  match step.run.run s with
  | (.ok _, t) => (t, none)
  | (.error e, t) => (t, some e)

theorem after_modify (s : ValidatorSet) (f : ValidatorSet → ValidatorSet) :
    s.after (modify f) = (f s, none) := rfl

theorem after_get (s : ValidatorSet) (step : ValidatorSet → Building Unit) :
    s.after (get >>= step) = s.after (step s) := rfl

/-- To look at something that may fail does not change the set. -/
theorem after_lift {α : Type} (s : ValidatorSet) (r : Except ConfigError α)
    (step : α → Building Unit) :
    s.after (liftM r >>= step) =
      match r with
      | .ok a => s.after (step a)
      | .error e => (s, some e) := by
  cases r <;> rfl

/-- The second step is taken, from where the first leads, if that went well. -/
theorem after_bind (s : ValidatorSet) (first second : Building Unit) :
    s.after (first >>= fun _ => second) =
      match s.after first with
      | (t, none) => t.after second
      | (t, some e) => (t, some e) := by
  have hrun : (first >>= fun _ => second).run.run s =
      ExceptT.bindCont (fun _ => second) (first.run.run s).1 (first.run.run s).2 := rfl
  rw [after, hrun, after]
  obtain ⟨r, t⟩ := first.run.run s
  cases r <;> rfl

end ValidatorSet

/-- The set that is left if nothing failed. -/
def expectAll {σ ε : Type} : σ × Option ε → Except ε σ
  | (s, none) => .ok s
  | (_, some e) => .error e

/-! ## Declaring validators -/

def DeclaredField.append (b : Binding) (d : DeclaredField) : DeclaredField :=
  { d with bindings := d.bindings ++ [b] }

namespace ValidatorSet

/-- The binding that declares a capability for a field. -/
def bindingFor (s : ValidatorSet) (field capability : String) (value : Operand)
    (message : Option String) : Except ConfigError Binding := do
  let entry ← s.registry.resolve capability
  return ⟨entry, value.shaped entry.shape field, message⟩

def addBinding (s : ValidatorSet) (field : String) (b : Binding) : ValidatorSet :=
  { s with
    declared := KeyedList.update DeclaredField.field field { field } (.append b) s.declared }

end ValidatorSet

namespace Building

/-- Declares a validator. Its capability must be registered; its operand is
looked at when the instance is made. -/
def addValidator (field capability : String) (value : Operand)
    (message : Option String := none) : Building Unit := do
  let b ← (← get).bindingFor field capability value message
  modify (·.addBinding field b)

def addValidatorsToField (field : String) (pairs : List (String × Operand)) : Building Unit :=
  pairs.forM fun (capability, value) => addValidator field capability value

/-- Declares the validators of several fields, field by field. -/
def addValidators (validators : List (String × List (String × Operand))) : Building Unit :=
  validators.forM fun (field, pairs) => addValidatorsToField field pairs

def addRule (r : Rule) : Building Unit := addValidator r.field r.capability r.value r.message

/-- Declares the validator that a written rule is. -/
def addValidatorFromRule (text : String) : Building Unit := do
  let r ← Rule.read (← get).registry text
  addRule r

/-- Declares the validators that several written rules are. -/
def addValidatorsFromRules (texts : List String) : Building Unit :=
  texts.forM addValidatorFromRule

end Building

/-! ## Conditions and strictness -/

namespace ValidatorSet

def addCondition (s : ValidatorSet) (c : Condition) : ValidatorSet :=
  { s with conditions := s.conditions ++ [c] }

def addConditions (s : ValidatorSet) (cs : List Condition) : ValidatorSet :=
  { s with conditions := s.conditions ++ cs }

def setStrict (s : ValidatorSet) (mode : StrictMode) : ValidatorSet := { s with strict := mode }

end ValidatorSet

namespace Building

/-- Adds the condition that a written rule is. -/
def addConditionFromRule (text : String) : Building Unit := do
  let c ← Condition.read (← get).registry text
  modify (·.addCondition c)

/-- Adds the conditions that several written rules are. -/
def addConditionsFromRules (texts : List String) : Building Unit :=
  texts.forM addConditionFromRule

def setStrictLevel (level : Int) : Building Unit :=
  match StrictMode.ofLevel? level with
  | some mode => modify (·.setStrict mode)
  | none => throw (.invalidStrictLevel level)

end Building

/-! ## Sets at once -/

namespace ValidatorSet

/-- The set with one more validator. -/
def addValidator (s : ValidatorSet) (field capability : String) (value : Operand)
    (message : Option String := none) : Except ConfigError ValidatorSet :=
  expectAll (s.after (Building.addValidator field capability value message))

def addRule (s : ValidatorSet) (r : Rule) : Except ConfigError ValidatorSet :=
  expectAll (s.after (Building.addRule r))

/-- The set with the validator that a written rule is. -/
def addValidatorFromRule (s : ValidatorSet) (text : String) : Except ConfigError ValidatorSet :=
  expectAll (s.after (Building.addValidatorFromRule text))

/-- The set of the validators that written rules are. -/
def ofRules (texts : List String) (strict : StrictMode) : Except ConfigError ValidatorSet :=
  expectAll ((empty.setStrict strict).after (Building.addValidatorsFromRules texts))

def ofField (field : String) (pairs : List (String × Operand)) (strict : StrictMode) :
    Except ConfigError ValidatorSet :=
  expectAll ((empty.setStrict strict).after (Building.addValidatorsToField field pairs))

end ValidatorSet

end RecordRules
