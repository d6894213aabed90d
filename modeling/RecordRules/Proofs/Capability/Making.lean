import RecordRules.Capability.Instance

/-!
# Making and changing instances

An instance has the parts that it was made of (`Builtin.exists_of_make`), and it is
made exactly if its operand can be prepared. A change in place writes to an
instance part by part. It either makes of the instance what is made with the new
operand, or errs as that errs and leaves the instance as it was
(`Builtin.change_of_made`, `Builtin.change_of_refused`). So an instance that is
given another operand is the one that is made with it
(`Builtin.setOperand_eq_make`).
-/

namespace RecordRules

namespace Builtin

/-! ## Making -/

theorem make_of_prepared {k : Kind} {o : Operand} {patterns : List Pattern}
    (h : k.prepare o = .ok patterns) (message : Option String) :
    make k o message = .ok ⟨k, o, message, patterns, h⟩ := by
  rw [make]
  split
  next patterns' h' =>
    obtain rfl := Except.ok.inj (h.symm.trans h')
    rfl
  next fault h' => cases h.symm.trans h'

theorem make_of_fault {k : Kind} {o : Operand} {fault : OperandFault}
    (h : k.prepare o = .error fault) (message : Option String) :
    make k o message = .error (.invalidOperand k.name fault) := by
  rw [make]
  split
  next patterns h' => cases h.symm.trans h'
  next fault' h' =>
    obtain rfl := Except.error.inj (h.symm.trans h')
    rfl

/-- What is made has the parts that it is made of. -/
theorem exists_of_make {k : Kind} {o : Operand} {message : Option String} {b : Builtin}
    (h : make k o message = .ok b) : ∃ patterns hp, b = ⟨k, o, message, patterns, hp⟩ := by
  have hprepared : ∃ patterns, k.prepare o = .ok patterns := by
    cases hp : k.prepare o with
    | error fault => cases h.symm.trans (make_of_fault hp message)
    | ok patterns => exact ⟨patterns, rfl⟩
  obtain ⟨patterns, hp⟩ := hprepared
  exact ⟨patterns, hp, Except.ok.inj (h.symm.trans (make_of_prepared hp message))⟩

/-! ## Changing -/

section Change

variable {b : Builtin} {operand : Operand}

theorem change_of_prepared {patterns : List Pattern} (h : b.kind.prepare operand = .ok patterns) :
    b.change operand = (.ok (), ⟨b.kind, operand, b.customMessage, patterns, h⟩) := by
  simp only [change, OperandCells.run_replace, h]

theorem change_of_fault {fault : OperandFault} (h : b.kind.prepare operand = .error fault) :
    b.change operand = (.error (.invalidOperand b.kind.name fault), b) := by
  simp only [change, OperandCells.run_replace, h, cells]

/-- A change to an operand that can drive the capability keeps nothing of the old
one. -/
theorem change_of_made {fresh : Builtin} (h : make b.kind operand b.customMessage = .ok fresh) :
    b.change operand = (.ok (), fresh) := by
  obtain ⟨patterns, hp, rfl⟩ := exists_of_make h
  exact change_of_prepared hp

/-- A change to an operand that cannot drive the capability changes nothing. -/
theorem change_of_refused {e : ConfigError} (h : make b.kind operand b.customMessage = .error e) :
    b.change operand = (.error e, b) := by
  cases hp : b.kind.prepare operand with
  | ok patterns =>
      rw [make_of_prepared hp] at h
      cases h
  | error fault =>
      rw [make_of_fault hp] at h
      cases h
      exact change_of_fault hp

end Change

/-- A capability that is given another operand is the one that is made with it. -/
theorem setOperand_eq_make (b : Builtin) (operand : Operand) :
    b.setOperand operand = make b.kind operand b.customMessage := by
  rw [setOperand]
  cases h : make b.kind operand b.customMessage with
  | ok fresh =>
      rw [change_of_made h]
      rfl
  | error e =>
      rw [change_of_refused h]
      rfl

end Builtin

namespace Instance

theorem make_of_prepared {k : Kind} {o : Operand} {patterns : List Pattern}
    (h : k.prepare o = .ok patterns) (message : Option String) :
    make k o message = .ok (.builtin ⟨k, o, message, patterns, h⟩) := by
  rw [make, Builtin.make_of_prepared h]
  rfl

theorem make_of_fault {k : Kind} {o : Operand} {fault : OperandFault}
    (h : k.prepare o = .error fault) (message : Option String) :
    make k o message = .error (.invalidOperand k.name fault) := by
  rw [make, Builtin.make_of_fault h]
  rfl

theorem exists_of_make {k : Kind} {o : Operand} {message : Option String} {i : Instance}
    (h : make k o message = .ok i) :
    ∃ patterns hp, i = .builtin ⟨k, o, message, patterns, hp⟩ := by
  rw [make] at h
  cases hb : Builtin.make k o message with
  | error e =>
      rw [hb] at h
      cases h
  | ok b =>
      obtain ⟨patterns, hp, rfl⟩ := Builtin.exists_of_make hb
      rw [hb] at h
      cases h
      exact ⟨patterns, hp, rfl⟩

theorem operand_make {k : Kind} {o : Operand} {message : Option String} {i : Instance}
    (h : make k o message = .ok i) : i.operand = o := by
  obtain ⟨patterns, hp, rfl⟩ := exists_of_make h
  rfl

theorem setOperand_builtin (b : Builtin) (operand : Operand) :
    (Instance.builtin b).setOperand operand = make b.kind operand b.customMessage := by
  rw [make, ← b.setOperand_eq_make, Builtin.setOperand, setOperand, change]
  obtain ⟨outcome, changed⟩ := b.change operand
  cases outcome <;> rfl

end Instance

end RecordRules
