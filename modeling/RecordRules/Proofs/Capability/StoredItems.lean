import RecordRules.Proofs.Capability.Counting

/-!
# Where items are stored

The tests of items find their items by name: under a simple one they open the
list that stands there, by a path they take what each match contributes. They
look at nothing else of the record (`Kind.judge_aimedAt`).

So a list of values can be stored as it is, or with each value under the same
key of a map of its own (`column`). The path through the key finds the values
again (`resolvePath_column`), and leaves out nulls where the simple name does. If
none of the values is a list, which only the path would open, both names have
the same items (`fieldItems_column`), and every test of items says the same
(`item_tests_ignore_storage`).
-/

namespace RecordRules

/-! ## Columns -/

/-- Maps that each hold one of the values, under the same key. -/
def column (key : String) (xs : List Json) : Json := .arr (xs.map fun x => .obj [(key, x)])

theorem walk_singleton {key : String} (hp : isPosition key = false) (x : Json) :
    walk key.toList none (.obj [(key, x)]) = [x] := by
  have hleads : leadsTo key.toList key.toList = true := leadsTo_iff.mpr (.inl rfl)
  rw [walk_record, walkEntries, hp, if_neg Bool.false_ne_true, extendPath, walkEntries,
    List.append_nil]
  simp only [hleads, if_true]
  exact walk_self key.toList x

theorem resolvePath_column {key : String} (hne : key ≠ "") (hp : isPosition key = false)
    (xs : List Json) : resolvePath key (column key xs) = xs := by
  have hitems : walkItems key.toList none (xs.map fun x => .obj [(key, x)]) = xs := by
    induction xs with
    | nil => rfl
    | cons x xs ih => rw [List.map_cons, walkItems, walk_singleton hp, ih, List.singleton_append]
  rw [resolvePath, if_neg (by simpa using hne), column, walk, if_neg (Option.some_ne_none _).symm]
  exact hitems

/-! ## Items -/

theorem fieldItems_simple {field : String} (hs : isDotted field = false) (xs : List Json) :
    fieldItems (.obj [(field, .arr xs)]) field = xs.filter (!·.isNull) := by
  rw [fieldItems, lookupField, hs, if_neg Bool.false_ne_true, Json.get?, List.lookup_cons_self]
  simp [itemsOf]

theorem flatMap_itemsOf {xs : List Json} (h : ∀ x ∈ xs, x.isList = false) :
    xs.flatMap itemsOf = xs.filter (!·.isNull) := by
  induction xs with
  | nil => rfl
  | cons x xs ih =>
      obtain ⟨hx, hxs⟩ := List.forall_mem_cons.mp h
      rw [List.flatMap_cons, ih hxs, List.filter_cons]
      cases x with
      | arr items => cases hx
      | null | bool b | num n | str s | obj entries => rfl

theorem fieldItems_column {wrapper key : String} (hw : isPosition wrapper = false)
    (hne : key ≠ "") (hp : isPosition key = false) {xs : List Json}
    (h : ∀ x ∈ xs, x.isList = false) :
    fieldItems (.obj [(wrapper, column key xs)]) (wrapper ++ "." ++ key) =
      xs.filter (!·.isNull) := by
  have hd : isDotted (wrapper ++ "." ++ key) = true := by simp [isDotted]
  rw [fieldItems, lookupField, hd, if_pos rfl, resolvePath_wrapped hw hne,
    resolvePath_column hne hp, flatMap_itemsOf h]

/-! ## Tests of items -/

/-- What a test of items starts with goes well, and gives it the field and the value. -/
theorem requireRecord_entry {name field : String} {record : Json}
    (hr : record.isCollection = true) (hf : field ≠ "") (v : Json)
    (test : String × Json → Except ConfigError Bool) :
    (requireRecord name record >>= fun _ =>
      orFaulty name (Operand.keyed field v).entry >>= test) = test (field, v) := by
  rw [requireRecord_of_isCollection hr, Operand.entry_keyed hf]
  rfl

namespace Kind

/-- The capability tests the items of a field, and does not measure the field. -/
def testsItems : Kind → Bool
  | .item (.count _) => false
  | .item _ => true
  | .field .hasOneNotEmpty => true
  | _ => false

/-- The operand that aims a capability at a field. -/
def aimedAt (field : String) (v : Json) : Kind → Operand
  | .item _ => .keyed field v
  | _ => .field field

section Aimed

variable {k : Kind} (hk : k.testsItems = true)

include hk

/-- What the check says of the operand does not hang on the field. -/
theorem check_aimedAt {field other : String} (hf : field ≠ "") (hother : other ≠ "") (v : Json) :
    k.check (k.aimedAt field v) = k.check (k.aimedAt other v) := by
  cases k with
  | value t => cases hk
  | item t =>
      simp only [aimedAt, check, ItemTest.check, Operand.entry_keyed hf, Operand.entry_keyed hother]
      rfl
  | field t =>
      simp only [aimedAt, check, Operand.fieldName_field hf, Operand.fieldName_field hother]
      rfl

/-- The judgement is about the items of the field alone. -/
theorem judge_aimedAt (v : Json) :
    ∃ f : List Json → Bool, ∀ field record, field ≠ "" → record.isCollection = true →
      k.judge (k.aimedAt field v) [] record = .ok (f (fieldItems record field)) := by
  cases k with
  | value t => cases hk
  | item t =>
      cases t with
      | count relation => cases hk
      | equals quota =>
          exact ⟨fun items => quota.holds (items.countP (looseEq · v)),
            fun field record hf hr => requireRecord_entry hr hf v _⟩
      | contains quota =>
          exact ⟨fun items => quota.holds (items.countP (containsValue · v)),
            fun field record hf hr => requireRecord_entry hr hf v _⟩
      | beyond bound =>
          exact ⟨fun items => items.any fun item => (compareNumbers item v).any bound.holds,
            fun field record hf hr => requireRecord_entry hr hf v _⟩
  | field t =>
      cases t with
      | has quota | required => cases hk
      | hasOneNotEmpty =>
          refine ⟨fun items => items.any (!isBlank ·), fun field record hf hr => ?_⟩
          simp only [judge, aimedAt, FieldTest.judge, requireRecord_of_isCollection hr,
            Operand.fieldName_field hf]
          rfl

end Aimed

end Kind

/-- **How items are stored makes no difference to their tests.** Values that are no
lists stand in a list under a simple field, or each in a map of its own in a list
under a wrapper. A test of items is aimed at the field of the one record, or at the
path into the other. Both operands are refused for the same fault, or both are
accepted, and the records pass both or fail both. -/
theorem item_tests_ignore_storage {k : Kind} (hk : k.testsItems = true) {field : String}
    (hf : field ≠ "") (hs : isDotted field = false) {wrapper key : String}
    (hw : isPosition wrapper = false) (hne : key ≠ "") (hp : isPosition key = false)
    {xs : List Json} (hx : ∀ x ∈ xs, x.isList = false) (v : Json)
    (message message' : Option String) :
    (∃ fault, Builtin.make k (k.aimedAt field v) message = .error (.invalidOperand k.name fault)
        ∧ Builtin.make k (k.aimedAt (wrapper ++ "." ++ key) v) message' =
          .error (.invalidOperand k.name fault))
      ∨ ∃ b b' passed, Builtin.make k (k.aimedAt field v) message = .ok b
        ∧ Builtin.make k (k.aimedAt (wrapper ++ "." ++ key) v) message' = .ok b'
        ∧ b.evaluate (.obj [(field, .arr xs)]) = .ok passed
        ∧ b'.evaluate (.obj [(wrapper, column key xs)]) = .ok passed := by
  have hpath : wrapper ++ "." ++ key ≠ "" := by simp
  have hkind : k ≠ .value .regEx := by
    rintro rfl
    cases hk
  have hprepare := Kind.prepare_eq_check hkind (k.aimedAt field v)
  have hprepare' := Kind.prepare_eq_check hkind (k.aimedAt (wrapper ++ "." ++ key) v)
  rw [← k.check_aimedAt hk hf hpath v] at hprepare'
  cases hcheck : k.check (k.aimedAt field v) with
  | error fault =>
      rw [hcheck] at hprepare hprepare'
      exact .inl ⟨fault, Builtin.make_of_fault hprepare message,
        Builtin.make_of_fault hprepare' message'⟩
  | ok u =>
      rw [hcheck] at hprepare hprepare'
      obtain ⟨f, hjudge⟩ := k.judge_aimedAt hk v
      refine .inr ⟨_, _, f (xs.filter (!·.isNull)), Builtin.make_of_prepared hprepare message,
        Builtin.make_of_prepared hprepare' message', ?_, ?_⟩
      · rw [Builtin.evaluate, hjudge field _ hf rfl, fieldItems_simple hs]
      · rw [Builtin.evaluate, hjudge _ _ hpath rfl, fieldItems_column hw hne hp hx]

/-- The identifiers of three users, one of which is missing. -/
theorem item_tests_ignore_storage_of_identifiers :
    ∃ b b', Builtin.make (.item (.equals .exactlyOne)) (.keyed "ids" (.str "1")) none = .ok b
      ∧ Builtin.make (.item (.equals .exactlyOne)) (.keyed "users.id" (.str "1")) none = .ok b'
      ∧ b.evaluate (.obj [("ids", .arr [.num (.int ⟨1, by decide⟩), .null, .str "10"])]) = .ok true
      ∧ b'.evaluate (.obj [("users",
          column "id" [.num (.int ⟨1, by decide⟩), .null, .str "10"])]) = .ok true := by
  have hrun : (Builtin.make (.item (.equals .exactlyOne)) (.keyed "ids" (.str "1")) none >>=
      fun b => b.evaluate
        (.obj [("ids", .arr [.num (.int ⟨1, by decide⟩), .null, .str "10"])])).toOption =
        some true := by decide +kernel
  obtain ⟨b, hb, heval⟩ := bind_eq_ok.mp (toOption_eq_some.mp hrun)
  have hitems : ∀ x ∈ [Json.num (.int ⟨1, by decide⟩), .null, .str "10"], x.isList = false := by
    simp [Json.isList]
  have hstorage := item_tests_ignore_storage (k := .item (.equals .exactlyOne)) rfl
    (show "ids" ≠ "" by decide) (by decide) (show isPosition "users" = false by decide)
    (show "id" ≠ "" by decide) (by decide) hitems (.str "1") none none
  obtain ⟨fault, hfault, -⟩ | ⟨c, c', passed, hc, hc', hpassed, hpassed'⟩ := hstorage
  · cases hb.symm.trans hfault
  · obtain rfl : b = c := Except.ok.inj (hb.symm.trans hc)
    obtain rfl : true = passed := Except.ok.inj (heval.symm.trans hpassed)
    exact ⟨b, c', hb, hc', heval, hpassed'⟩

end RecordRules
