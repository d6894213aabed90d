import RecordRules.Proofs.Capability.Thresholds
import RecordRules.Proofs.Net.Addresses

/-!
# Subnets are prefixes

A subnet is kept as a network and a mask, and both ways to write one come to the
same form (`Subnet.ofAddress`): an address with as many leading bits as count.
With a slash these are written out (`Subnet.read?_slashed`). Octets alone are an
address with zeros for the rest, of which the bits of the octets count
(`Subnet.read?_octets`); the mask takes nothing off it, as there is nothing behind
them. No other subnet is ever read, and its length is at most 32
(`Subnet.exists_ofAddress`), so that the mask is made by a shift of less than the
width (`leadingBits_eq_shift`).

To lie in a subnet of this form is to agree with its address in the leading bits
(`Subnet.contains_ofAddress`), from which `subnets_are_prefixes` follows.
-/

namespace RecordRules

/-! ## Leading bits -/

section Mask

variable {p : Nat} (hp : p ≤ 32)

include hp

/-- No bit is shifted further than the width, and none at all where none counts. -/
theorem leadingBits_eq_shift :
    (p = 0 ∧ leadingBits p = 0#32)
      ∨ ∃ distance < 32, distance + p = 32 ∧ leadingBits p = BitVec.allOnes 32 <<< distance := by
  rw [leadingBits]
  split
  next h => exact .inl ⟨h, rfl⟩
  next h => exact .inr ⟨32 - p, by omega, by omega, rfl⟩

theorem getMsbD_leadingBits (i : Nat) : (leadingBits p).getMsbD i = decide (i < p) := by
  obtain ⟨rfl, hmask⟩ | ⟨distance, -, hsum, hmask⟩ := leadingBits_eq_shift hp
  · rw [hmask, BitVec.getMsbD_zero]
    rfl
  · rw [hmask, BitVec.getMsbD_shiftLeft, BitVec.getMsbD_allOnes]
    exact decide_eq_decide.mpr (by omega)

end Mask

/-- The addresses have the same `p` leading bits. -/
def Ipv4.Agree (p : Nat) (a n : Ipv4) : Prop := ∀ i < p, a.getMsbD i = n.getMsbD i

instance (p : Nat) (a n : Ipv4) : Decidable (a.Agree p n) :=
  inferInstanceAs (Decidable (∀ i < p, a.getMsbD i = n.getMsbD i))

theorem Ipv4.Agree.mono {p q : Nat} {a n : Ipv4} (h : Agree p a n) (hq : q ≤ p) : Agree q a n :=
  fun i hi => h i (Nat.lt_of_lt_of_le hi hq)

/-- Masked addresses are the same if their leading bits are. -/
theorem and_leadingBits_eq_iff {p : Nat} (hp : p ≤ 32) {a n : Ipv4} :
    a &&& leadingBits p = n &&& leadingBits p ↔ a.Agree p n := by
  constructor
  · intro h i hi
    have hbit := congrArg (BitVec.getMsbD · i) h
    simpa [BitVec.getMsbD_and, getMsbD_leadingBits hp, hi] using hbit
  · intro h
    refine BitVec.eq_of_getMsbD_eq fun i _ => ?_
    rw [BitVec.getMsbD_and, BitVec.getMsbD_and, getMsbD_leadingBits hp]
    by_cases hi : i < p
    · rw [h i hi]
    · simp [hi]

/-- Nothing is masked of an address that has only zeros behind. -/
theorem and_leadingBits_eq_self {p : Nat} (hp : p ≤ 32) {n : Ipv4}
    (h : ∀ i, p ≤ i → n.getMsbD i = false) : n &&& leadingBits p = n := by
  refine BitVec.eq_of_getMsbD_eq fun i _ => ?_
  rw [BitVec.getMsbD_and, getMsbD_leadingBits hp]
  by_cases hi : i < p
  · simp [hi]
  · simp [h i (Nat.le_of_not_lt hi)]

namespace Subnet

theorem contains_ofAddress {p : Nat} (hp : p ≤ 32) (n a : Ipv4) :
    (ofAddress n p).contains a = true ↔ a.Agree p n := by
  rw [contains, beq_iff_eq]
  exact and_leadingBits_eq_iff hp

/-! ## Octets alone -/

/-- The address that begins with the octets and goes on with zeros. -/
def start (os : List (BitVec 8)) : Ipv4 :=
  Ipv4.ofOctets (os.getD 0 0#8) (os.getD 1 0#8) (os.getD 2 0#8) (os.getD 3 0#8)

theorem getMsbD_ofOctets (w x y z : BitVec 8) (i : Nat) :
    (Ipv4.ofOctets w x y z).getMsbD i =
      if i < 8 then w.getMsbD i else if i < 16 then x.getMsbD (i - 8)
        else if i < 24 then y.getMsbD (i - 16) else z.getMsbD (i - 24) := by
  rw [Ipv4.ofOctets, BitVec.getMsbD_append, BitVec.getMsbD_append, BitVec.getMsbD_append]
  grind

theorem getMsbD_start {os : List (BitVec 8)} {i : Nat} (h : 8 * os.length ≤ i) :
    (start os).getMsbD i = false := by
  have hoctet : ∀ k j, os.length ≤ k ∨ 8 ≤ j → (os.getD k 0#8).getMsbD j = false := by
    rintro k j (hk | hj)
    · rw [List.getD_eq_getElem?_getD, List.getElem?_eq_none hk, Option.getD_none, BitVec.getMsbD_zero]
    · exact BitVec.getMsbD_of_ge _ _ hj
  rw [start, getMsbD_ofOctets]
  split_ifs <;> exact hoctet _ _ (by omega)

theorem ofOctets?_eq {os : List (BitVec 8)} (hpos : 1 ≤ os.length) (hle : os.length ≤ 4) :
    ofOctets? os = some (ofAddress (start os) (8 * os.length)) := by
  rw [ofAddress, and_leadingBits_eq_self (by omega) fun i hi => getMsbD_start hi]
  match os, hpos, hle with
  | [a], _, _ => rfl
  | [a, b], _, _ => rfl
  | [a, b, c], _, _ => rfl
  | [a, b, c, d], _, _ => rfl

/-- With the zeros written out they are an address, which reads back. -/
theorem read?_start {os : List (BitVec 8)} (hle : os.length ≤ 4) :
    Ipv4.read? (dotted (os ++ List.replicate (4 - os.length) 0#8)).toList = some (start os) := by
  match os, hle with
  | [], _ => exact Ipv4.read?_dotted ..
  | [a], _ => exact Ipv4.read?_dotted ..
  | [a, b], _ => exact Ipv4.read?_dotted ..
  | [a, b, c], _ => exact Ipv4.read?_dotted ..
  | [a, b, c, d], _ => exact Ipv4.read?_dotted ..

/-! ## Reading -/

theorem readNat?_of_digits {cs : List Char} (hne : cs ≠ []) (h : Decimal.AreDigits cs) :
    readNat? cs = some (Decimal.ofDigits cs) := by
  unfold readNat?
  split
  next => cases h '+' (List.mem_cons_self ..)
  next => simp [hne, List.all_eq_true.mpr h]

theorem readNat?_digitsOf (n : Nat) : readNat? (Decimal.digitsOf n) = some n := by
  rw [readNat?_of_digits (Decimal.digitsOf_ne_nil n) (Decimal.areDigits_digitsOf n),
    Decimal.ofDigits_digitsOf]

theorem read?_slashed {address : List Char} (h : IsNumeral address) {n : Ipv4}
    (hread : Ipv4.read? address = some n) {p : Nat} (hp : p ≤ 32) :
    read? (address ++ '/' :: Decimal.digitsOf p) = some (ofAddress n p) := by
  rw [read?, List.dropWhile_append_of_pos h.ne_slash, List.takeWhile_append_of_pos h.ne_slash]
  simp [readSlashed?, h.trim_eq, (IsNumeral.digitsOf p).trim_eq, hread, readNat?_digitsOf, hp]

theorem mapM_readPart? (os : List (BitVec 8)) :
    (os.map fun o => Decimal.digitsOf o.toNat).mapM readPart? = some os := by
  induction os with
  | nil => rfl
  | cons o os ih =>
      have hpart : readPart? (Decimal.digitsOf o.toNat) = some o := by
        have hlt : o.toNat < 256 := o.isLt
        simp [readPart?, readNat?_digitsOf, show ¬255 < o.toNat by omega]
      rw [List.map_cons, List.mapM_cons, hpart, ih]
      rfl

/-- The last character of octets is a digit, so only the dots behind them are dropped. -/
theorem dropFinalDots_dotted {os : List (BitVec 8)} (hne : os ≠ []) {dots : List Char}
    (hdots : ∀ c ∈ dots, c = '.') :
    dropFinalDots ((dotted os).toList ++ dots) = (dotted os).toList := by
  obtain ⟨os, o, rfl⟩ := (List.eq_nil_or_concat' os).resolve_left hne
  obtain ⟨cs, hcs⟩ := exists_dotted_concat os o
  obtain ⟨ds, d, hds⟩ :=
    (List.eq_nil_or_concat' (Decimal.digitsOf o.toNat)).resolve_left (Decimal.digitsOf_ne_nil _)
  have hd : Decimal.isDigit d = true := Decimal.areDigits_digitsOf o.toNat d (by simp [hds])
  have hlast : (d == '.') = false := by
    rw [beq_eq_false_iff_ne]
    rintro rfl
    cases hd
  have hdrop : ∀ c ∈ dots.reverse, (c == '.') = true := by simpa using hdots
  rw [hcs, hds, dropFinalDots, List.reverse_append, List.dropWhile_append_of_pos hdrop]
  simp [hlast]

theorem read?_octets {os : List (BitVec 8)} (hpos : 1 ≤ os.length) (hle : os.length ≤ 4)
    {dots : List Char} (hdots : ∀ c ∈ dots, c = '.') :
    read? ((dotted os).toList ++ dots) = some (ofAddress (start os) (8 * os.length)) := by
  have hne : os ≠ [] := List.length_pos_iff.mp hpos
  have htext : IsNumeral ((dotted os).toList ++ dots) := by
    refine ⟨List.append_ne_nil_of_left_ne_nil (dotted_numeral hne).ne_nil _, fun c hc => ?_⟩
    rcases List.mem_append.mp hc with hc | hc
    · exact (dotted_numeral hne).chars c hc
    · rw [hdots c hc]
      decide
  have hpieces : ∀ piece ∈ os.map fun o => Decimal.digitsOf o.toNat, '.' ∉ piece := by
    intro piece hpiece hdot
    obtain ⟨o, -, rfl⟩ := List.mem_map.mp hpiece
    cases Decimal.areDigits_digitsOf o.toNat '.' hdot
  rw [read?, List.dropWhile_eq_nil_iff.mpr htext.ne_slash]
  simp only [readDotted?, htext.trim_eq, dropFinalDots_dotted hne hdots]
  rw [toList_dotted, Text.splitOn_join (by simpa using hne) hpieces, mapM_readPart?]
  exact ofOctets?_eq hpos hle

/-- Whatever is read has the common form, with no more bits than there are. -/
theorem exists_ofAddress {cs : List Char} {s : Subnet} (h : read? cs = some s) :
    ∃ n p, p ≤ 32 ∧ s = ofAddress n p := by
  rw [read?] at h
  split at h
  next =>
    obtain ⟨os, -, hos⟩ := Option.bind_eq_some_iff.mp h
    obtain ⟨hpos, hle⟩ : 1 ≤ os.length ∧ os.length ≤ 4 := by
      unfold ofOctets? at hos
      split at hos <;> simp_all
    rw [ofOctets?_eq hpos hle] at hos
    exact ⟨start os, 8 * os.length, by omega, (Option.some.inj hos).symm⟩
  next =>
    obtain ⟨n, -, h⟩ := Option.bind_eq_some_iff.mp h
    obtain ⟨p, -, h⟩ := Option.bind_eq_some_iff.mp h
    split at h
    next => cases h
    next hp => exact ⟨n, p, Nat.le_of_not_lt hp, (Option.some.inj h).symm⟩

end Subnet

/-! ## Instances -/

/-- What the test for a subnet says of an input. -/
def Subnet.judge (s : Subnet) (input : Json) : Except ConfigError Bool :=
  match (valueText input).bind fun text => Ipv4.read? text.toList with
  | some address => .ok (s.contains address)
  | none => .error (.invalidInput "IsSubnetOf" .notAnIpv4Address)

theorem Subnet.judge_render (s : Subnet) (a : Ipv4) :
    s.judge (.str a.render) = .ok (s.contains a) := by
  have htext : valueText (.str a.render) = some a.render := rfl
  rw [judge, htext, Option.bind_some, Ipv4.read?_render]

theorem Operand.subnet_of_read? {text : String} {s : Subnet}
    (h : Subnet.read? text.toList = some s) : (Operand.scalar (.str text)).subnet = .ok s := by
  have htext : ((Operand.scalar (.str text)).scalar?.bind valueText) = some text := rfl
  simp only [subnet, htext, h]

theorem Operand.exists_ofAddress {o : Operand} {s : Subnet} (h : o.subnet = .ok s) :
    ∃ n p, p ≤ 32 ∧ s = .ofAddress n p := by
  rw [subnet] at h
  split at h
  next => cases h
  next =>
    split at h
    next hread =>
      obtain rfl := Except.ok.inj h
      exact Subnet.exists_ofAddress hread
    next => cases h

/-- An operand with a subnet makes the test for that subnet. -/
theorem exists_make_of_subnet {o : Operand} {s : Subnet} (h : o.subnet = .ok s)
    (message : Option String) :
    ∃ b, Builtin.make (.value .isSubnetOf) o message = .ok b
      ∧ ∀ input, b.evaluate input = s.judge input := by
  have hprepared : (Kind.value .isSubnetOf).prepare o = .ok [] := by
    rw [Kind.prepare_eq_check (by simp), Kind.check, ValueTest.check, h]
    rfl
  refine ⟨_, Builtin.make_of_prepared hprepared message, fun input => ?_⟩
  change ValueTest.judge o [] input .isSubnetOf = _
  rw [ValueTest.judge, orFaulty_of_ok h]
  rfl

/-- The operand that is an address and the number of its bits that count. -/
def slashed (address : String) (p : Nat) : Operand := .scalar (.str (address ++ "/" ++ toString p))

theorem subnet_slashed {address : String} (h : IsNumeral address.toList) {n : Ipv4}
    (hread : Ipv4.read? address.toList = some n) {p : Nat} (hp : p ≤ 32) :
    (slashed address p).subnet = .ok (.ofAddress n p) := by
  refine Operand.subnet_of_read? ?_
  have htext : (address ++ "/" ++ toString p).toList =
      address.toList ++ '/' :: Decimal.digitsOf p := by
    rw [String.toList_append, String.toList_append, Decimal.digitsOf, ← Nat.toList_repr]
    exact List.append_assoc ..
  rw [htext]
  exact Subnet.read?_slashed h hread hp

theorem subnet_render (n : Ipv4) {p : Nat} (hp : p ≤ 32) :
    (slashed n.render p).subnet = .ok (.ofAddress n p) :=
  subnet_slashed (dotted_numeral (List.cons_ne_nil _ _)) n.read?_render hp

/-- The test for a subnet passes the addresses that agree with its own. -/
theorem exists_make_slashed (message : Option String) (n : Ipv4) {p : Nat} (hp : p ≤ 32) :
    ∃ b, Builtin.make (.value .isSubnetOf) (slashed n.render p) message = .ok b
      ∧ ∀ a : Ipv4, ∃ passed, b.evaluate (.str a.render) = .ok passed
        ∧ (passed = true ↔ a.Agree p n) := by
  obtain ⟨b, hb, heval⟩ := exists_make_of_subnet (subnet_render n hp) message
  refine ⟨b, hb, fun a => ⟨_, (heval _).trans (Subnet.judge_render _ a), ?_⟩⟩
  exact Subnet.contains_ofAddress hp n a

/-- Octets alone make the test for the subnet that they begin. -/
theorem exists_make_dotted (message : Option String) {os : List (BitVec 8)}
    (hpos : 1 ≤ os.length) (hle : os.length ≤ 4) {dots : String} (hdots : dots ∈ ["", "."]) :
    ∃ b b', Builtin.make (.value .isSubnetOf) (.scalar (.str (dotted os ++ dots))) message = .ok b
      ∧ Builtin.make (.value .isSubnetOf)
        (slashed (dotted (os ++ List.replicate (4 - os.length) 0#8)) (8 * os.length)) message =
          .ok b'
      ∧ ∀ input, b.evaluate input = b'.evaluate input := by
  have halone : (Operand.scalar (.str (dotted os ++ dots))).subnet =
      .ok (.ofAddress (Subnet.start os) (8 * os.length)) := by
    refine Operand.subnet_of_read? ?_
    rw [String.toList_append]
    refine Subnet.read?_octets hpos hle ?_
    rcases List.mem_pair.mp hdots with rfl | rfl <;> simp
  have hfilled : os ++ List.replicate (4 - os.length) 0#8 ≠ [] :=
    List.append_ne_nil_of_left_ne_nil (List.length_pos_iff.mp hpos) _
  have hzeros := subnet_slashed (dotted_numeral hfilled) (Subnet.read?_start hle)
    (show 8 * os.length ≤ 32 by omega)
  obtain ⟨b, hb, heval⟩ := exists_make_of_subnet halone message
  obtain ⟨b', hb', heval'⟩ := exists_make_of_subnet hzeros message
  exact ⟨b, b', hb, hb', fun input => (heval input).trans (heval' input).symm⟩

/-- **Membership in a subnet is equality of prefixes.** An address and a length up
to 32 are accepted as a subnet, and an address passes exactly if it has as many
leading bits in common with it. Up to four octets, with a dot at the end or
without, are accepted too, and say the same of every input as with the missing
octets written as zeros and the length written out. Who lies in a subnet lies in
all with fewer bits of the same address. And whatever is accepted as a subnet is
an address and a length up to 32, whose mask no shift of the whole width makes. -/
theorem subnets_are_prefixes (message : Option String) :
    (∀ (n : Ipv4) (p : Nat), p ≤ 32 →
        ∃ b, Builtin.make (.value .isSubnetOf) (slashed n.render p) message = .ok b
          ∧ ∀ a : Ipv4, ∃ passed, b.evaluate (.str a.render) = .ok passed
            ∧ (passed = true ↔ a.Agree p n))
      ∧ (∀ os : List (BitVec 8), 1 ≤ os.length → os.length ≤ 4 → ∀ dots ∈ ["", "."],
        ∃ b b', Builtin.make (.value .isSubnetOf) (.scalar (.str (dotted os ++ dots))) message = .ok b
          ∧ Builtin.make (.value .isSubnetOf)
            (slashed (dotted (os ++ List.replicate (4 - os.length) 0#8)) (8 * os.length)) message =
              .ok b'
          ∧ ∀ input, b.evaluate input = b'.evaluate input)
      ∧ (∀ (n : Ipv4) (p q : Nat) (b b' : Builtin), q ≤ p → p ≤ 32 →
        Builtin.make (.value .isSubnetOf) (slashed n.render p) message = .ok b →
        Builtin.make (.value .isSubnetOf) (slashed n.render q) message = .ok b' →
        ∀ a : Ipv4, b.evaluate (.str a.render) = .ok true → b'.evaluate (.str a.render) = .ok true)
      ∧ ∀ (o : Operand) (b : Builtin), Builtin.make (.value .isSubnetOf) o message = .ok b →
        ∃ n p, p ≤ 32 ∧ o.subnet = .ok (.ofAddress n p)
          ∧ ((p = 0 ∧ leadingBits p = 0#32)
            ∨ ∃ distance < 32, distance + p = 32
              ∧ leadingBits p = BitVec.allOnes 32 <<< distance) := by
  refine ⟨fun n p hp => exists_make_slashed message n hp,
    fun os hpos hle dots hdots => exists_make_dotted message hpos hle hdots, ?_, ?_⟩
  · intro n p q b b' hq hp hb hb' a hpassed
    obtain ⟨c, hc, hin⟩ := exists_make_slashed message n hp
    obtain ⟨c', hc', hin'⟩ := exists_make_slashed message n (Nat.le_trans hq hp)
    obtain rfl := Except.ok.inj (hb.symm.trans hc)
    obtain rfl := Except.ok.inj (hb'.symm.trans hc')
    obtain ⟨_, heval, hagree⟩ := hin a
    obtain ⟨_, heval', hagree'⟩ := hin' a
    obtain rfl := Except.ok.inj (hpassed.symm.trans heval)
    rw [heval', hagree'.mpr ((hagree.mp rfl).mono hq)]
  · intro o b hb
    obtain ⟨s, hs⟩ := discard_eq_ok.mp (Kind.check_of_make hb)
    obtain ⟨n, p, hp, rfl⟩ := Operand.exists_ofAddress hs
    exact ⟨n, p, hp, hs, leadingBits_eq_shift hp⟩

/-- A network of sixteen bits, written in both ways, and one of eight around it. -/
theorem subnets_are_prefixes_of_network :
    ∃ b b' b'', Builtin.make (.value .isSubnetOf) (.scalar (.str "10.200.0.0/16")) none = .ok b
      ∧ Builtin.make (.value .isSubnetOf) (.scalar (.str "10.200.0.0/8")) none = .ok b'
      ∧ Builtin.make (.value .isSubnetOf) (.scalar (.str "10.200.")) none = .ok b''
      ∧ b.evaluate (.str "10.200.0.1") = .ok true ∧ b'.evaluate (.str "10.200.0.1") = .ok true
      ∧ b''.evaluate (.str "10.200.0.1") = .ok true := by
  obtain ⟨hleading, hoctets, hwider, -⟩ := subnets_are_prefixes none
  have hnetwork : (Ipv4.ofOctets 10 200 0 0).render = "10.200.0.0" := by decide +kernel
  have haddress : (Ipv4.ofOctets 10 200 0 1).render = "10.200.0.1" := by decide +kernel
  obtain ⟨b, hb, hin⟩ := hleading (Ipv4.ofOctets 10 200 0 0) 16 (by decide)
  obtain ⟨b', hb', -⟩ := hleading (Ipv4.ofOctets 10 200 0 0) 8 (by decide)
  obtain ⟨b'', c, hb'', hc, hsame⟩ := hoctets [10, 200] (by decide) (by decide) "." (by decide)
  obtain ⟨_, heval, hagree⟩ := hin (Ipv4.ofOctets 10 200 0 1)
  obtain rfl := hagree.mpr (by decide : Ipv4.Agree 16 _ _)
  have heval' := hwider _ 16 8 b b' (by decide) (by decide) hb hb' _ heval
  obtain rfl := Except.ok.inj (hb.symm.trans hc)
  rw [hnetwork] at hb hb'
  rw [haddress] at heval heval'
  exact ⟨b, b', b'', hb, hb', hb'', heval, heval', (hsame _).trans heval⟩

end RecordRules
