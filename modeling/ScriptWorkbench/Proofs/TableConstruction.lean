import Mathlib.Data.List.Induction
import Mathlib.Data.List.Nodup
import ScriptWorkbench.Proofs.Outcomes
import ScriptWorkbench.Proofs.TableLookup

/-!
# Building opcode tables

A table is built from pairs of a mnemonic and a number, one pair after another. The
first pair that cannot be declared ends it. Otherwise the table has just these pairs,
and looking up a mnemonic or a number finds the pair that was declared for it.
-/

namespace ScriptWorkbench

/-- Whether a number is the value of a byte. -/
def IsByteValue (value : Int) : Prop := 0 ≤ value ∧ value ≤ 0xFF

instance (value : Int) : Decidable (IsByteValue value) :=
  inferInstanceAs (Decidable (0 ≤ value ∧ value ≤ 0xFF))

theorem isByteValue_toNat (byte : UInt8) : IsByteValue byte.toNat := by
  have bound : byte.toNat < 256 := byte.toNat_lt
  exact ⟨by omega, by omega⟩

theorem Bytes.ofInt?_eq_none_iff {value : Int} : ofInt? value = none ↔ ¬IsByteValue value := by
  unfold ofInt? IsByteValue
  split <;> simp_all

theorem Bytes.ofInt?_toNat (byte : UInt8) : ofInt? byte.toNat = some byte := by
  have inRange : 0 ≤ (byte.toNat : Int) ∧ (byte.toNat : Int) ≤ 0xFF := isByteValue_toNat byte
  rw [ofInt?, if_pos inRange, Int.toNat_natCast, UInt8.ofNat_toNat]

theorem IsByteValue.exists_toNat {value : Int} (inRange : IsByteValue value) :
    ∃ byte : UInt8, (byte.toNat : Int) = value := by
  rcases inRange with ⟨lower, upper⟩
  refine ⟨UInt8.ofNat value.toNat, ?_⟩
  rw [UInt8.toNat_ofNat']
  omega

namespace OpcodeTable

/-! ## Rules for pairs -/

/-- Whether pairs can be declared together: their numbers are bytes and no two have the
same mnemonic. -/
structure IsDeclarable (pairs : List (String × Int)) : Prop where
  inRange : ∀ pair ∈ pairs, IsByteValue pair.2
  distinct : (pairs.map Prod.fst).Nodup

theorem IsDeclarable.of_append {earlier later : List (String × Int)}
    (declarable : IsDeclarable (earlier ++ later)) : IsDeclarable earlier where
  inRange pair member := declarable.inRange pair (List.mem_append_left later member)
  distinct := by
    have distinct := declarable.distinct
    rw [List.map_append] at distinct
    exact distinct.of_append_left

/-- What is wrong with a pair behind earlier ones. A number that is no byte is reported
before a mnemonic that is declared again. -/
inductive Refuses (earlier : List (String × Int)) : String × Int → DeclarationError → Prop
  | outOfRange {name : String} {value : Int} (outside : ¬IsByteValue value) :
      Refuses earlier (name, value) (.outOfRange name value)
  | declaredTwice {name : String} {value : Int} (inRange : IsByteValue value)
      (again : name ∈ earlier.map Prod.fst) :
      Refuses earlier (name, value) (.declaredTwice name)

theorem Refuses.not_isDeclarable {earlier : List (String × Int)} {pair : String × Int}
    {error : DeclarationError} (refuses : Refuses earlier pair error) :
    ¬IsDeclarable (earlier ++ [pair]) := by
  intro declarable
  cases refuses with
  | @outOfRange name value outside =>
      exact outside (declarable.inRange (name, value) (by simp))
  | declaredTwice inRange again =>
      have distinct := declarable.distinct
      rw [List.map_append, List.nodup_append] at distinct
      exact distinct.2.2 _ again _ (by simp) rfl

/-- Whether a mnemonic is the first that is declared for a number. -/
def IsFirstFor (pairs : List (String × Int)) (value : Int) (name : String) : Prop :=
  ∃ earlier later, pairs = earlier ++ (name, value) :: later ∧ ∀ pair ∈ earlier, pair.2 ≠ value

theorem map_find?_eq_some_iff {pairs : List (String × Int)} {value : Int} {name : String} :
    (pairs.find? fun pair => pair.2 == value).map Prod.fst = some name ↔
      IsFirstFor pairs value name := by
  simp only [Option.map_eq_some_iff, List.find?_eq_some_iff_append, beq_iff_eq, Bool.not_eq_true',
    beq_eq_false_iff_ne, IsFirstFor]
  constructor
  · intro found
    rcases found with ⟨pair, ⟨rfl, earlier, later, split, others⟩, rfl⟩
    exact ⟨earlier, later, split, others⟩
  · intro first
    rcases first with ⟨earlier, later, split, others⟩
    exact ⟨(name, value), ⟨rfl, earlier, later, split, others⟩, rfl⟩

/-! ## The pairs of a table -/

/-- The pairs that declare a table. -/
def pairs (table : OpcodeTable) : List (String × Int) :=
  table.declarations.map fun declaration => (declaration.1, (declaration.2.toNat : Int))

theorem map_fst_pairs (table : OpcodeTable) : table.pairs.map Prod.fst = table.names := by
  rw [pairs, List.map_map]
  rfl

theorem pairs_injective : Function.Injective pairs := by
  intro left right same
  have numberInjective : Function.Injective fun declaration : String × UInt8 =>
      (declaration.1, (declaration.2.toNat : Int)) := by
    intro declaration other equal
    have sameName := congrArg Prod.fst equal
    have sameValue := congrArg Prod.snd equal
    exact Prod.ext sameName (UInt8.toNat_inj.mp (Int.ofNat_inj.mp sameValue))
  rcases left with ⟨declarations, _⟩
  rcases right with ⟨others, _⟩
  cases (List.map_injective_iff.mpr numberInjective) same
  rfl

theorem mem_pairs_iff {table : OpcodeTable} {name : String} {value : Int} :
    (name, value) ∈ table.pairs ↔
      ∃ byte : UInt8, (name, byte) ∈ table.declarations ∧ (byte.toNat : Int) = value := by
  simp [pairs]

theorem isDeclarable_pairs (table : OpcodeTable) : IsDeclarable table.pairs where
  inRange := by
    intro pair member
    rcases mem_pairs_iff.mp member with ⟨byte, _, value⟩
    rw [← value]
    exact isByteValue_toNat byte
  distinct := by
    rw [map_fst_pairs]
    exact table.distinct

/-! ## Declaring pair by pair -/

section Declaring

variable {table next : OpcodeTable} {name : String} {value : Int}

theorem pairs_of_declare (declared : table.declare name value = .ok next) :
    next.pairs = table.pairs ++ [(name, value)] := by
  unfold declare at declared
  split at declared
  · cases declared
  · next byte converted =>
      split at declared
      · cases declared
        have inRange : IsByteValue value := by
          by_contra outside
          rw [Bytes.ofInt?_eq_none_iff.mpr outside] at converted
          cases converted
        rcases inRange.exists_toNat with ⟨same, rfl⟩
        rw [Bytes.ofInt?_toNat] at converted
        cases converted
        rw [pairs, List.map_append, ← pairs]
        rfl
      · cases declared

theorem declare_eq_error_iff {error : DeclarationError} :
    table.declare name value = .error error ↔ Refuses table.pairs (name, value) error := by
  by_cases inRange : IsByteValue value
  · rcases inRange.exists_toNat with ⟨byte, rfl⟩
    simp only [declare, Bytes.ofInt?_toNat]
    split
    · next fresh =>
        rw [← map_fst_pairs] at fresh
        constructor
        · intro impossible
          cases impossible
        · intro refuses
          cases refuses with
          | outOfRange outside => exact absurd inRange outside
          | declaredTwice _ again => exact absurd again fresh
    · next again =>
        rw [not_not, ← map_fst_pairs] at again
        constructor
        · intro refused
          cases refused
          exact .declaredTwice inRange again
        · intro refuses
          cases refuses with
          | outOfRange outside => exact absurd inRange outside
          | declaredTwice => rfl
  · simp only [declare, Bytes.ofInt?_eq_none_iff.mpr inRange]
    constructor
    · intro refused
      cases refused
      exact .outOfRange inRange
    · intro refuses
      cases refuses with
      | outOfRange => rfl
      | declaredTwice inside => exact absurd inside inRange

/-- Declaring a pair leads to the one table that has this pair behind the others. -/
theorem declare_eq_ok_iff :
    table.declare name value = .ok next ↔ next.pairs = table.pairs ++ [(name, value)] := by
  constructor
  · exact pairs_of_declare
  · intro extended
    cases declared : table.declare name value with
    | ok other => rw [pairs_injective ((pairs_of_declare declared).trans extended.symm)]
    | error error =>
        have declarable := next.isDeclarable_pairs
        rw [extended] at declarable
        exact absurd declarable (declare_eq_error_iff.mp declared).not_isDeclarable

end Declaring

theorem exists_pairs_eq {pairs : List (String × Int)} (declarable : IsDeclarable pairs) :
    ∃ table : OpcodeTable, table.pairs = pairs := by
  induction pairs using List.reverseRecOn with
  | nil => exact ⟨empty, rfl⟩
  | append_singleton earlier pair induction =>
      rcases induction declarable.of_append with ⟨table, rfl⟩
      cases declared : table.declare pair.1 pair.2 with
      | ok next => exact ⟨next, pairs_of_declare declared⟩
      | error error =>
          exact absurd declarable (declare_eq_error_iff.mp declared).not_isDeclarable

/-- Declaring pairs leads to the one table that has them behind those it started with. -/
theorem foldlM_declare_eq_ok_iff {start table : OpcodeTable} {pairs : List (String × Int)} :
    pairs.foldlM (fun table pair => table.declare pair.1 pair.2) start = .ok table ↔
      table.pairs = start.pairs ++ pairs := by
  induction pairs generalizing start with
  | nil => rw [List.foldlM_nil, pure_eq_ok_iff, List.append_nil, pairs_injective.eq_iff, eq_comm]
  | cons pair pairs induction =>
      rw [List.foldlM_cons, bind_eq_ok_iff]
      simp only [declare_eq_ok_iff, induction]
      have regroup : start.pairs ++ pair :: pairs = start.pairs ++ [pair] ++ pairs := by simp
      constructor
      · intro stepwise
        rcases stepwise with ⟨next, extended, rest⟩
        rw [rest, extended, regroup]
      · intro whole
        rw [regroup] at whole
        have declarable := table.isDeclarable_pairs
        rw [whole] at declarable
        rcases exists_pairs_eq declarable.of_append with ⟨next, extended⟩
        exact ⟨next, extended, by rw [whole, extended]⟩

theorem ofDeclarations_eq_ok_iff {table : OpcodeTable} {pairs : List (String × Int)} :
    ofDeclarations pairs = .ok table ↔ table.pairs = pairs := by
  rw [ofDeclarations, foldlM_declare_eq_ok_iff]
  rfl

theorem ofDeclarations_eq_error_iff {pairs : List (String × Int)} {error : DeclarationError} :
    ofDeclarations pairs = .error error ↔
      ∃ earlier pair later, pairs = earlier ++ pair :: later ∧ IsDeclarable earlier ∧
        Refuses earlier pair error := by
  rw [ofDeclarations, foldlM_eq_error_iff]
  constructor
  · intro failed
    rcases failed with ⟨earlier, pair, later, reached, rfl, folded, refused⟩
    have reachedPairs : reached.pairs = earlier := ofDeclarations_eq_ok_iff.mp folded
    subst reachedPairs
    exact ⟨_, pair, later, rfl, reached.isDeclarable_pairs, declare_eq_error_iff.mp refused⟩
  · intro broken
    rcases broken with ⟨earlier, pair, later, rfl, declarable, refuses⟩
    rcases exists_pairs_eq declarable with ⟨reached, rfl⟩
    exact ⟨_, pair, later, reached, rfl, ofDeclarations_eq_ok_iff.mpr rfl,
      declare_eq_error_iff.mpr refuses⟩

/-! ## Looking up -/

section LookingUp

variable {table : OpcodeTable} {name : String} {value : Int}

theorem byteOf_eq_ok_iff {byte : UInt8} :
    table.byteOf name = .ok byte ↔ (name, (byte.toNat : Int)) ∈ table.pairs := by
  have declared : (name, (byte.toNat : Int)) ∈ table.pairs ↔ table.byteOf? name = some byte := by
    rw [mem_pairs_iff, byteOf?_eq_some_iff]
    constructor
    · intro found
      rcases found with ⟨other, member, same⟩
      rwa [← UInt8.toNat_inj.mp (Int.ofNat_inj.mp same)]
    · exact fun member => ⟨byte, member, rfl⟩
  rw [declared, byteOf]
  cases table.byteOf? name <;> simp

theorem nameOfValue?_eq_find? (table : OpcodeTable) (value : Int) :
    table.nameOfValue? value = (table.pairs.find? fun pair => pair.2 == value).map Prod.fst := by
  by_cases inRange : IsByteValue value
  · rcases inRange.exists_toNat with ⟨byte, rfl⟩
    rw [nameOfValue?, Bytes.ofInt?_toNat, Option.bind_some, nameOf?, pairs, List.find?_map,
      Option.map_map]
    have sameByte : (fun declaration : String × UInt8 => declaration.2 == byte) =
        (fun pair : String × Int => pair.2 == (byte.toNat : Int)) ∘
          fun declaration => (declaration.1, (declaration.2.toNat : Int)) := by
      funext declaration
      rw [Bool.eq_iff_iff, Function.comp_apply, beq_iff_eq, beq_iff_eq, Int.natCast_inj,
        UInt8.toNat_inj]
    rw [← sameByte]
    rfl
  · rw [nameOfValue?, Bytes.ofInt?_eq_none_iff.mpr inRange, Option.bind_none, eq_comm,
      Option.map_eq_none_iff, List.find?_eq_none]
    intro pair member same
    have own := table.isDeclarable_pairs.inRange pair member
    rw [beq_iff_eq.mp same] at own
    exact inRange own

theorem nameOfValue?_eq_some_iff :
    table.nameOfValue? value = some name ↔ IsFirstFor table.pairs value name := by
  rw [nameOfValue?_eq_find?, map_find?_eq_some_iff]

theorem nameOfValue?_eq_none_iff :
    table.nameOfValue? value = none ↔ ∀ pair ∈ table.pairs, pair.2 ≠ value := by
  rw [nameOfValue?_eq_find?, Option.map_eq_none_iff, List.find?_eq_none]
  simp only [beq_iff_eq, ne_eq]

end LookingUp

/-- Whether looking up in a table finds what pairs declare. -/
structure Holds (table : OpcodeTable) (pairs : List (String × Int)) : Prop where
  names : table.names = pairs.map Prod.fst
  declared : ∀ name value, (name, value) ∈ pairs ↔
    ∃ byte, table.byteOf name = .ok byte ∧ (byte.toNat : Int) = value
  undeclared : ∀ name, name ∉ pairs.map Prod.fst →
    table.byteOf name = .error { fault := .unknownOpcode name (table.similar name) }
  named : ∀ value name, table.nameOfValue? value = some name ↔ IsFirstFor pairs value name
  unnamed : ∀ value, table.nameOfValue? value = none ↔ ∀ pair ∈ pairs, pair.2 ≠ value
  outside : ∀ value, ¬IsByteValue value → table.nameOfValue? value = none
  byteOf_name : ∀ value name, table.nameOfValue? value = some name →
    ∃ byte, table.byteOf name = .ok byte ∧ (byte.toNat : Int) = value
  name_byteOf : ∀ name byte, table.byteOf name = .ok byte →
    ∃ first, table.nameOfValue? byte.toNat = some first ∧ IsFirstFor pairs byte.toNat first

theorem holds_pairs (table : OpcodeTable) : table.Holds table.pairs := by
  have declared : ∀ name value, (name, value) ∈ table.pairs ↔
      ∃ byte, table.byteOf name = .ok byte ∧ (byte.toNat : Int) = value := by
    intro name value
    constructor
    · intro member
      rcases (table.isDeclarable_pairs.inRange _ member).exists_toNat with ⟨byte, rfl⟩
      exact ⟨byte, byteOf_eq_ok_iff.mpr member, rfl⟩
    · intro looked
      rcases looked with ⟨byte, found, rfl⟩
      exact byteOf_eq_ok_iff.mp found
  refine {
    names := table.map_fst_pairs.symm
    declared
    undeclared := fun name notListed => byteOf_of_notMem_names (table.map_fst_pairs ▸ notListed)
    named := fun value name => nameOfValue?_eq_some_iff
    unnamed := fun value => nameOfValue?_eq_none_iff
    outside := fun value outside => ?_
    byteOf_name := fun value name found => ?_
    name_byteOf := fun name byte found => ?_ }
  · rw [nameOfValue?, Bytes.ofInt?_eq_none_iff.mpr outside]
    rfl
  · rcases nameOfValue?_eq_some_iff.mp found with ⟨earlier, later, split, _⟩
    exact (declared name value).mp (by rw [split]; simp)
  · cases reading : table.nameOfValue? byte.toNat with
    | none => exact absurd rfl (nameOfValue?_eq_none_iff.mp reading _ (byteOf_eq_ok_iff.mp found))
    | some first => exact ⟨first, rfl, nameOfValue?_eq_some_iff.mp reading⟩

/-- Pairs make a table exactly if their numbers are bytes and their mnemonics distinct.
Otherwise the error is about the first pair that breaks one of these rules. The table
has the mnemonics in order, finds for each the byte that it was declared with, and for
each byte the first mnemonic that was declared with it. -/
theorem builds_from_declarable_pairs (pairs : List (String × Int)) :
    ((∃ table, ofDeclarations pairs = .ok table) ↔ IsDeclarable pairs) ∧
    (∀ error, ofDeclarations pairs = .error error ↔
      ∃ earlier pair later, pairs = earlier ++ pair :: later ∧ IsDeclarable earlier ∧
        Refuses earlier pair error) ∧
    ∀ table, ofDeclarations pairs = .ok table → table.Holds pairs := by
  refine ⟨?_, fun error => ofDeclarations_eq_error_iff, ?_⟩
  · simp only [ofDeclarations_eq_ok_iff]
    constructor
    · intro built
      rcases built with ⟨table, rfl⟩
      exact table.isDeclarable_pairs
    · exact exists_pairs_eq
  · intro table built
    rw [← ofDeclarations_eq_ok_iff.mp built]
    exact table.holds_pairs

/-- Two mnemonics for one byte, and a third for another. -/
theorem builds_from_declarable_pairs_of_alias :
    let pairs : List (String × Int) := [("OP_A", 0x10), ("OP_B", 0x10), ("OP_C", 0x11)]
    ∃ table, ofDeclarations pairs = .ok table ∧ table.Holds pairs ∧
      IsFirstFor pairs 0x10 "OP_A" ∧ table.nameOfValue? 0x10 = some "OP_A" := by
  intro pairs
  rcases builds_from_declarable_pairs pairs with ⟨builds, _, holds⟩
  have declarable : IsDeclarable pairs := ⟨by decide, by decide⟩
  rcases builds.mpr declarable with ⟨table, built⟩
  have first : IsFirstFor pairs 0x10 "OP_A" := ⟨[], _, rfl, by simp⟩
  exact ⟨table, built, holds table built, first, ((holds table built).named _ _).mpr first⟩

/-- A number that is no byte is reported before a mnemonic that is declared again. -/
example : ofDeclarations [("OP_A", 0x10), ("OP_A", 0x100)] = .error (.outOfRange "OP_A" 0x100) :=
  rfl

end OpcodeTable

end ScriptWorkbench
