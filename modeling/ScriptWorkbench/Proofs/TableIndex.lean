import ScriptWorkbench.Opcode.Index

/-!
# Tables and their indexes

A table and its index are built from the same pairs by the same steps: both are
refused for the same pair, or both answer every look-up alike. So the one list of
declarations that a table holds stands for both maps of the index.
-/

namespace ScriptWorkbench.OpcodeIndex

/-- Whether an index answers as a table does. -/
structure Represents (index : OpcodeIndex) (table : OpcodeTable) : Prop where
  byName : index.byName = table.declarations
  nameOf? : ∀ byte, index.nameOf? byte = table.nameOf? byte

/-- Whether an index and a table come out alike. -/
inductive Agree :
    Except DeclarationError OpcodeIndex → Except DeclarationError OpcodeTable → Prop
  | refused (error : DeclarationError) : Agree (.error error) (.error error)
  | built {index : OpcodeIndex} {table : OpcodeTable} (represents : index.Represents table) :
      Agree (.ok index) (.ok table)

theorem represents_empty : empty.Represents .empty where
  byName := rfl
  nameOf? byte := by
    change (Vector.replicate 256 (none : Option String)).get byte.toFin = none
    simp [Vector.get]

variable {index : OpcodeIndex} {table : OpcodeTable}

/-- Behind the declarations of a table, one more gives a mnemonic to a byte that has
none. -/
theorem nameOf?_append {declarations : List (String × UInt8)} {name : String} {byte other : UInt8} :
    ((declarations ++ [(name, byte)]).find? fun declaration => declaration.2 == other).map
        Prod.fst =
      ((declarations.find? fun declaration => declaration.2 == other).map Prod.fst).or
        (if byte = other then some name else none) := by
  rw [List.find?_append]
  cases declarations.find? fun declaration => declaration.2 == other with
  | some declaration => rfl
  | none =>
      by_cases same : byte = other
      · simp [same]
      · simp [same]

theorem nameOf?_set {byte : UInt8} (free : index.nameOf? byte = none) (name : String)
    (other : UInt8) :
    (index.byByte.set byte.toNat (some name) byte.toNat_lt).get other.toFin =
      (index.nameOf? other).or (if byte = other then some name else none) := by
  have entry : (index.byByte.set byte.toNat (some name) byte.toNat_lt).get other.toFin =
      if byte.toNat = other.toNat then some name else index.nameOf? other := Vector.getElem_set ..
  rw [entry]
  by_cases same : byte = other
  · subst same
    rw [if_pos rfl, if_pos rfl, free, Option.none_or]
  · have apart : byte.toNat ≠ other.toNat := fun equal => same (UInt8.toNat_inj.mp equal)
    rw [if_neg apart, if_neg same, Option.or_none]

/-- One declaration keeps the two alike. -/
theorem Represents.enter (represents : index.Represents table) (name : String) (value : Int) :
    Agree (index.enter name value) (table.declare name value) := by
  unfold OpcodeIndex.enter OpcodeTable.declare
  cases isByte : Bytes.ofInt? value with
  | none => exact .refused _
  | some byte =>
      by_cases again : name ∈ table.names
      · have entered : name ∈ index.byName.map Prod.fst := by
          rw [represents.byName]
          exact again
        simp only [entered, again, not_true, if_true, dite_false]
        exact .refused _
      · have fresh : name ∉ index.byName.map Prod.fst := by
          rw [represents.byName]
          exact again
        simp only [fresh, again, not_false_eq_true, if_false, dite_true]
        refine .built ⟨by rw [represents.byName], fun other => ?_⟩
        rw [OpcodeTable.nameOf?, nameOf?_append, ← OpcodeTable.nameOf?, ← represents.nameOf? other]
        cases found : index.nameOf? byte with
        | none => exact nameOf?_set found name other
        | some first =>
            by_cases same : byte = other
            · subst same
              rw [found]
              exact found
            · rw [if_neg same, Option.or_none]
              rfl

/-- Two constructions that go through the same pairs stay alike. -/
theorem Represents.foldlM (represents : index.Represents table) (pairs : List (String × Int)) :
    Agree (pairs.foldlM (fun index pair => index.enter pair.1 pair.2) index)
      (pairs.foldlM (fun table pair => table.declare pair.1 pair.2) table) := by
  induction pairs generalizing index table with
  | nil => exact .built represents
  | cons pair pairs induction =>
      have agree := represents.enter pair.1 pair.2
      rw [List.foldlM_cons, List.foldlM_cons]
      generalize index.enter pair.1 pair.2 = entered at agree
      generalize table.declare pair.1 pair.2 = declared at agree
      cases agree with
      | refused error => exact .refused error
      | built represents => exact induction represents

/-- A table that is built from pairs answers as the two maps that are built from
them. -/
theorem agree_ofDeclarations (pairs : List (String × Int)) :
    Agree (ofDeclarations pairs) (OpcodeTable.ofDeclarations pairs) :=
  represents_empty.foldlM pairs

theorem Represents.lookup_byName (represents : index.Represents table) (name : String) :
    index.byName.lookup name = table.byteOf? name := by
  rw [represents.byName, OpcodeTable.byteOf?]

end ScriptWorkbench.OpcodeIndex
