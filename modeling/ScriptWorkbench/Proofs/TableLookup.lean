import ScriptWorkbench.Opcode.Table

/-!
# Looking up opcodes

Since no mnemonic is declared twice, its byte is the one of its only
declaration. So the mnemonic with which a byte is read has that byte.
-/

namespace ScriptWorkbench.OpcodeTable

variable {table : OpcodeTable} {name : String} {byte : UInt8}

theorem byteOf?_eq_some_iff :
    table.byteOf? name = some byte ↔ (name, byte) ∈ table.declarations := by
  rcases table with ⟨declarations, distinct⟩
  simp only [byteOf?]
  induction declarations with
  | nil => simp
  | cons declaration declarations induction =>
      rcases declaration with ⟨first, value⟩
      rcases List.nodup_cons.mp distinct with ⟨fresh, othersDistinct⟩
      rw [List.lookup_cons, List.mem_cons]
      by_cases same : name = first
      · subst same
        have elsewhere : (name, byte) ∉ declarations := fun member =>
          fresh (List.mem_map.mpr ⟨_, member, rfl⟩)
        simp [elsewhere, eq_comm]
      · have different : (name == first) = false := by simpa using same
        simp [different, same, induction othersDistinct]

theorem byteOf?_eq_none_iff : table.byteOf? name = none ↔ name ∉ table.names := by
  rw [byteOf?, List.lookup_eq_none_iff, names, List.mem_map]
  constructor
  · intro undeclared declared
    rcases declared with ⟨declaration, member, rfl⟩
    simpa using undeclared declaration member
  · intro undeclared declaration member
    rw [bne_iff_ne]
    exact fun same => undeclared ⟨declaration, member, same.symm⟩

/-- A mnemonic that is not declared is an error, with suggestions. -/
theorem byteOf_of_notMem_names (undeclared : name ∉ table.names) :
    table.byteOf name = .error { fault := .unknownOpcode name (table.similar name) } := by
  simp only [byteOf, byteOf?_eq_none_iff.mpr undeclared, unknownOpcode]

theorem mem_declarations_of_nameOf? (found : table.nameOf? byte = some name) :
    (name, byte) ∈ table.declarations := by
  rcases Option.map_eq_some_iff.mp found with ⟨declaration, located, rfl⟩
  have sameByte : declaration.2 = byte := by simpa using List.find?_some located
  exact sameByte ▸ List.mem_of_find?_eq_some located

theorem byteOf?_of_nameOf? (found : table.nameOf? byte = some name) :
    table.byteOf? name = some byte :=
  byteOf?_eq_some_iff.mpr (mem_declarations_of_nameOf? found)

theorem mem_names_of_nameOf? (found : table.nameOf? byte = some name) :
    name ∈ table.names :=
  List.mem_map.mpr ⟨_, mem_declarations_of_nameOf? found, rfl⟩

/-- A byte that has a mnemonic is read with one, though perhaps with another. -/
theorem isSome_nameOf?_of_byteOf? (found : table.byteOf? name = some byte) :
    (table.nameOf? byte).isSome = true := by
  rw [nameOf?, Option.isSome_map, List.find?_isSome]
  exact ⟨(name, byte), byteOf?_eq_some_iff.mp found, beq_self_eq_true byte⟩

end ScriptWorkbench.OpcodeTable
