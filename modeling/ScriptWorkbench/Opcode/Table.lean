import ScriptWorkbench.CodecError
import ScriptWorkbench.Text.Case
import ScriptWorkbench.Text.EditDistance

/-!
# Opcode tables

A table declares mnemonics and their bytes, in order. Several mnemonics may
share a byte; the first one declared is the one that bytecode is read with.
-/

namespace ScriptWorkbench

structure OpcodeTable where
  declarations : List (String × UInt8)
  distinct : (declarations.map Prod.fst).Nodup

inductive DeclarationError where
  | outOfRange (name : String) (value : Int)
  | declaredTwice (name : String)
  deriving DecidableEq

def DeclarationError.message : DeclarationError → String
  | .outOfRange name value => s!"Opcode {name} has out-of-range value {value}"
  | .declaredTwice name => s!"Opcode {name} declared twice"

namespace OpcodeTable

def empty : OpcodeTable := ⟨[], .nil⟩

/-- The mnemonics in the order of their declarations. -/
def names (table : OpcodeTable) : List String := table.declarations.map Prod.fst

def declare (table : OpcodeTable) (name : String) (value : Int) :
    Except DeclarationError OpcodeTable :=
  match Bytes.ofInt? value with
  | none => .error (.outOfRange name value)
  | some byte =>
    if fresh : name ∉ table.names then
      .ok {
        declarations := table.declarations ++ [(name, byte)]
        distinct := by
          rw [List.map_append]
          refine List.nodup_append.mpr ⟨table.distinct, by simp, ?_⟩
          intro earlier earlierMember later laterMember equal
          simp only [List.map_cons, List.map_nil, List.mem_singleton] at laterMember
          exact fresh (laterMember ▸ equal ▸ earlierMember) }
    else .error (.declaredTwice name)

def ofDeclarations (pairs : List (String × Int)) : Except DeclarationError OpcodeTable :=
  pairs.foldlM (fun table pair => table.declare pair.1 pair.2) empty

def byteOf? (table : OpcodeTable) (name : String) : Option UInt8 :=
  table.declarations.lookup name

/-- The mnemonic with which a byte is read. -/
def nameOf? (table : OpcodeTable) (byte : UInt8) : Option String :=
  (table.declarations.find? fun declaration => declaration.2 == byte).map Prod.fst

/-- The mnemonic with which a number is read. Only bytes have one. -/
def nameOfValue? (table : OpcodeTable) (value : Int) : Option String :=
  (Bytes.ofInt? value).bind table.nameOf?

/-- A mnemonic resembles a word if it is the word in upper case, or about as
long as the word and at most two edits away from its upper-case form. -/
def resembles (word mnemonic : String) : Bool :=
  let upper := Text.upper word
  mnemonic = upper ||
    (mnemonic.length ≤ word.length + 1 && word.length ≤ mnemonic.length + 1 &&
      Text.editDistance upper.toList mnemonic.toList ≤ 2)

/-- The first three mnemonics that resemble a word. -/
def similar (table : OpcodeTable) (word : String) : List String :=
  (table.names.filter (resembles word)).take 3

def unknownOpcode (table : OpcodeTable) (name : String) : CodecFault :=
  .unknownOpcode name (table.similar name)

/-- The byte of a mnemonic, or an error that suggests others. -/
def byteOf (table : OpcodeTable) (name : String) : Except CodecError UInt8 :=
  match table.byteOf? name with
  | some byte => .ok byte
  | none => .error { fault := table.unknownOpcode name }

end OpcodeTable

end ScriptWorkbench
