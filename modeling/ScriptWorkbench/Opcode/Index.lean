import ScriptWorkbench.Opcode.Table

/-!
# Indexes of opcode tables

An index is what a table is looked up in: the bytes of the mnemonics, and for each byte
the mnemonic that it is read with. Both are filled in one pass over the declarations.
-/

namespace ScriptWorkbench

structure OpcodeIndex where
  /-- The byte of each mnemonic, in the order of declaration. -/
  byName : List (String × UInt8)
  /-- The mnemonic of each byte. -/
  byByte : Vector (Option String) 256

namespace OpcodeIndex

def empty : OpcodeIndex := { byName := [], byByte := .replicate 256 none }

def nameOf? (index : OpcodeIndex) (byte : UInt8) : Option String := index.byByte.get byte.toFin

/-- Enters one declaration. The first mnemonic that is declared for a byte is kept. -/
def enter (index : OpcodeIndex) (name : String) (value : Int) :
    Except DeclarationError OpcodeIndex :=
  match Bytes.ofInt? value with
  | none => .error (.outOfRange name value)
  | some byte =>
    if name ∈ index.byName.map Prod.fst then .error (.declaredTwice name)
    else
      let byByte := match index.nameOf? byte with
        | none => index.byByte.set byte.toNat (some name) byte.toNat_lt
        | some _ => index.byByte
      .ok { byName := index.byName ++ [(name, byte)], byByte }

def ofDeclarations (pairs : List (String × Int)) : Except DeclarationError OpcodeIndex :=
  pairs.foldlM (fun index pair => index.enter pair.1 pair.2) empty

end OpcodeIndex

end ScriptWorkbench
