/-!
# Samples

Script texts to start from: the usual forms of output scripts.
-/

namespace ScriptWorkbench

/-- A sample script, with its bytecode in hex where that is recorded. -/
structure Sample where
  name : String
  title : String
  source : String
  hex : Option String
  deriving DecidableEq

namespace Sample

private def repeated (count : Nat) (text : String) : String :=
  String.join (List.replicate count text)

/-- A compressed public key that consists of a leading byte and a repeated
one. -/
private def publicKey (lead byte : String) : String :=
  "<" ++ lead ++ repeated 32 byte ++ ">"

def all : List Sample :=
  [{ name := "p2pkh"
     title := "P2PKH (legacy)"
     source := "OP_DUP OP_HASH160 <00112233445566778899aabbccddeeff00112233> " ++
       "OP_EQUALVERIFY OP_CHECKSIG"
     hex := some "76a91400112233445566778899aabbccddeeff0011223388ac" },
   { name := "p2sh"
     title := "P2SH (redeem-hash)"
     source := "OP_HASH160 <16b000aabbccddeeff00112233445566778899aa> OP_EQUAL"
     hex := some "a91416b000aabbccddeeff00112233445566778899aa87" },
   { name := "p2wpkh"
     title := "P2WPKH (v0)"
     source := "0 <00112233445566778899aabbccddeeff00112233>"
     hex := some "001400112233445566778899aabbccddeeff00112233" },
   { name := "multisig"
     title := "2-of-3 Multisig (bare)"
     source := " ".intercalate
       ["2", publicKey "02" "a1", publicKey "03" "b2", publicKey "02" "c3",
         "3 OP_CHECKMULTISIG"]
     hex := none }]

def names : List String := all.map Sample.name

def find? (name : String) : Option Sample :=
  all.find? fun sample => sample.name == name

end Sample

end ScriptWorkbench
