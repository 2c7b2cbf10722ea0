/-!
# Reading UTF-8

A decoder that goes byte by byte. Between characters it expects a first byte;
inside one it knows how many continuation bytes are owed and which values the
next one may have, so that overlong forms, surrogates and values past U+10FFFF
are refused at the first byte that rules them out.
-/

namespace ScriptWorkbench.Text

/-- Why bytes are not UTF-8. `first` is the index of the byte that begins the
faulty character; a run of bytes ends before index `next`. -/
inductive Utf8Fault where
  | invalidStart (byte : UInt8) (first : Nat)
  | invalidContinuation (byte : UInt8) (first next : Nat)
  | truncated (byte : UInt8) (first next : Nat)
  deriving DecidableEq

namespace Utf8Fault

/-- A fault in one byte shows the byte; a longer one shows where it lies. -/
private def place (byte : UInt8) (first next : Nat) : String :=
  if next = first + 1 then
    s!"can't decode byte 0x{String.ofList (Nat.toDigits 16 byte.toNat)} in position {first}"
  else s!"can't decode bytes in position {first}-{next - 1}"

def message (fault : Utf8Fault) : String :=
  let (located, reason) := match fault with
    | .invalidStart byte first => (place byte first (first + 1), "invalid start byte")
    | .invalidContinuation byte first next => (place byte first next, "invalid continuation byte")
    | .truncated byte first next => (place byte first next, "unexpected end of data")
  "'utf-8' codec " ++ located ++ ": " ++ reason

end Utf8Fault

/-- A character begun at index `first` with byte `lead`: `owed` continuation
bytes are still to come, the next one between `low` and `high`, and `value`
holds the bits read so far. -/
structure Utf8Pending where
  lead : UInt8
  first : Nat
  owed : Nat
  low : Nat
  high : Nat
  value : Nat

/-- What a first byte other than an ASCII one begins. -/
def Utf8Pending.ofLead? (lead : UInt8) (first : Nat) : Option Utf8Pending :=
  let code := lead.toNat
  if code < 0xC2 then none
  else if code < 0xE0 then some ⟨lead, first, 1, 0x80, 0xBF, code % 0x20⟩
  else if code < 0xF0 then
    let low := if code = 0xE0 then 0xA0 else 0x80
    let high := if code = 0xED then 0x9F else 0xBF
    some ⟨lead, first, 2, low, high, code % 0x10⟩
  else if code < 0xF5 then
    let low := if code = 0xF0 then 0x90 else 0x80
    let high := if code = 0xF4 then 0x8F else 0xBF
    some ⟨lead, first, 3, low, high, code % 0x08⟩
  else none

/-- Decodes bytes of which the first has index `index`. -/
def decodeUtf8From (index : Nat) (pending : Option Utf8Pending) :
    List UInt8 → Except Utf8Fault (List Char)
  | [] =>
    match pending with
    | none => .ok []
    | some begun => .error (.truncated begun.lead begun.first index)
  | byte :: rest =>
    match pending with
    | none =>
      if byte.toNat < 0x80 then
        (decodeUtf8From (index + 1) none rest).map (Char.ofNat byte.toNat :: ·)
      else
        match Utf8Pending.ofLead? byte index with
        | none => .error (.invalidStart byte index)
        | some begun => decodeUtf8From (index + 1) (some begun) rest
    | some begun =>
      if byte.toNat < begun.low || begun.high < byte.toNat then
        .error (.invalidContinuation begun.lead begun.first index)
      else
        let value := begun.value * 0x40 + byte.toNat % 0x40
        if begun.owed = 1 then
          (decodeUtf8From (index + 1) none rest).map (Char.ofNat value :: ·)
        else
          decodeUtf8From (index + 1)
            (some { begun with owed := begun.owed - 1, low := 0x80, high := 0xBF, value }) rest

def decodeUtf8 (bytes : List UInt8) : Except Utf8Fault (List Char) :=
  decodeUtf8From 0 none bytes

example : decodeUtf8 [0x31, 0xC3, 0xA9] = .ok ['1', 'é'] := rfl

example : decodeUtf8 [0x31, 0xFF, 0x32] = .error (.invalidStart 0xFF 1) := rfl

example : (Utf8Fault.truncated 0xE2 3 5).message =
    "'utf-8' codec can't decode bytes in position 3-4: unexpected end of data" := by decide

end ScriptWorkbench.Text
