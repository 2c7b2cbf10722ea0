import ScriptWorkbench.Number.Shortest
import ScriptWorkbench.Text.Quoted

/-!
# JSON values

Integers and numbers with a fraction or exponent are different values: a
program counter has to be an integer. The members of an object keep their
order.
-/

namespace ScriptWorkbench

inductive Json where
  | null
  | bool (value : Bool)
  | integer (value : Int)
  | real (value : Number.Binary64)
  | string (value : String)
  | array (items : List Json)
  | object (members : List (String × Json))

namespace Json

/-- Adds a member to those of an object. A name that is already present keeps
its place and takes the new value. -/
def putMember (name : String) (value : Json) : List (String × Json) → List (String × Json)
  | [] => [(name, value)]
  | member :: rest =>
    if member.1 = name then (name, value) :: rest else member :: putMember name value rest

def member? (members : List (String × Json)) (name : String) : Option Json :=
  members.lookup name

def string? : Json → Option String
  | .string value => some value
  | _ => none

mutual

def display : Json → String
  | .null => "None"
  | .bool value => if value then "True" else "False"
  | .integer value => toString value
  | .real value => value.text
  | .string value => Text.quoted value
  | .array items => "[" ++ ", ".intercalate (displayItems items) ++ "]"
  | .object members => "\x7b" ++ ", ".intercalate (displayMembers members) ++ "\x7d"

def displayItems : List Json → List String
  | [] => []
  | item :: rest => item.display :: displayItems rest

def displayMembers : List (String × Json) → List String
  | [] => []
  | (name, value) :: rest => (Text.quoted name ++ ": " ++ value.display) :: displayMembers rest

end

example : (Json.array [.integer 1, .string "a", .null]).display = "[1, 'a', None]" := by
  decide +kernel

end Json

end ScriptWorkbench
