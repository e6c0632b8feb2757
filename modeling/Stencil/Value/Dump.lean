import Stencil.Text.Cluster
import Stencil.Value.Basic

/-!
# Dumps

A dump shows the kind of every part of a value beside its content.  Messages
about expressions that cannot be evaluated use it.  Texts stand in quotes, with
escapes for quotes, controls, and marks that would join the quote in front.
-/

namespace Stencil.Dump

open Stencil.Text

def codeEscape (char : Char) : String :=
  "\\u\x7b" ++ String.ofList (Nat.toDigits 16 char.toNat) ++ "\x7d"

def quotedChar (char : Char) : String :=
  match char with
  | '"' => "\\\""
  | '\\' => "\\\\"
  | '\n' => "\\n"
  | '\r' => "\\r"
  | '\t' => "\\t"
  | '\x00' => "\\0"
  | char =>
      match breakClass char with
      | .control | .extender | .joiner => codeEscape char
      | _ => char.toString

def text (text : String) : String :=
  "\"" ++ String.join (text.toList.map quotedChar) ++ "\""

def flag (flag : Bool) : String :=
  if flag then "true" else "false"

def list (items : List String) : String :=
  "[" ++ String.intercalate ", " items ++ "]"

def mapping (entries : List (String × String)) : String :=
  "\x7b" ++ String.intercalate ", " (entries.map fun (key, item) => text key ++ ": " ++ item) ++
    "\x7d"

def one (kind content : String) : String :=
  kind ++ "(" ++ content ++ ")"

def many (kind : String) (fields : List (String × String)) : String :=
  kind ++ " \x7b " ++
    String.intercalate ", " (fields.map fun (name, content) => name ++ ": " ++ content) ++ " \x7d"

end Stencil.Dump

namespace Stencil.Value

def dumpNumber : Number → String
  | .whole value => toString value
  | .float bits => Decimal.dataText bits

mutual

def dump : Value → String
  | null => "Null"
  | bool flag => Dump.one "Bool" (Dump.flag flag)
  | number value => Dump.one "Number" (dumpNumber value)
  | string text => Dump.one "String" (Dump.text text)
  | array items => "Array " ++ Dump.list (dumpItems items)
  | object fields => "Object " ++ Dump.mapping (dumpFields fields)

def dumpItems : List Value → List String
  | [] => []
  | item :: rest => dump item :: dumpItems rest

def dumpFields : List (String × Value) → List (String × String)
  | [] => []
  | (key, value) :: rest => (key, dump value) :: dumpFields rest

end

end Stencil.Value
