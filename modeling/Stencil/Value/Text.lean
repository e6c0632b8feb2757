import Stencil.Value.Basic

/-!
# The JSON text of a value

Two layouts share one way to write strings and numbers: the compact layout has
no blanks at all, the wide layout puts every item on a line of its own.
-/

namespace Stencil.Value

private def controlDigits (code : Nat) : List Char :=
  [Nat.digitChar (code / 16), Nat.digitChar (code % 16)]

/-- The characters that stand for one character inside quotes. -/
def escaped (char : Char) : List Char :=
  match char with
  | '"' => ['\\', '"']
  | '\\' => ['\\', '\\']
  | '\x08' => ['\\', 'b']
  | '\x0c' => ['\\', 'f']
  | '\n' => ['\\', 'n']
  | '\r' => ['\\', 'r']
  | '\t' => ['\\', 't']
  | char =>
      if char.toNat < 0x20 then '\\' :: 'u' :: '0' :: '0' :: controlDigits char.toNat else [char]

def quoted (text : String) : String :=
  String.ofList ('"' :: (text.toList.flatMap escaped ++ ['"']))

mutual

def compact : Value → String
  | null => "null"
  | bool flag => if flag then "true" else "false"
  | number value => value.text
  | string text => quoted text
  | array items => "[" ++ String.intercalate "," (compactItems items) ++ "]"
  | object fields => "\x7b" ++ String.intercalate "," (compactFields fields) ++ "\x7d"

def compactItems : List Value → List String
  | [] => []
  | item :: rest => compact item :: compactItems rest

def compactFields : List (String × Value) → List String
  | [] => []
  | (key, value) :: rest => (quoted key ++ ":" ++ compact value) :: compactFields rest

end

private def lineBreak (level : Nat) : String :=
  String.ofList ('\n' :: List.replicate (2 * level) ' ')

/-- Items on lines of their own between two brackets; nothing inside when there
is no item. -/
private def bracketed (level : Nat) (opening closing : String) (lines : List String) : String :=
  match lines with
  | [] => opening ++ closing
  | lines =>
      opening ++ lineBreak (level + 1) ++
        String.intercalate ("," ++ lineBreak (level + 1)) lines ++ lineBreak level ++ closing

mutual

def wideAt (level : Nat) : Value → String
  | null => "null"
  | bool flag => if flag then "true" else "false"
  | number value => value.text
  | string text => quoted text
  | array items => bracketed level "[" "]" (wideItems (level + 1) items)
  | object fields => bracketed level "\x7b" "\x7d" (wideFields (level + 1) fields)

def wideItems (level : Nat) : List Value → List String
  | [] => []
  | item :: rest => wideAt level item :: wideItems level rest

def wideFields (level : Nat) : List (String × Value) → List String
  | [] => []
  | (key, value) :: rest => (quoted key ++ ": " ++ wideAt level value) :: wideFields level rest

end

/-- The wide layout: two blanks for each level of nesting. -/
def wide (value : Value) : String :=
  wideAt 0 value

end Stencil.Value
