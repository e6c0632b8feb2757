import Stencil.Text.Letter
import Stencil.Value.Basic

/-!
# Pointers into a document

A JSON pointer is empty, or a sequence of tokens that each follow a slash.  In a
token `~1` stands for a slash and `~0` for a tilde.
-/

namespace Stencil.Value

open Stencil.Text

def unescapeSlash : List Char → List Char
  | '~' :: '1' :: rest => '/' :: unescapeSlash rest
  | char :: rest => char :: unescapeSlash rest
  | [] => []

def unescapeTilde : List Char → List Char
  | '~' :: '0' :: rest => '~' :: unescapeTilde rest
  | char :: rest => char :: unescapeTilde rest
  | [] => []

def tokenKey (token : List Char) : String :=
  String.ofList (unescapeTilde (unescapeSlash token))

def keyToken (key : String) : List Char :=
  key.toList.flatMap fun char =>
    if char = '~' then ['~', '0'] else if char = '/' then ['~', '1'] else [char]

/-- An index has digits only, and no zero before other digits. -/
def index? (token : String) : Option Nat :=
  match token.toList with
  | [] => none
  | '0' :: _ :: _ => none
  | digits => if digits.all Char.isDigit then token.toNat? else none

/-- One step into an object by key or into an array by index. -/
def step? (value : Value) (key : String) : Option Value :=
  match value with
  | object fields => field? fields key
  | array items => (index? key).bind fun index => items[index]?
  | _ => none

def descend? (value : Value) : List String → Option Value
  | [] => some value
  | key :: rest => (value.step? key).bind fun next => next.descend? rest

def pointer? (value : Value) (pointer : String) : Option Value :=
  match pointer.toList with
  | [] => some value
  | '/' :: rest => value.descend? ((pieces '/' rest).map tokenKey)
  | _ => none

private theorem unescapeSlash_cons {char : Char} (hchar : char ≠ '~') (rest : List Char) :
    unescapeSlash (char :: rest) = char :: unescapeSlash rest := by
  rw [unescapeSlash]
  rintro _ rfl
  exact absurd rfl hchar

private theorem unescapeTilde_cons {char : Char} (hchar : char ≠ '~') (rest : List Char) :
    unescapeTilde (char :: rest) = char :: unescapeTilde rest := by
  rw [unescapeTilde]
  rintro _ rfl
  exact absurd rfl hchar

/-- The token of a key with its slashes written out again. -/
private def tildeToken (key : List Char) : List Char :=
  key.flatMap fun char => if char = '~' then ['~', '0'] else [char]

/-- Escaping is undone: no mark of the escaped key is taken for another one. -/
private theorem unescapeTilde_tildeToken (key : List Char) :
    unescapeTilde (tildeToken key) = key := by
  induction key with
  | nil => rfl
  | cons char rest ih =>
      rw [tildeToken, List.flatMap_cons, ← tildeToken]
      by_cases htilde : char = '~'
      · simp [htilde, unescapeTilde, ih]
      · simp [htilde, unescapeTilde_cons htilde, ih]

/-- A token stands for its key, whatever characters the key holds. -/
theorem tokenKey_keyToken (key : String) : tokenKey (keyToken key) = key := by
  have hslash : unescapeSlash (keyToken key) = tildeToken key.toList := by
    rw [keyToken]
    induction key.toList with
    | nil => rfl
    | cons char rest ih =>
        rw [List.flatMap_cons, tildeToken, List.flatMap_cons, ← tildeToken]
        by_cases htilde : char = '~'
        · simp [htilde, unescapeSlash, ih]
        · by_cases hslash : char = '/'
          · simp [hslash, unescapeSlash, ih]
          · simp [htilde, hslash, unescapeSlash_cons htilde, ih]
  rw [tokenKey, hslash, unescapeTilde_tildeToken, String.ofList_toList]

/-- A token holds no slash. -/
theorem slash_not_mem_keyToken (key : String) : '/' ∉ keyToken key := by
  rw [keyToken, List.mem_flatMap]
  rintro ⟨char, -, hchar⟩
  by_cases htilde : char = '~'
  · simp [htilde] at hchar
  · by_cases hslash : char = '/'
    · simp [hslash] at hchar
    · simp [htilde, hslash, eq_comm] at hchar

end Stencil.Value
