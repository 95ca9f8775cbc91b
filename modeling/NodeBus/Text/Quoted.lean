import NodeBus.Text.Hidden

/-!
# Quoted text

Messages quote what they complain about. Inside the quotes a backslash marks the quote itself, the
backslash, and the commonest control characters; every other character that is not shown as it is stands
as its number.
-/
namespace NodeBus.Text

/-- A character by its number, in lower case hex between braces. -/
def numbered (character : Char) : List Char :=
  ['\\', 'u', '\x7b'] ++ Nat.toDigits 16 character.toNat ++ ['\x7d']

def quotedChar (character : Char) : List Char :=
  match character with
  | '\x00' => ['\\', '0']
  | '\t' => ['\\', 't']
  | '\r' => ['\\', 'r']
  | '\n' => ['\\', 'n']
  | '"' => ['\\', '"']
  | '\\' => ['\\', '\\']
  | _ => if isHidden character then numbered character else [character]

def quoted (text : String) : String :=
  String.ofList ('"' :: text.toList.flatMap quotedChar ++ ['"'])

end NodeBus.Text
