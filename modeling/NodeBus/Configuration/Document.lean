import NodeBus.IpAddress

/-!
# Settings files

A settings file is the flat part of TOML: one key, an equals sign and one value on a line, with blanks,
comments and empty lines between. Values are texts, in any of the four kinds of quotes, and integers, in any
of the four bases. No setting takes a value of another type, a dotted key or a table, so a file that holds
one is refused like one that is malformed.
-/
namespace NodeBus.Document

inductive Value where
  | text (text : String)
  | integer (value : Int)
  deriving DecidableEq, Repr

def isBlank (character : Char) : Bool := character == ' ' || character == '\t'

def skipBlanks (input : List Char) : List Char := input.dropWhile isBlank

def isForeign (character : Char) : Bool := 0x80 ≤ character.toNat

/-- May this character stand in a comment, or in a text as it is? No control character but the tab may. -/
def isPlain (character : Char) : Bool :=
  character == '\t' || (0x20 ≤ character.toNat && character.toNat ≤ 0x7E) || isForeign character

def newline? : List Char → Option (List Char)
  | '\n' :: rest => some rest
  | '\r' :: '\n' :: rest => some rest
  | _ => none

/-- Skips what may follow a value: blanks, a comment, and the line ending or the end of the file. -/
def endOfLine? (input : List Char) : Option (List Char) :=
  let afterComment :=
    match skipBlanks input with
    | '#' :: comment => comment.dropWhile isPlain
    | rest => rest
  match afterComment with
  | [] => some []
  | rest => newline? rest

/-- The character some hex digits stand for, if they are the number of one. -/
def numbered? (digits : List Char) : Option Char :=
  let code := Text.digitsValue 16 digits
  if digits.all Text.isHexDigit && code.isValidChar then some (Char.ofNat code) else none

def addChar (character : Option Char) (read : Option (List Char × List Char)) :
    Option (List Char × List Char) :=
  match character, read with
  | some character, some (text, rest) => some (character :: text, rest)
  | _, _ => none

/-- The character that a backslash and this letter stand for. -/
def marked? : Char → Option Char
  | 'b' => some '\x08'
  | 't' => some '\t'
  | 'n' => some '\n'
  | 'f' => some '\x0c'
  | 'r' => some '\r'
  | '"' => some '"'
  | '\\' => some '\\'
  | _ => none

/-- Reads a text up to its closing double quote. -/
def basicText : List Char → Option (List Char × List Char)
  | [] => none
  | '"' :: rest => some ([], rest)
  | '\\' :: 'u' :: a :: b :: c :: d :: rest => addChar (numbered? [a, b, c, d]) (basicText rest)
  | '\\' :: 'U' :: a :: b :: c :: d :: e :: f :: g :: h :: rest =>
    addChar (numbered? [a, b, c, d, e, f, g, h]) (basicText rest)
  | '\\' :: letter :: rest => addChar (marked? letter) (basicText rest)
  | character :: rest =>
    if isPlain character && character != '\\' then addChar (some character) (basicText rest) else none

/-- Reads a text up to its three closing double quotes, in front of which two more may stand. A
backslash at the end of a line takes away everything up to the next visible character; `skipping` says
that this is going on. -/
def longBasicText (skipping : Bool) : List Char → Option (List Char × List Char)
  | [] => none
  | '"' :: '"' :: '"' :: '"' :: '"' :: rest => some (['"', '"'], rest)
  | '"' :: '"' :: '"' :: '"' :: rest => some (['"'], rest)
  | '"' :: '"' :: '"' :: rest => some ([], rest)
  | '\\' :: 'u' :: a :: b :: c :: d :: rest =>
    addChar (numbered? [a, b, c, d]) (longBasicText false rest)
  | '\\' :: 'U' :: a :: b :: c :: d :: e :: f :: g :: h :: rest =>
    addChar (numbered? [a, b, c, d, e, f, g, h]) (longBasicText false rest)
  | '\\' :: letter :: rest =>
    if (newline? (skipBlanks (letter :: rest))).isSome then longBasicText true (letter :: rest)
    else addChar (marked? letter) (longBasicText false rest)
  | '\r' :: '\n' :: rest =>
    if skipping then longBasicText true rest else addChar (some '\n') (longBasicText false rest)
  | character :: rest =>
    if skipping && (isBlank character || character == '\n') then longBasicText true rest
    else if (isPlain character && character != '\\') || character == '\n' then
      addChar (some character) (longBasicText false rest)
    else none

def literalText : List Char → Option (List Char × List Char)
  | [] => none
  | '\'' :: rest => some ([], rest)
  | character :: rest =>
    if isPlain character then addChar (some character) (literalText rest) else none

/-- Reads a text up to its three closing single quotes, in front of which two more may stand. -/
def longLiteralText : List Char → Option (List Char × List Char)
  | [] => none
  | '\'' :: '\'' :: '\'' :: '\'' :: '\'' :: rest => some (['\'', '\''], rest)
  | '\'' :: '\'' :: '\'' :: '\'' :: rest => some (['\''], rest)
  | '\'' :: '\'' :: '\'' :: rest => some ([], rest)
  | '\r' :: '\n' :: rest => addChar (some '\n') (longLiteralText rest)
  | character :: rest =>
    if isPlain character || character == '\n' then addChar (some character) (longLiteralText rest)
    else none

/-- Skips the line ending right behind the opening quotes of a long text. -/
def skipNewline (input : List Char) : List Char := (newline? input).getD input

def quotedText? : List Char → Option (List Char × List Char)
  | '"' :: '"' :: '"' :: rest => longBasicText false (skipNewline rest)
  | '"' :: rest => basicText rest
  | '\'' :: '\'' :: '\'' :: rest => longLiteralText (skipNewline rest)
  | '\'' :: rest => literalText rest
  | _ => none

/-- Takes single underscores out from between digits. There is at least one digit, and an underscore
stands between two. -/
def bareDigits? (isDigit : Char → Bool) : List Char → Option (List Char)
  | [] => none
  | [digit] => if isDigit digit then some [digit] else none
  | digit :: '_' :: rest =>
    if isDigit digit then (bareDigits? isDigit rest).map (digit :: ·) else none
  | digit :: rest => if isDigit digit then (bareDigits? isDigit rest).map (digit :: ·) else none

/-- The number some decimal digits stand for. Only zero itself starts with a zero. -/
def magnitude? (digits : List Char) : Option Nat :=
  if digits.head? = some '0' ∧ 1 < digits.length then none
  else (bareDigits? Char.isDigit digits).map (Text.digitsValue 10)

/-- The integer a word stands for, if it is one of 64 bits. -/
def integer? (token : List Char) : Option Int :=
  let value : Option Int :=
    match token with
    | '0' :: 'x' :: digits => (bareDigits? Text.isHexDigit digits).map (Int.ofNat <| Text.digitsValue 16 ·)
    | '0' :: 'o' :: digits => (bareDigits? Text.isOctalDigit digits).map (Int.ofNat <| Text.digitsValue 8 ·)
    | '0' :: 'b' :: digits => (bareDigits? Text.isBinaryDigit digits).map (Int.ofNat <| Text.digitsValue 2 ·)
    | '+' :: digits => (magnitude? digits).map Int.ofNat
    | '-' :: digits => (magnitude? digits).map (- Int.ofNat ·)
    | digits => (magnitude? digits).map Int.ofNat
  value.filter fun value =>
    decide (Int64.minValue.toInt ≤ value) && decide (value ≤ Int64.maxValue.toInt)

def inNumber (character : Char) : Bool :=
  character.isAlphanum || character == '_' || character == '+' || character == '-'

def value? (input : List Char) : Option (Value × List Char) :=
  match quotedText? input with
  | some (text, rest) => some (.text (String.ofList text), rest)
  | none =>
    (integer? (input.takeWhile inNumber)).map fun value => (.integer value, input.dropWhile inNumber)

def inBareKey (character : Char) : Bool :=
  character.isAlphanum || character == '_' || character == '-'

def key? (input : List Char) : Option (String × List Char) :=
  match input with
  | '"' :: rest => (basicText rest).map fun (key, rest) => (String.ofList key, rest)
  | '\'' :: rest => (literalText rest).map fun (key, rest) => (String.ofList key, rest)
  | _ =>
    let key := input.takeWhile inBareKey
    if key = [] then none else some (String.ofList key, input.dropWhile inBareKey)

/-- Reads a key, an equals sign and a value, and all that belongs to their line. -/
def entry? (input : List Char) : Option ((String × Value) × List Char) :=
  match key? (skipBlanks input) with
  | none => none
  | some (key, rest) =>
    match skipBlanks rest with
    | '=' :: rest =>
      match value? (skipBlanks rest) with
      | none => none
      | some (value, rest) => (endOfLine? rest).map fun rest => ((key, value), rest)
    | _ => none

def entries? : Nat → List Char → Option (List (String × Value))
  | _, [] => some []
  | 0, _ => none
  | lines + 1, input =>
    match endOfLine? input with
    | some rest => entries? lines rest
    | none =>
      match entry? input with
      | none => none
      | some (entry, rest) => (entries? lines rest).map (entry :: ·)

/-- Reads a whole file, which may start with a byte order mark. No file has more lines than
characters. -/
def parse? (text : String) : Option (List (String × Value)) :=
  let input :=
    match text.toList with
    | '\uFEFF' :: rest => rest
    | input => input
  entries? input.length input

end NodeBus.Document
