import BidiViewport.Toml.Number
import BidiViewport.Toml.Quoted
import BidiViewport.Toml.Table

/-!
# Reading a settings document

A reader consumes the beginning of the remaining text or fails; why a document cannot be
read does not matter.  Nested values are read by recursion on the depth that is still
allowed, sequences by recursion on the length of the remaining text.
-/

namespace BidiViewport.Toml

/-- Reads from the beginning of a text and leaves the rest. -/
abbrev Reader := StateT (List Char) Option

/-- Values may be nested this deep. -/
def maxDepth : Nat := 80

/-- A line of a document that is not empty. -/
inductive Statement
  | assignment (name : DottedKey) (value : Value)
  | header (name : DottedKey)
  /-- A header in double brackets. -/
  | arrayHeader (name : DottedKey)

namespace Reader

def peek : Reader (Option Char) := do
  return (← get).head?

/-- Consumes the next character. -/
def advance : Reader Unit :=
  modify List.tail

/-- Consumes a character that has to come next. -/
def expect (c : Char) : Reader Unit := do
  if (← peek) = some c then advance else failure

/-- Consumes characters as long as they satisfy `p`. -/
def takeWhile (p : Char → Bool) : Reader (List Char) := do
  let text ← get
  set (text.dropWhile p)
  return text.takeWhile p

/-- Consumes blank space within the line. -/
def blanks : Reader Unit :=
  modify (List.dropWhile isBlank)

/-- What follows blank space, line breaks and comments; `commented` says that a comment
has begun. -/
def afterTrivia? (commented : Bool) : List Char → Option (List Char)
  | [] => some []
  | '\r' :: '\n' :: rest => afterTrivia? false rest
  | c :: rest =>
    if c = '\n' then afterTrivia? false rest
    else if commented then if isTextChar c then afterTrivia? true rest else none
    else if c = '#' then afterTrivia? true rest
    else if isBlank c then afterTrivia? false rest
    else some (c :: rest)

/-- Consumes blank space, line breaks and comments. -/
def trivia : Reader Unit := do
  match afterTrivia? false (← get) with
  | some rest => set rest
  | none => failure

/-- Consumes what may follow a statement: blank space and the end of the line or a
comment. -/
def endOfLine : Reader Unit := do
  blanks
  match ← get with
  | [] => return
  | '\n' :: _ => return
  | '\r' :: '\n' :: _ => return
  | '#' :: _ => return
  | _ => failure

/-- Text that a function reads. -/
def quoted (read : List Char → Option (List Char × List Char)) : Reader (List Char) := do
  match read (← get) with
  | some (text, rest) => set rest; return text
  | none => failure

/-- The character may stand in a key without quotes. -/
def isKeyChar (c : Char) : Bool :=
  c.isAlphanum || c = '_' || c = '-'

/-- A key between dots. -/
def simpleKey : Reader Key := do
  match ← peek with
  | some '"' => advance; quoted Quoted.basic
  | some '\'' => advance; quoted Quoted.literal
  | _ =>
    let key ← takeWhile isKeyChar
    if key.isEmpty then failure else return key

/-- The keys after the key `key`, at most `fuel`, each behind a dot. -/
def keysAfter (key : Key) : (fuel : Nat) → Reader DottedKey
  | 0 => failure
  | fuel + 1 => do
    blanks
    if (← peek) = some '.' then
      advance
      blanks
      let name ← keysAfter (← simpleKey) fuel
      return { name with path := key :: name.path }
    else return { path := [], key }

/-- A dotted key and the blank space after it. -/
def dottedKey : Reader DottedKey := do
  keysAfter (← simpleKey) ((← get).length + 1)

/-- The items of a sequence up to the character `closing`, at most `fuel`, with commas
between them and perhaps after the last one. -/
def items {α : Type} (item : Reader α) (closing : Char) : (fuel : Nat) → Reader (List α)
  | 0 => failure
  | fuel + 1 => do
    trivia
    if (← peek) = some closing then
      advance
      return []
    let first ← item
    trivia
    match ← peek with
    | some ',' => advance; return first :: (← items item closing fuel)
    | _ => expect closing; return [first]

/-- The items of a sequence up to the character `closing`. -/
def itemsUntil {α : Type} (item : Reader α) (closing : Char) : Reader (List α) := do
  items item closing ((← get).length + 1)

/-- The character ends a value that is not quoted. -/
def endsPlain (c : Char) : Bool :=
  isBlank c || c = '\n' || c = '\r' || c = ',' || c = ']' || c = '}' || c = '#'

/-- The value of a run of characters without quotes. -/
def plainValue? (run : List Char) : Option Value :=
  if run = "true".toList then some (.boolean true)
  else if run = "false".toList then some (.boolean false)
  else
    (integer? run).map .integer
      <|> (float? run).map .float
      <|> if isDateTime run then some .dateTime else none

def plainRun : Reader (List Char) :=
  takeWhile fun c => !endsPlain c

/-- One blank and a time, if they follow. -/
def blankAndTime : Reader (List Char) := do
  match ← get with
  | ' ' :: c :: rest =>
    if c.isDigit then
      set (c :: rest)
      return ' ' :: (← plainRun)
    else return []
  | _ => return []

/-- A value without quotes.  Between a date and a time there may be a blank. -/
def plain : Reader Value := do
  let run ← plainRun
  let time ← if DateTime.afterDate? run = some [] then blankAndTime else pure []
  match plainValue? (run ++ time) with
  | some value => return value
  | none => failure

def assignment (value : Reader Value) : Reader (DottedKey × Value) := do
  let name ← dottedKey
  expect '='
  blanks
  return (name, ← value)

/-- A value, when `nested` reads the values inside it. -/
def valueWith (nested : Reader Value) : Reader Value := do
  match ← get with
  | '"' :: '"' :: '"' :: rest =>
    set (Quoted.dropFirstBreak rest)
    return .text (← quoted (Quoted.basicBlock false))
  | '"' :: rest => set rest; return .text (← quoted Quoted.basic)
  | '\'' :: '\'' :: '\'' :: rest =>
    set (Quoted.dropFirstBreak rest)
    return .text (← quoted Quoted.literalBlock)
  | '\'' :: rest => set rest; return .text (← quoted Quoted.literal)
  | '[' :: rest => set rest; return .array (← itemsUntil nested ']')
  | '{' :: rest =>
    set rest
    match Entries.assignAll? [] (← itemsUntil (assignment nested) '}') with
    | some entries => return .table .inline entries
    | none => failure
  | _ => plain

/-- A value with at most `depth` brackets or braces open at a time. -/
def value : (depth : Nat) → Reader Value
  | 0 => do
    match ← peek with
    | some '[' => failure
    | some '{' => failure
    | _ => valueWith failure
  | depth + 1 => valueWith (value depth)

def statement : Reader Statement := do
  match ← get with
  | '[' :: '[' :: rest =>
    set rest
    blanks
    let name ← dottedKey
    expect ']'
    expect ']'
    return .arrayHeader name
  | '[' :: rest =>
    set rest
    blanks
    let name ← dottedKey
    expect ']'
    return .header name
  | _ =>
    let (name, value) ← assignment (value maxDepth)
    return .assignment name value

/-- The statements of the remaining text, at most `fuel`. -/
def statements : (fuel : Nat) → Reader (List Statement)
  | 0 => failure
  | fuel + 1 => do
    trivia
    match ← get with
    | [] => return []
    | _ =>
      let first ← statement
      endOfLine
      return first :: (← statements fuel)

end Reader

/-- A byte order mark at the beginning is not part of the document. -/
def dropMark : List Char → List Char
  | '\uFEFF' :: rest => rest
  | text => text

def statements? (text : List Char) : Option (List Statement) :=
  ((Reader.statements (text.length + 1)).run' (dropMark text))

end BidiViewport.Toml
