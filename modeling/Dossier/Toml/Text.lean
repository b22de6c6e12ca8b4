/-!
# Texts and blanks of a TOML document

Quoted texts of the four kinds: between double quotes with escapes or between single quotes without,
on one line or, with tripled quotes, on several. Controls other than the tab are refused everywhere;
a carriage return belongs to a line break or is refused.
-/

set_option autoImplicit false

namespace Dossier.Toml

/-- A blank within a line. -/
def isLineBlank (c : Char) : Bool := c == ' ' || c == '\t'

/-- A character that comments and quoted texts may hold. -/
def isPlain (c : Char) : Bool := c == '\t' || (32 ≤ c.toNat && c.toNat != 127)

/-- What follows the blanks of the line. -/
def skipLineBlanks (cs : List Char) : List Char := cs.dropWhile isLineBlank

/-- What follows blanks, line breaks and comments; none when a comment holds a control. -/
def skipTrivia (inComment : Bool) : List Char → Option (List Char)
  | [] => some []
  | '\r' :: '\n' :: cs => skipTrivia false cs
  | '\n' :: cs => skipTrivia false cs
  | c :: cs =>
    if inComment then if isPlain c then skipTrivia true cs else none
    else if isLineBlank c then skipTrivia false cs
    else if c = '#' then skipTrivia true cs
    else some (c :: cs)

/-- What follows the rest of a line that holds nothing but blanks and a comment. -/
def endLine (inComment : Bool) : List Char → Option (List Char)
  | [] => some []
  | '\r' :: '\n' :: cs => some cs
  | '\n' :: cs => some cs
  | c :: cs =>
    if inComment then if isPlain c then endLine true cs else none
    else if isLineBlank c then endLine false cs
    else if c = '#' then endLine true cs
    else none

/-- The value of a hexadecimal digit. -/
def hexValue? (c : Char) : Option Nat :=
  let n := c.toNat
  if 48 ≤ n ∧ n ≤ 57 then some (n - 48)
  else if 65 ≤ n ∧ n ≤ 70 then some (n - 55)
  else if 97 ≤ n ∧ n ≤ 102 then some (n - 87)
  else none

/-- The character with a code point given in hexadecimal, unless there is no such character. -/
def codePoint? (ds : List Char) : Option Char :=
  (ds.foldlM (fun n d => (hexValue? d).map (16 * n + ·)) 0).bind fun n =>
    if h : n.isValidChar then some (Char.ofNatAux n h) else none

/-- The character that a letter after the backslash stands for. -/
def shortEscape? : Char → Option Char
  | 'b' => some '\x08'
  | 't' => some '\t'
  | 'n' => some '\n'
  | 'f' => some '\x0c'
  | 'r' => some '\r'
  | 'e' => some '\x1b'
  | '"' => some '"'
  | '\\' => some '\\'
  | _ => none

/-- A text between double quotes, from behind the first: what it says, and what follows it. -/
def readBasic (said : List Char) : List Char → Option (String × List Char)
  | [] => none
  | '"' :: cs => some (String.ofList said.reverse, cs)
  | '\\' :: 'x' :: a :: b :: cs =>
    match codePoint? [a, b] with
    | some c => readBasic (c :: said) cs
    | none => none
  | '\\' :: 'u' :: a :: b :: c :: d :: cs =>
    match codePoint? [a, b, c, d] with
    | some x => readBasic (x :: said) cs
    | none => none
  | '\\' :: 'U' :: a :: b :: c :: d :: e :: f :: g :: h :: cs =>
    match codePoint? [a, b, c, d, e, f, g, h] with
    | some x => readBasic (x :: said) cs
    | none => none
  | '\\' :: c :: cs =>
    match shortEscape? c with
    | some x => readBasic (x :: said) cs
    | none => none
  | c :: cs => if c != '\\' && isPlain c then readBasic (c :: said) cs else none

/-- Whether nothing but blanks stands before the next line break. -/
def breaksLine (cs : List Char) : Bool :=
  match skipLineBlanks cs with
  | '\n' :: _ => true
  | '\r' :: '\n' :: _ => true
  | _ => false

/--
A text between tripled double quotes, from behind the first three. A backslash at the end of a line
takes away everything up to the next visible character; `skipping` is on in between. Up to two
quotes may stand before the closing three.
-/
def readBasicLines (skipping : Bool) (said : List Char) :
    List Char → Option (String × List Char)
  | [] => none
  | '"' :: '"' :: '"' :: '"' :: '"' :: cs => some (String.ofList ('"' :: '"' :: said).reverse, cs)
  | '"' :: '"' :: '"' :: '"' :: cs => some (String.ofList ('"' :: said).reverse, cs)
  | '"' :: '"' :: '"' :: cs => some (String.ofList said.reverse, cs)
  | '\r' :: '\n' :: cs =>
    readBasicLines skipping (if skipping then said else '\n' :: '\r' :: said) cs
  | '\n' :: cs => readBasicLines skipping (if skipping then said else '\n' :: said) cs
  | '\\' :: 'x' :: a :: b :: cs =>
    match codePoint? [a, b] with
    | some c => readBasicLines false (c :: said) cs
    | none => none
  | '\\' :: 'u' :: a :: b :: c :: d :: cs =>
    match codePoint? [a, b, c, d] with
    | some x => readBasicLines false (x :: said) cs
    | none => none
  | '\\' :: 'U' :: a :: b :: c :: d :: e :: f :: g :: h :: cs =>
    match codePoint? [a, b, c, d, e, f, g, h] with
    | some x => readBasicLines false (x :: said) cs
    | none => none
  | '\\' :: c :: cs =>
    match shortEscape? c with
    | some x => readBasicLines false (x :: said) cs
    | none => if breaksLine (c :: cs) then readBasicLines true said cs else none
  | c :: cs =>
    if skipping && isLineBlank c then readBasicLines true said cs
    else if c != '\\' && isPlain c then readBasicLines false (c :: said) cs
    else none

/-- A text between single quotes, from behind the first. -/
def readLiteral (said : List Char) : List Char → Option (String × List Char)
  | [] => none
  | '\'' :: cs => some (String.ofList said.reverse, cs)
  | c :: cs => if isPlain c then readLiteral (c :: said) cs else none

/-- A text between tripled single quotes, from behind the first three. -/
def readLiteralLines (said : List Char) : List Char → Option (String × List Char)
  | [] => none
  | '\'' :: '\'' :: '\'' :: '\'' :: '\'' :: cs =>
    some (String.ofList ('\'' :: '\'' :: said).reverse, cs)
  | '\'' :: '\'' :: '\'' :: '\'' :: cs => some (String.ofList ('\'' :: said).reverse, cs)
  | '\'' :: '\'' :: '\'' :: cs => some (String.ofList said.reverse, cs)
  | '\r' :: '\n' :: cs => readLiteralLines ('\n' :: '\r' :: said) cs
  | '\n' :: cs => readLiteralLines ('\n' :: said) cs
  | c :: cs => if isPlain c then readLiteralLines (c :: said) cs else none

/-- What follows a line break just behind the opening quotes. -/
def skipFirstBreak : List Char → List Char
  | '\r' :: '\n' :: cs => cs
  | '\n' :: cs => cs
  | cs => cs

/-- A quoted text of any kind. -/
def readText : List Char → Option (String × List Char)
  | '"' :: '"' :: '"' :: cs => readBasicLines false [] (skipFirstBreak cs)
  | '"' :: cs => readBasic [] cs
  | '\'' :: '\'' :: '\'' :: cs => readLiteralLines [] (skipFirstBreak cs)
  | '\'' :: cs => readLiteral [] cs
  | _ => none

/-- A character of a bare key. -/
def isBareKey (c : Char) : Bool := c.isAlphanum || c == '_' || c == '-'

/-- A bare key, or a key quoted on one line. -/
def readSimpleKey : List Char → Option (String × List Char)
  | '"' :: cs => readBasic [] cs
  | '\'' :: cs => readLiteral [] cs
  | cs =>
    let key := cs.takeWhile isBareKey
    if key.isEmpty then none else some (String.ofList key, cs.dropWhile isBareKey)

/--
The parts of a dotted key, of which `path` are read already, the latest first, and then `key`: all
parts before the last, the last, and what follows. At most `fuel` further parts are read.
-/
def readKeyRest (fuel : Nat) (path : List String) (key : String) (cs : List Char) :
    Option (List String × String × List Char) :=
  match fuel, skipLineBlanks cs with
  | fuel + 1, '.' :: rest =>
    match readSimpleKey (skipLineBlanks rest) with
    | some (next, rest) => readKeyRest fuel (key :: path) next rest
    | none => none
  | _, rest => some (path.reverse, key, rest)

/-- A key with blanks around its points and behind it. -/
def readKey (cs : List Char) : Option (List String × String × List Char) :=
  match readSimpleKey (skipLineBlanks cs) with
  | some (key, rest) => readKeyRest rest.length [] key rest
  | none => none

end Dossier.Toml
