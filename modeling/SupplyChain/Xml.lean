import Mathlib.Data.List.TakeWhile
import Mathlib.Tactic.Common

/-!
Documents of XML 1.0, as a reader sees them: line ends are one character, entities and
character references stand for their characters, the white space of attribute values is
blanks. Comments, processing instructions, sections and document types are refused.
-/

namespace Xml

abbrev Text := List Char

def carriageReturn : Char := Char.ofNat 13

def lineFeed : Char := Char.ofNat 10

def quotationMark : Char := Char.ofNat 34

def apostrophe : Char := Char.ofNat 39

/-! ## Characters -/

def isCharacter (c : Char) : Bool :=
  c.val == 9 || c.val == 10 || c.val == 13 || (32 ≤ c.val && c.val ≤ 0xd7ff) ||
    (0xe000 ≤ c.val && c.val ≤ 0xfffd) || 0x10000 ≤ c.val

def isSpace (c : Char) : Bool := c.val == 32 || c.val == 9 || c.val == 10 || c.val == 13

def nameStarts : List (UInt32 × UInt32) :=
  [(0xc0, 0xd6), (0xd8, 0xf6), (0xf8, 0x2ff), (0x370, 0x37d), (0x37f, 0x1fff), (0x200c, 0x200d),
    (0x2070, 0x218f), (0x2c00, 0x2fef), (0x3001, 0xd7ff), (0xf900, 0xfdcf), (0xfdf0, 0xfffd),
    (0x10000, 0xeffff)]

def isNameStart (c : Char) : Bool :=
  c == ':' || c == '_' || c.isAlpha ||
    nameStarts.any fun range => range.1 ≤ c.val && c.val ≤ range.2

def isNameChar (c : Char) : Bool :=
  isNameStart c || c == '-' || c == '.' || c.isDigit || c.val == 0xb7 ||
    (0x300 ≤ c.val && c.val ≤ 0x36f) || (0x203f ≤ c.val && c.val ≤ 0x2040)

/-- Line ends on input: a carriage return with a line feed behind it goes, another one
becomes a line feed. -/
def normalize : Text → Text
  | [] => []
  | c :: rest =>
      if c = carriageReturn then
        if rest.head? = some lineFeed then normalize rest else lineFeed :: normalize rest
      else c :: normalize rest

/-! ## References -/

def characterOf (code : Nat) : Option Char :=
  if code.isValidChar ∧ isCharacter (Char.ofNat code) = true then some (Char.ofNat code) else none

def hexDigit (c : Char) : Option Nat :=
  if c.isDigit then some (c.toNat - 48)
  else if 'a' ≤ c ∧ c ≤ 'f' then some (c.toNat - 87)
  else if 'A' ≤ c ∧ c ≤ 'F' then some (c.toNat - 55)
  else none

def hexNumber (digits : Text) : Option Nat :=
  digits.foldlM (fun n c => (hexDigit c).map (16 * n + ·)) 0

/-- What stands between an ampersand and a semicolon. -/
def reference (name : Text) : Option Char :=
  if name = ['a', 'm', 'p'] then some '&'
  else if name = ['l', 't'] then some '<'
  else if name = ['g', 't'] then some '>'
  else if name = ['q', 'u', 'o', 't'] then some quotationMark
  else if name = ['a', 'p', 'o', 's'] then some apostrophe
  else if name.take 2 = ['#', 'x'] ∧ 2 < name.length then
    (hexNumber (name.drop 2)).bind characterOf
  else if name.take 1 = ['#'] ∧ 1 < name.length ∧ (name.drop 1).all Char.isDigit = true then
    characterOf (Nat.ofDigitChars 10 (name.drop 1) 0)
  else none

/-- Characters with their references replaced; `pending` is the reference that is being read. -/
def expand (pending : Option Text) : Text → Option Text
  | [] => if pending = none then some [] else none
  | c :: rest =>
      match pending with
      | none => if c = '&' then expand (some []) rest else (expand none rest).map (c :: ·)
      | some name =>
          if c = ';' then
            (reference name).bind fun character => (expand none rest).map (character :: ·)
          else expand (some (name ++ [c])) rest

/-! ## Tags -/

structure Attribute where
  name : Text
  value : Text
  deriving DecidableEq

inductive Token
  | opening (name : Text) (attributes : List Attribute) (empty : Bool)
  | closing (name : Text)
  | text (characters : Text)

def scanName (input : Text) : Option (Text × Text) :=
  if ((input.takeWhile isNameChar).head?).any isNameStart then
    some (input.takeWhile isNameChar, input.dropWhile isNameChar)
  else none

def expect (c : Char) (input : Text) : Option Text :=
  if input.head? = some c then some input.tail else none

def blank (c : Char) : Char := if isSpace c then ' ' else c

/-- A value in quotes of either kind. -/
def scanValue (input : Text) : Option (Text × Text) :=
  match input with
  | [] => none
  | quote :: rest =>
      if quote = quotationMark ∨ quote = apostrophe then
        let value := rest.takeWhile (· != quote)
        if '<' ∈ value then none
        else
          (expect quote (rest.dropWhile (· != quote))).bind fun after =>
            (expand none (value.map blank)).map fun value => (value, after)
      else none

def skipSpaces (input : Text) : Text := input.dropWhile isSpace

/-- The attributes of a tag, and what comes after them and white space. -/
def scanAttributes : Nat → Text → Option (List Attribute × Text)
  | 0, _ => none
  | fuel + 1, input =>
      if ((skipSpaces input).head?).any isNameStart then do
        let (name, rest) ← scanName (skipSpaces input)
        let rest ← expect '=' (skipSpaces rest)
        let (value, rest) ← scanValue (skipSpaces rest)
        let (others, rest) ← scanAttributes fuel rest
        -- white space comes before an attribute, and no name comes twice
        if ((input.head?).any isSpace && !others.any fun other => other.name == name) then
          some (⟨name, value⟩ :: others, rest)
        else none
      else some ([], skipSpaces input)

/-- The end of a section is not allowed among characters. -/
def endsSection : Text → Bool
  | [] => false
  | c :: rest => (c == ']' && rest.take 2 == [']', '>']) || endsSection rest

def scanClosing (input : Text) : Option (Token × Text) := do
  let (name, rest) ← scanName input
  let rest ← expect '>' (skipSpaces rest)
  some (.closing name, rest)

def scanOpening (input : Text) : Option (Token × Text) := do
  let (name, rest) ← scanName input
  let (attributes, rest) ← scanAttributes (rest.length + 1) rest
  if rest.head? = some '/' then do
    let rest ← expect '>' rest.tail
    some (.opening name attributes true, rest)
  else do
    let rest ← expect '>' rest
    some (.opening name attributes false, rest)

def scanText (input : Text) : Option (Token × Text) :=
  if endsSection (input.takeWhile (· != '<')) then none
  else
    (expand none (input.takeWhile (· != '<'))).map fun characters =>
      (.text characters, input.dropWhile (· != '<'))

def scanToken (input : Text) : Option (Token × Text) :=
  if input.head? = some '<' then
    if input.tail.head? = some '/' then scanClosing input.tail.tail else scanOpening input.tail
  else scanText input

def tokens : Nat → Text → Option (List Token)
  | 0, input => if input = [] then some [] else none
  | fuel + 1, input =>
      if input = [] then some []
      else (scanToken input).bind fun scanned => (tokens fuel scanned.2).map (scanned.1 :: ·)

/-! ## Elements -/

inductive Node
  | element (name : Text) (attributes : List Attribute) (children : List Node)
  | text (characters : Text)

namespace Node

def isBlank : Node → Bool
  | .text characters => characters.all isSpace
  | .element _ _ _ => false

def isNamed (name : Text) : Node → Bool
  | .element found _ _ => found == name
  | .text _ => false

def valueOf (name : Text) : Node → Option Text
  | .element _ attributes _ => (attributes.find? fun found => found.name == name).map Attribute.value
  | .text _ => none

def children : Node → List Node
  | .element _ _ children => children
  | .text _ => []

/-- The children with a name. -/
def elements (name : Text) (node : Node) : List Node := node.children.filter (isNamed name)

/-- The characters between the tags of an element, without those of the elements in it. -/
def characters (node : Node) : Text :=
  node.children.flatMap fun child =>
    match child with
    | .text characters => characters
    | .element _ _ _ => []

end Node

/-- An element that is open, and what came before it in the one around it. -/
structure Frame where
  name : Text
  attributes : List Attribute
  before : List Node

def build (stack : List Frame) (siblings : List Node) : List Token → Option (List Node)
  | [] => if stack.isEmpty then some siblings else none
  | .opening name attributes true :: rest =>
      build stack (siblings ++ [.element name attributes []]) rest
  | .opening name attributes false :: rest => build (⟨name, attributes, siblings⟩ :: stack) [] rest
  | .text characters :: rest => build stack (siblings ++ [.text characters]) rest
  | .closing name :: rest =>
      match stack with
      | [] => none
      | frame :: stack =>
          if frame.name = name then
            build stack (frame.before ++ [.element name frame.attributes siblings]) rest
          else none

/-! ## Documents -/

def declarationStart : Text := ['<', '?', 'x', 'm', 'l']

/-- Only version 1.0 in UTF-8 is read. -/
def declared (attributes : List Attribute) : Bool :=
  (attributes.head?).any (fun first =>
    first.name == ['v', 'e', 'r', 's', 'i', 'o', 'n'] && first.value == ['1', '.', '0']) &&
  attributes.tail.all fun given =>
    if given.name == ['e', 'n', 'c', 'o', 'd', 'i', 'n', 'g'] then
      given.value == ['U', 'T', 'F', '-', '8']
    else given.name == ['s', 't', 'a', 'n', 'd', 'a', 'l', 'o', 'n', 'e'] &&
      (given.value == ['y', 'e', 's'] || given.value == ['n', 'o'])

/-- What comes after the declaration, if there is one. -/
def skipDeclaration (input : Text) : Option Text :=
  if declarationStart.isPrefixOf input then do
    let (attributes, rest) ← scanAttributes (input.length + 1) (input.drop 5)
    let rest ← expect '?' rest
    let rest ← expect '>' rest
    if declared attributes then some rest else none
  else some input

/-- The root element of a document. -/
def read (document : Text) : Option Node :=
  let input := normalize document
  if input.all isCharacter then do
    let body ← skipDeclaration input
    let scanned ← tokens body.length body
    let nodes ← build [] [] scanned
    match nodes.filter (!·.isBlank) with
    | [.element name attributes children] => some (.element name attributes children)
    | _ => none
  else none

end Xml
