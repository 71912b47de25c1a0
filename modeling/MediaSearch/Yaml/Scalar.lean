import MediaSearch.Yaml.Gap

/-!
# Plain and quoted scalars

Scalars that may go over several lines. Plain scalars end where the line or the indentation does,
before a colon with a blank behind it, before a comment, and inside of brackets also before what has
a meaning there.
-/

set_option autoImplicit false

namespace MediaSearch.Yaml

/-- Whether a line starts with the mark of the start or the end of a document. -/
def startsWithMark : List Char → Bool
  | '-' :: '-' :: '-' :: rest | '.' :: '.' :: '.' :: rest => whiteFollows rest
  | _ => false

def separates (inBrackets : Bool) (rest : List Char) : Bool :=
  whiteFollows rest || inBrackets && (rest.head?.map (",[]\x7b\x7d".toList.contains ·)).getD false

/-- Whether a plain scalar ends before a character, apart from gaps. -/
def endsPlain (inBrackets : Bool) (character : Char) (rest : List Char) : Bool :=
  character == '\t' || character == ':' && separates inBrackets rest ||
    inBrackets && ",?[]\x7b\x7d".toList.contains character

/-- A plain scalar and the text behind it, told the gap before, the column after the last line end,
and the least column of further lines. -/
def plainFrom (inBrackets : Bool) (least : Nat) (gap : Gap) (column : Nat) :
    List Char → List Char × List Char
  | [] => ([], [])
  | character :: rest =>
      if character = ' ' then plainFrom inBrackets least (gap.addBlank ' ') (column + 1) rest
      else if isLineEnd character then
        plainFrom inBrackets least (gap.addLineEnd character) 0 rest
      else if endsPlain inBrackets character rest then ([], character :: rest)
      else
        match gap with
        | .none =>
            let (more, rest) := plainFrom inBrackets least .none (column + 1) rest
            (character :: more, rest)
        | gap =>
            if character = '#' ||
                gap.crossesLines &&
                  (!inBrackets && column < least ||
                    column == 0 && startsWithMark (character :: rest)) then
              ([], character :: rest)
            else
              let (more, rest) := plainFrom inBrackets least .none (column + 1) rest
              (gap.text ++ character :: more, rest)

/-- The plain scalar at the start of a text, and the text behind it and the gap after it. -/
def plain (inBrackets : Bool) (least : Nat) (text : List Char) : List Char × List Char :=
  plainFrom inBrackets least .none 0 text

/-- Whether a plain scalar can start at a text. -/
def startsPlain (inBrackets : Bool) : List Char → Bool
  | [] => false
  | character :: rest =>
      !isWhite character && !"-?:,[]\x7b\x7d#&*!|>'\"%@".toList.contains character
          && character.toNat != 0x60 ||
        !whiteFollows rest &&
          (character == '-' || !inBrackets && (character == '?' || character == ':'))

/-- A scalar between single quotes and the text behind it, told the gap before. A quote inside of it
is written twice. -/
def singleQuoted? (gap : Gap) : List Char → Option (List Char × List Char)
  | [] => none
  | '\'' :: '\'' :: rest =>
      (singleQuoted? .none rest).map fun (more, rest) => (gap.text ++ '\'' :: more, rest)
  | '\'' :: rest => some (gap.text, rest)
  | character :: rest =>
      if character = ' ' || character = '\t' then singleQuoted? (gap.addBlank character) rest
      else if isLineEnd character then singleQuoted? (gap.addLineEnd character) rest
      else
        (singleQuoted? .none rest).map fun (more, rest) => (gap.text ++ character :: more, rest)

def hexValue? (character : Char) : Option Nat :=
  if '0' ≤ character && character ≤ '9' then some (character.toNat - '0'.toNat)
  else if 'a' ≤ character && character ≤ 'f' then some (character.toNat - 'a'.toNat + 10)
  else if 'A' ≤ character && character ≤ 'F' then some (character.toNat - 'A'.toNat + 10)
  else none

def escapes : List (Char × Char) :=
  [('0', Char.ofNat 0), ('a', Char.ofNat 7), ('b', Char.ofNat 8), ('t', '\t'), ('\t', '\t'),
    ('n', '\n'), ('v', Char.ofNat 11), ('f', Char.ofNat 12), ('r', '\r'), ('e', Char.ofNat 27),
    (' ', ' '), ('"', '"'), ('/', '/'), ('\\', '\\'), ('N', '\u0085'), ('_', '\u00a0'),
    ('L', '\u2028'), ('P', '\u2029')]

def codeLength? (letter : Char) : Option Nat :=
  if letter = 'x' then some 2 else if letter = 'u' then some 4
  else if letter = 'U' then some 8 else none

/-- A scalar between double quotes and the text behind it, told the gap before, and how many digits
of a code are still to come and its value so far. -/
def doubleQuoted? (gap : Gap) (digits code : Nat) : List Char → Option (List Char × List Char)
  | [] => none
  | character :: rest =>
      if 0 < digits then
        match hexValue? character with
        | none => none
        | some value =>
            let code := 16 * code + value
            if digits = 1 then
              (doubleQuoted? .none 0 0 rest).map fun (more, rest) => (Char.ofNat code :: more, rest)
            else doubleQuoted? .none (digits - 1) code rest
      else if character = '"' then some (gap.text, rest)
      else if character = ' ' || character = '\t' then
        doubleQuoted? (gap.addBlank character) 0 0 rest
      else if isLineEnd character then doubleQuoted? (gap.addLineEnd character) 0 0 rest
      else if character = '\\' then
        match rest with
        | [] => none
        | letter :: rest =>
            if isLineEnd letter then
              (doubleQuoted? (.joined []) 0 0 rest).map fun (more, rest) => (gap.text ++ more, rest)
            else
              match escapes.lookup letter, codeLength? letter with
              | some meant, _ =>
                  (doubleQuoted? .none 0 0 rest).map fun (more, rest) =>
                    (gap.text ++ meant :: more, rest)
              | none, some digits =>
                  (doubleQuoted? .none digits 0 rest).map fun (more, rest) =>
                    (gap.text ++ more, rest)
              | none, none => none
      else
        (doubleQuoted? .none 0 0 rest).map fun (more, rest) =>
          (gap.text ++ character :: more, rest)

end MediaSearch.Yaml
