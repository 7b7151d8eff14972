import ContentQuery.Text.CaseClasses
import ContentQuery.Text.CaseRuns

/-!
# Letter case

Full Unicode case conversion without regard to language. Lower-casing works character by character
except for capital sigma, whose form depends on whether it ends a word; upper-casing may lengthen
the text.
-/

namespace ContentQuery.Text

/-- The lower-case form of one character, capital sigma taken inside a word. -/
def lowerChar (char : Char) : List Char :=
  if char.toNat < 0x80 then [char.toLower]
  else if char = '\u0130' then ['i', '\u0307']
  else [shiftAlong lowerRuns char]

/-- The first character that is not case-ignorable exists and is cased. -/
def startsCased (chars : List Char) : Bool :=
  match chars.dropWhile isCaseIgnorable with
  | [] => false
  | char :: _ => isCased char

/-- Lower-cases characters that follow `before`, which is given nearest character first. A capital
sigma becomes a final sigma when a cased letter precedes it and none follows. -/
def lowerAfter (before : List Char) : List Char → List Char
  | [] => []
  | char :: rest =>
    let lowered :=
      if char = '\u03A3' then
        [if startsCased before && !startsCased rest then '\u03C2' else '\u03C3']
      else lowerChar char
    lowered ++ lowerAfter (char :: before) rest

/-- The lower-case form of a text. -/
def lower (text : String) : String :=
  String.ofList (lowerAfter [] text.toList)

/-- The upper-case form of one character. -/
def upperChar (char : Char) : List Char :=
  if char.toNat < 0x80 then [char.toUpper]
  else
    match upperExpansions.lookup char.toNat with
    | some codes => codes.map Char.ofNat
    | none => [shiftAlong upperRuns char]

/-- The upper-case form of a text. -/
def upper (text : String) : String :=
  String.ofList (text.toList.flatMap upperChar)

end ContentQuery.Text
