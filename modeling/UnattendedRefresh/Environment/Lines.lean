import UnattendedRefresh.Text.Blank

/-!
# Lines of a settings file for variables

A line ends where the text breaks, unless the break stands between quotes; then
the line goes on. A comment is cut off where a number sign follows one blank.
-/

namespace UnattendedRefresh.Environment

inductive Position where
  | plain
  | blank
  | escape
  | strong
  | strongEscape
  | weak
  | weakEscape
  deriving DecidableEq

namespace Position

/-- Outside of quotes, after any character but a blank. -/
def outside : Char → Position
  | '\\' => escape
  | '"' => weak
  | '\'' => strong
  | _ => plain

/-- Where the reader stands after one more character; none if that begins a
comment. -/
def next? : Position → Char → Option Position
  | blank, character => if character = '#' then none else some (outside character)
  | plain, character =>
    if Text.isWhiteSpace character ∧ character ≠ '\n' ∧ character ≠ '\r' then some blank
    else some (outside character)
  | escape, _ => some plain
  | weak, character =>
    some (if character = '\\' then weakEscape else if character = '"' then plain else weak)
  | weakEscape, _ => some weak
  | strong, character =>
    some (if character = '\\' then strongEscape else if character = '\'' then plain else strong)
  | strongEscape, _ => some strong

end Position

/-- What reading a piece of text up to the next break comes to. -/
inductive Piece where
  /-- A comment begins; the text before it. -/
  | commented (text : List Char)
  | read (text : List Char) (position : Position)

def readPiece (position : Position) : List Char → Piece
  | [] => .read [] position
  | character :: rest =>
    match position.next? character with
    | none => .commented []
    | some position =>
      match readPiece position rest with
      | .commented text => .commented (character :: text)
      | .read text position => .read (character :: text) position

/-- The pieces of a text, each with the break that ends it. -/
def brokenLines : List Char → List (List Char)
  | [] => []
  | character :: rest =>
    if character = '\n' then [character] :: brokenLines rest
    else
      match brokenLines rest with
      | [] => [[character]]
      | piece :: pieces => (character :: piece) :: pieces

def withoutBreak (line : List Char) : List Char :=
  match line.reverse with
  | '\n' :: '\r' :: rest => rest.reverse
  | '\n' :: rest => rest.reverse
  | _ => line

def isComment (line : List Char) : Bool :=
  (line.dropWhile Text.isWhiteSpace).head? = some '#'

/-- A line, or what cannot be a line: text that ends where a line may not. -/
inductive Line where
  | line (text : List Char)
  | unfinished

/-- Put pieces together to lines; `open_` is what has been read of a line that
goes on. -/
def linesFrom (open_ : List Char) (position : Position) : List (List Char) → List Line
  | [] => if position = .plain then [] else [.unfinished]
  | piece :: pieces =>
    if isComment (open_ ++ piece) then .line [] :: linesFrom [] .plain pieces
    else
      match readPiece position piece with
      | .commented text => .line (open_ ++ text) :: linesFrom [] .plain pieces
      | .read text .plain => .line (withoutBreak (open_ ++ text)) :: linesFrom [] .plain pieces
      | .read text position => linesFrom (open_ ++ text) position pieces

/-- The lines of a file; a mark of the byte order at its beginning is none of them. -/
def linesOf (content : String) : List Line :=
  match content.toList with
  | '\ufeff' :: rest => linesFrom [] .plain (brokenLines rest)
  | characters => linesFrom [] .plain (brokenLines characters)

end UnattendedRefresh.Environment
