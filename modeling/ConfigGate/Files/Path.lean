import ConfigGate.Text.Pieces

/-!
# Paths

A path is pieces with slashes between them; one that begins with a slash starts at the top. Empty
pieces and points say nothing, except a point at the very start.
-/

namespace ConfigGate.Path

/-- The pieces of a path, from the last to the first. -/
def piecesFromEnd (path : String) : List (List Char) := (Text.pieces '/' path.toList).reverse

/-- Drops pieces at the end that say nothing. The first piece stays. -/
def dropSilent : List (List Char) → List (List Char)
  | piece :: before :: more =>
      if piece.isEmpty || piece = ['.'] then dropSilent (before :: more)
      else piece :: before :: more
  | pieces => pieces

/-- The path without its last piece: none for the top and for no path at all, and empty for a
single piece. -/
def parent? (path : String) : Option String :=
  match dropSilent (piecesFromEnd path) with
  | [] | [[]] => none
  | [_] => some ""
  | _ :: before =>
      match dropSilent before with
      | [[]] => some "/"
      | rest => some (String.ofList (Text.joinPieces '/' rest.reverse))

/-- The last piece that says something. -/
def name? (path : String) : Option String :=
  match dropSilent (piecesFromEnd path) with
  | [] | [[]] => none
  | piece :: _ => some (String.ofList piece)

/-- The path of something within a directory. -/
def join (directory name : String) : String :=
  if directory.isEmpty then name
  else if directory.toList.getLast? = some '/' then directory ++ name
  else directory ++ "/" ++ name

/-- Whether a path starts at the top. -/
def isAbsolute (path : String) : Bool := path.toList.head? = some '/'

/-- Whether a path ends in a slash and so can only name a directory. -/
def namesDirectory (path : String) : Bool := path.toList.getLast? = some '/'

/-- The pieces that are not empty. -/
def steps (path : String) : List String :=
  ((Text.pieces '/' path.toList).filter fun piece => !piece.isEmpty).map String.ofList

end ConfigGate.Path
