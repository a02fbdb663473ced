/-!
Path patterns: segments between slashes, each either a literal or a parameter written `:name`. A pattern
binds its parameters to the non-empty segments of a path that stand in their places.
-/
namespace GuestHost.Route

/-- The pieces between the slashes; one more than there are slashes. -/
def splitSlash : List Char → List (List Char)
  | [] => [[]]
  | c :: cs =>
    if c = '/' then [] :: splitSlash cs
    else
      match splitSlash cs with
      | [] => [[c]]
      | s :: ss => (c :: s) :: ss

def pieces (path : String) : List String := (splitSlash path.toList).map String.ofList

inductive Segment where
  | literal (text : String)
  | param (name : String)
  deriving DecidableEq, Repr

namespace Segment

/-- A lone colon is a literal. -/
def ofPiece (piece : String) : Segment :=
  match piece.toList with
  | ':' :: c :: cs => param (String.ofList (c :: cs))
  | _ => literal piece

def isLiteral : Segment → Bool
  | literal _ => true
  | param _ => false

end Segment

def segments (pattern : String) : List Segment := (pieces pattern).map Segment.ofPiece

def literalCount (pattern : String) : Nat := ((segments pattern).filter Segment.isLiteral).length

def hasParams (pattern : String) : Bool := (segments pattern).any fun s => !s.isLiteral

/-- The parameters' names with the pieces in their places, if every segment fits its piece. -/
def bindPieces : List Segment → List String → Option (List (String × String))
  | [], [] => some []
  | .literal text :: ss, p :: ps => if text = p then bindPieces ss ps else none
  | .param name :: ss, p :: ps =>
    if p = "" then none else (bindPieces ss ps).map ((name, p) :: ·)
  | _, _ => none

def bind (pattern path : String) : Option (List (String × String)) :=
  bindPieces (segments pattern) (pieces path)

end GuestHost.Route
