import ObjectFilter.Number.Numeral
import ObjectFilter.Text.Blank
import ObjectFilter.Text.Pieces

/-!
# Points

A place on a map, three whole coordinates.  A point is written in parentheses with commas between the
coordinates; in reading, the parentheses and the white space are free.
-/

namespace ObjectFilter.World

/-- a place on a map -/
structure Point3D where
  x : Int32
  y : Int32
  z : Int32
deriving DecidableEq, Repr

structure PointError where
  text : String
deriving DecidableEq, Repr

def PointError.message (e : PointError) : String := s!"expected (x, y, z), got \"{e.text}\""

namespace Point3D

/-- without white space and then without the parentheses at either end -/
def inner (cs : List Char) : List Char :=
  let start := (Text.trim cs).dropWhile (· = '(')
  (start.reverse.dropWhile (· = ')')).reverse

/-- one coordinate, white space around it not counting -/
def readCoordinate (cs : List Char) : Option Int32 :=
  match Number.readSigned .w32 (Text.trim cs) with
  | .ok n => some (Int32.ofInt n)
  | .error _ => none

def read (text : String) : Except PointError Point3D :=
  match (Text.pieces ',' (inner text.toList)).mapM readCoordinate with
  | some [x, y, z] => .ok ⟨x, y, z⟩
  | _ => .error ⟨text⟩

def display (p : Point3D) : String := s!"({p.x.toInt}, {p.y.toInt}, {p.z.toInt})"

example : (read " ( 1 ,2,  3 ) ").toOption = some ⟨1, 2, 3⟩ := by decide +kernel

end Point3D
end ObjectFilter.World
