import ObjectFilter.Field

/-!
# The enumerations of the world

Materials, colours, alignments and the two ends of the range of discriminants.  The names of the
members are published, so they need not be those of the constructors, and discriminants leave gaps.
-/

namespace ObjectFilter.World

/-- what an item is made of -/
inductive Material
  | iron
  | wood
  | leather
  | cloth
deriving DecidableEq, Repr

inductive Dye
  | red
  | green
  | blue
deriving DecidableEq, Repr

/-- which side a gadget is on -/
inductive Alignment
  | evil
  | neutral
  | five
  | good
  | epic
  | better
deriving DecidableEq, Repr

/-- the least and the greatest discriminant there is -/
inductive Extreme
  | lowest
  | highest
deriving DecidableEq, Repr

def material : Enumeration := ⟨"Material", [("Iron", 0), ("Wood", 1), ("Leather", 2), ("Cloth", 5)]⟩

def dye : Enumeration := ⟨"Dye", [("Red", 1), ("Green", 2), ("Azure", 10)]⟩

def alignment : Enumeration :=
  ⟨"Alignment", [("Evil", -5), ("Neutral", 0), ("5", 2), ("Good", 5), ("Épique", 7), ("good", 9)]⟩

def extreme : Enumeration :=
  ⟨"Extreme", [("Lowest", -9223372036854775808), ("Highest", 9223372036854775807)]⟩

instance : Enumerated Material where
  enumeration := material
  discriminant
    | .iron => 0
    | .wood => 1
    | .leather => 2
    | .cloth => 5

instance : Enumerated Dye where
  enumeration := dye
  discriminant
    | .red => 1
    | .green => 2
    | .blue => 10

instance : Enumerated Alignment where
  enumeration := alignment
  discriminant
    | .evil => -5
    | .neutral => 0
    | .five => 2
    | .good => 5
    | .epic => 7
    | .better => 9

instance : Enumerated Extreme where
  enumeration := extreme
  discriminant
    | .lowest => -9223372036854775808
    | .highest => 9223372036854775807

end ObjectFilter.World
