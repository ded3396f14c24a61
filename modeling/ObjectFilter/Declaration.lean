import ObjectFilter.Enumeration
import ObjectFilter.Text.Blank
import ObjectFilter.Text.Case
import ObjectFilter.Text.Pieces

/-!
# Published declarations

A type of the embedding program can be published from its declaration: a struct with its named fields as
properties, or an enumeration with its variants as members.  Attributes give other names and leave
fields out.

* a property is named like its field, in Pascal case, if no attribute renames it;
* a type and a member are named by their identifiers as they are written, if no attribute says
  otherwise;
* of several attributes or arguments that give a name, the first does;
* a list with a key that is no path says nothing at all.
-/

namespace ObjectFilter

/-! ## keys -/

def reservedWords : List String :=
  ["_", "abstract", "as", "async", "await", "become", "box", "break", "const", "continue", "crate",
   "do", "dyn", "else", "enum", "extern", "false", "final", "fn", "for", "if", "impl", "in", "let",
   "loop", "macro", "match", "mod", "move", "mut", "override", "priv", "pub", "ref", "return", "Self",
   "self", "static", "struct", "super", "trait", "true", "try", "type", "typeof", "unsafe", "unsized",
   "use", "virtual", "where", "while", "yield"]

/-- words that may be parts of a path without being names -/
def pathWords : List String := ["super", "self", "Self", "crate"]

def isNameStart (c : Char) : Bool := c.isAlpha || c = '_' || 0x80 ≤ c.toNat

/-- whether the characters could be a name if no word were reserved -/
def isWord : List Char → Bool
  | [] => false
  | c :: rest => isNameStart c && rest.all fun c => isNameStart c || c.isDigit

/-- a name, which may be any word behind the mark of a raw identifier -/
def isName : List Char → Bool
  | 'r' :: '#' :: word => isWord word
  | word => isWord word && !reservedWords.contains (String.ofList word)

def isPathPart (cs : List Char) : Bool := isName cs || pathWords.contains (String.ofList cs)

/-- the parts of a path, from the pieces between its colons -/
def pathParts? : List (List Char) → Option (List String)
  | [part] => if isPathPart part then some [String.ofList part] else none
  | part :: [] :: rest => if isPathPart part then (pathParts? rest).map (String.ofList part :: ·) else none
  | _ => none

/-- the parts of the path that a key is; a path from the root starts with an empty part -/
def pathOf? (key : String) : Option (List String) :=
  match (Text.pieces ':' key.toList).map Text.trim with
  | [] :: [] :: rest => (pathParts? rest).map ("" :: ·)
  | pieces => if pieces = ["unsafe".toList] then some ["unsafe"] else pathParts? pieces

/-! ## attributes -/

inductive ArgumentValue
  /-- the key alone -/
  | flag
  | text (s : String)
  /-- a number, or a list of its own -/
  | other
deriving DecidableEq, Repr

structure Argument where
  key : String
  value : ArgumentValue
deriving DecidableEq, Repr

/-- what stands behind the name of an attribute -/
inductive AttributeBody
  | nothing
  | value (s : String)
  | list (arguments : List Argument)
  /-- a list that cannot be read -/
  | unreadable
deriving DecidableEq, Repr

structure Attribute where
  name : String
  body : AttributeBody
deriving DecidableEq, Repr

def Argument.isFor (key : String) (a : Argument) : Bool := pathOf? a.key == some [key]

/-- the arguments of a list that can be read, whose keys are paths -/
def AttributeBody.arguments : AttributeBody → List Argument
  | list arguments => if arguments.all fun a => (pathOf? a.key).isSome then arguments else []
  | _ => []

/-- the name of the attributes that matter -/
def attributeName : String := "inspect"

def argumentsOf (attributes : List Attribute) : List Argument :=
  (attributes.filter (·.name = attributeName)).flatMap (·.body.arguments)

/-- whether a key stands there alone -/
def hasFlag (attributes : List Attribute) (key : String) : Bool :=
  (argumentsOf attributes).any fun a => a.isFor key && a.value = .flag

def Argument.textFor? (key : String) (a : Argument) : Option String :=
  match a.value with
  | .text s => if a.isFor key then some s else none
  | _ => none

def textOf? (attributes : List Attribute) (key : String) : Option String :=
  (argumentsOf attributes).findSome? (Argument.textFor? key)

/-! ## declarations -/

structure FieldDeclaration where
  name : String
  type : String
  attributes : List Attribute
deriving DecidableEq, Repr

inductive VariantShape
  | unit
  | tuple
  | struct
deriving DecidableEq, Repr

structure VariantDeclaration where
  name : String
  /-- the discriminant, where one is written -/
  discriminant : Option Int
  shape : VariantShape
  attributes : List Attribute
deriving DecidableEq, Repr

inductive DeclarationBody
  | struct (fields : List FieldDeclaration)
  | tupleStruct
  | unitStruct
  | enum (variants : List VariantDeclaration)
  | union
deriving DecidableEq, Repr

structure Declaration where
  name : String
  generic : Bool
  attributes : List Attribute
  body : DeclarationBody
deriving DecidableEq, Repr

/-- why a declaration cannot be published -/
inductive DeclarationError
  | genericType
  | noStruct
  | unnamedFields
  | genericEnum
  | noEnum
  | variantWithFields
deriving DecidableEq, Repr

def DeclarationError.message : DeclarationError → String
  | genericType => "#[derive(Inspectable)] does not support generic types"
  | noStruct => "#[derive(Inspectable)] only works on structs"
  | unnamedFields => "#[derive(Inspectable)] requires named fields"
  | genericEnum => "#[derive(InspectEnum)] does not support generic types"
  | noEnum => "#[derive(InspectEnum)] only works on enums"
  | variantWithFields => "#[derive(InspectEnum)] requires field-less variants"

/-! ## names -/

def withoutRawMark : List Char → List Char
  | 'r' :: '#' :: rest => withoutRawMark rest
  | cs => cs

/-- the identifier in Pascal case: its parts between underscores, each with a capital in front -/
def pascalCase (identifier : String) : String :=
  let parts := Text.pieces '_' (withoutRawMark identifier.toList)
  String.ofList (parts.flatMap Text.capitalized)

/-! ## publishing -/

structure PublishedProperty where
  name : String
  field : String
  type : String
deriving DecidableEq, Repr

structure PublishedType where
  name : String
  properties : List PublishedProperty
deriving DecidableEq, Repr

structure PublishedMember where
  name : String
  variant : String
  discriminant : Int
deriving DecidableEq, Repr

structure PublishedEnum where
  name : String
  members : List PublishedMember
deriving DecidableEq, Repr

def PublishedEnum.enumeration (e : PublishedEnum) : Enumeration :=
  ⟨e.name, e.members.map fun m => (m.name, Int64.ofInt m.discriminant)⟩

namespace FieldDeclaration

/-- the property of the field, if it is not left out -/
def publish? (f : FieldDeclaration) : Option PublishedProperty :=
  if hasFlag f.attributes "skip" then none
  else some ⟨(textOf? f.attributes "rename").getD (pascalCase f.name), f.name, f.type⟩

end FieldDeclaration

namespace VariantDeclaration

/-- the members of variants; where no discriminant is written it is `next`, one more than the last -/
def publishFrom (next : Int) : List VariantDeclaration → List PublishedMember
  | [] => []
  | v :: rest =>
    let discriminant := v.discriminant.getD next
    ⟨(textOf? v.attributes "rename").getD v.name, v.name, discriminant⟩
      :: publishFrom (discriminant + 1) rest

end VariantDeclaration

namespace Declaration

def publishedName (d : Declaration) : String := (textOf? d.attributes "name").getD d.name

def publishType (d : Declaration) : Except DeclarationError PublishedType :=
  if d.generic then .error .genericType
  else
    match d.body with
    | .struct fields => .ok ⟨d.publishedName, fields.filterMap (·.publish?)⟩
    | .tupleStruct | .unitStruct => .error .unnamedFields
    | .enum _ | .union => .error .noStruct

def publishEnum (d : Declaration) : Except DeclarationError PublishedEnum :=
  if d.generic then .error .genericEnum
  else
    match d.body with
    | .enum variants =>
      if variants.all (·.shape = .unit) then
        .ok ⟨d.publishedName, VariantDeclaration.publishFrom 0 variants⟩
      else .error .variantWithFields
    | _ => .error .noEnum

end Declaration

/-! ## small facts -/

example : pascalCase "r#hit_points" = "HitPoints" := by decide +kernel

end ObjectFilter
