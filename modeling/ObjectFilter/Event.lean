import ObjectFilter.FilterError
import ObjectFilter.Text.Pieces

/-!
# Events and the console

What happens while predicates are compiled and looked up, as a list of events, and the line that the
console writes for each of them.  The console colours its lines with escape sequences; every styled
piece is closed by its own reset.

The message of an error, the name of a literal's type and the name of a target that was not found lose
the quotation marks at their ends in a line.
-/

namespace ObjectFilter

inductive Event
  /-- a literal was parsed into a compound value -/
  | slotCreated (type literal : String)
  | compiled (target : String) (conditions : Nat) (typeGuard : Bool)
  | rejected (target : String) (error : FilterError)
  /-- a definition was rejected because its target is not in the catalog -/
  | targetUnknown (name : String) (error : FilterError)
  | cacheHit (target : String)
  | cacheMiss (target : String)
deriving DecidableEq, Repr

/-! ## styles -/

inductive Style
  | dimmed
  | bold
  | red
  | yellow
  | cyan
  | brightRed
  | brightGreen
  | brightCyan
  | brightWhite
deriving DecidableEq, Repr

namespace Style

/-- the code that turns the style on, and the one that turns it off -/
def codes : Style → Nat × Nat
  | dimmed => (2, 0)
  | bold => (1, 0)
  | red => (31, 39)
  | yellow => (33, 39)
  | cyan => (36, 39)
  | brightRed => (91, 39)
  | brightGreen => (92, 39)
  | brightCyan => (96, 39)
  | brightWhite => (97, 39)

def escape (code : Nat) : String := "\x1b[" ++ toString code ++ "m"

def apply (s : Style) (text : String) : String := escape s.codes.1 ++ text ++ escape s.codes.2

end Style

/-! ## lines -/

/-- the text without the quotation marks at its ends -/
def trimQuotes (s : String) : String :=
  let start := s.toList.dropWhile (· = '"')
  String.ofList (start.reverse.dropWhile (· = '"')).reverse

namespace Event

/-- the style of the tag in front, which tells how grave the event is -/
def tagStyle : Event → Style
  | rejected .. | targetUnknown .. => .yellow
  | compiled .. => .brightCyan
  | slotCreated .. | cacheHit _ | cacheMiss _ => .dimmed

def rejection (target : String) (error : FilterError) : String :=
  Style.bold.apply (Style.brightRed.apply "rejected") ++ " " ++ Style.brightWhite.apply target
    ++ ": " ++ Style.red.apply (trimQuotes error.message)

/-- what is written behind the tag -/
def body : Event → String
  | compiled target conditions typeGuard =>
    let guard := if typeGuard then ", type guard" else ""
    Style.bold.apply (Style.brightGreen.apply "compiled") ++ " " ++ Style.brightWhite.apply target
      ++ " " ++ Style.dimmed.apply s!"({conditions} conditions{guard})"
  | rejected target error => rejection target error
  | targetUnknown name error => rejection (trimQuotes name) error
  | cacheHit target => Style.dimmed.apply "cache hit" ++ " " ++ Style.dimmed.apply target
  | cacheMiss target => Style.dimmed.apply "cache miss" ++ " " ++ Style.dimmed.apply target
  | slotCreated type literal =>
    Style.dimmed.apply "slot" ++ " " ++ Style.cyan.apply (trimQuotes type) ++ " "
      ++ Style.dimmed.apply literal

def render (e : Event) : String := e.tagStyle.apply "[condforge]" ++ " " ++ e.body

/-- the lines that the console writes for the event -/
def lines (e : Event) : List String := (Text.pieces '\n' e.render.toList).map String.ofList

end Event
end ObjectFilter
