import SectorCard.Text.Hex

/-!
# Lines of output

What the command line says, it says in lines.  Most lines have a bold head in front: the name of an attribute,
the word for what was done, or whether the line warns or reports an error.  Attributes and successes are set
flush right against column twelve, so that what follows them lines up.

Main statement: `Line.length_padded`, a head within its width fills it.
-/

namespace SectorCard.Console

/-- Standard output and standard error. -/
inductive Channel where
  | results
  | complaints
  deriving DecidableEq, Repr

inductive Colour where
  | red
  | green
  | yellow
  deriving DecidableEq, Repr

def Colour.code : Colour → String
  | .red => "31"
  | .green => "32"
  | .yellow => "33"

inductive Line where
  | plain (text : String)
  | entry (number : Nat) (text : String)
  | attribute (name value : String)
  | success (word detail : String)
  | warning (text : String)
  | error (text : String)
  deriving DecidableEq, Repr

namespace Line

/-! ## Heads -/

def headWidth : Nat := 12

def numberWidth : Nat := 3

/-- A text set flush right in a width; a longer text is left as it is. -/
def padded (width : Nat) (text : String) : String :=
  String.ofList (text.toList.leftpad width ' ')

/-- Where a line goes: results to one channel, warnings and errors to the other. -/
def channel : Line → Channel
  | .warning _ | .error _ => .complaints
  | _ => .results

/-- The head of a line with its colour, and the rest of the line. -/
def parts : Line → Option (String × Option Colour) × String
  | .plain text => (none, text)
  | .entry number text => (some (padded numberWidth (toString number) ++ ":", none), text)
  | .attribute name value => (some (padded headWidth name ++ ":", none), value)
  | .success word detail => (some (padded headWidth word, some .green), detail)
  | .warning text => (some ("warning:", some .yellow), text)
  | .error text => (some ("error:", some .red), text)

/-! ## Rendering -/

/-- Whether a terminal is to be sent colours: it has to be named, able to show them, and colours must not have
been turned off. -/
def wantsColour (terminal noColour : Option String) : Bool :=
  noColour.isNone && (terminal.map (· != "dumb")).getD false

/-- The terminal's command for one of its modes. -/
def mode (code : String) : String := "\x1b[" ++ code ++ "m"

/-- A head, bold and in its colour if the terminal has colours. -/
def renderHead (coloured : Bool) (text : String) (colour : Option Colour) : String :=
  if coloured then
    mode "0" ++ mode "1" ++ (colour.map fun c => mode c.code).getD "" ++ text ++ mode "0"
  else text

def render (coloured : Bool) (line : Line) : String :=
  match line.parts with
  | (none, text) => text ++ "\n"
  | (some (head, colour), text) => renderHead coloured head colour ++ " " ++ text ++ "\n"

def renderAll (coloured : Bool) (channel : Channel) (lines : List Line) : String :=
  String.join ((lines.filter fun line => line.channel == channel).map (render coloured))

/-! ## Lines about a card -/

def sector (number : UInt8) : Line := .attribute "sector" (toString number.toNat)

def block (number : Nat) (contents : String) : Line := .attribute ("block " ++ toString number) contents

def blocks (first : Nat) (contents : List Bytes) : List Line :=
  contents.zipIdx.map fun (data, i) => block (first + i) (Hex.upperSpaced data)

theorem length_padded {width : Nat} {text : String} (h : text.length ≤ width) :
    (padded width text).length = width := by
  have hlen : text.toList.length = text.length := String.length_toList
  simp [padded, List.leftpad, hlen]
  omega

end Line
end SectorCard.Console
