/-!
# Command-line arguments

Arguments are read one after the other.  An argument that starts with a dash names options: two dashes and a
long name, perhaps with `=` and a value, or one dash and a row of letters.  In such a row flags can be followed
by further letters, while an option with a value takes all that is left as its value, less a leading `=`.  An
option without a value attached takes the next argument, which must not look like an option; a single dash is a
value.  After two dashes alone nothing is an option any more.

What is no option fills the places of a level, in order.  An option may be used once.  Every value is checked
when it is met, so the first offence counts.  Some options end the reading at once.

Main statements: `Word.ofArgument_dashless` (text that does not start with a dash is plain) and
`Reading.take_literal` (after two dashes everything fills places).
-/

namespace SectorCard.Console

/-- Why the reading of arguments ended early. -/
inductive Stop where
  | rejected
  | version
  | help
  deriving DecidableEq, Repr

/-! ## Words -/

inductive Word where
  | terminator
  | long (name : String) (value : Option String)
  | short (letters : List Char)
  | plain (text : String)
  deriving DecidableEq, Repr

namespace Word

/-- A name and, after the first equals sign, a value. -/
def assignment (chars : List Char) : String × Option String :=
  match chars.dropWhile (· != '=') with
  | [] => (String.ofList chars, none)
  | _ :: value => (String.ofList (chars.takeWhile (· != '=')), some (String.ofList value))

/-- The form of an argument. -/
def ofArgument (text : String) : Word :=
  match text.toList with
  | ['-', '-'] => .terminator
  | '-' :: '-' :: rest => .long (assignment rest).1 (assignment rest).2
  | '-' :: c :: rest => .short (c :: rest)
  | _ => .plain text

theorem ofArgument_dashless {text : String} (h : text.toList.head? ≠ some '-') :
    ofArgument text = .plain text := by
  unfold ofArgument
  split <;> simp_all

/-- A single dash is a value. -/
theorem ofArgument_dash : ofArgument "-" = .plain "-" := rfl

end Word

/-! ## Options -/

/-- What an option does; a setting is what it contributes to the outcome. -/
inductive Action (σ : Type) where
  | flag (setting : σ)
  | value (read : String → Option σ)
  | leave (reason : Stop)

/-- An option with its names. -/
structure Choice (σ : Type) where
  letter : Option Char
  name : String
  action : Action σ

/-- A place for an argument that is no option. -/
abbrev Place (σ : Type) := String → Option σ

/-- Where the reading of arguments has got to.  An option may be awaiting its value, which is then the
next argument, and after two dashes everything is literal. -/
structure Reading (σ : Type) where
  settings : List σ
  used : List String
  awaiting : Option (String × (String → Option σ))
  places : List (Place σ)
  literal : Bool

namespace Reading

variable {σ : Type}

/-- The beginning. -/
def start (places : List (Place σ)) : Reading σ := ⟨[], [], none, places, false⟩

/-- Adds what an option contributes, unless it was used before. -/
def add (name : String) (setting : σ) (r : Reading σ) : Except Stop (Reading σ) :=
  if name ∈ r.used then .error .rejected
  else .ok { r with settings := r.settings ++ [setting], used := name :: r.used }

/-- Adds an option with its value. -/
def give (name : String) (read : String → Option σ) (text : String) (r : Reading σ) :
    Except Stop (Reading σ) :=
  match read text with
  | some setting => r.add name setting
  | none => .error .rejected

/-- Fills the next place. -/
def fill (text : String) (r : Reading σ) : Except Stop (Reading σ) :=
  match r.places with
  | [] => .error .rejected
  | place :: rest =>
    match place text with
    | some setting => .ok { r with settings := r.settings ++ [setting], places := rest }
    | none => .error .rejected

/-- Uses an option given by its long name. -/
def takeLong (choices : List (Choice σ)) (name : String) (value : Option String) (r : Reading σ) :
    Except Stop (Reading σ) :=
  match choices.find? fun choice => choice.name == name with
  | none => .error .rejected
  | some choice =>
    match choice.action, value with
    | .flag setting, none => r.add name setting
    | .leave reason, none => .error reason
    | .value read, some text => r.give name read text
    | .value read, none => .ok { r with awaiting := some (name, read) }
    -- A flag has no value.
    | _, some _ => .error .rejected

/-- The value that is left in a row of letters. -/
def attached : List Char → Option String
  | [] => none
  | '=' :: rest => some (String.ofList rest)
  | rest => some (String.ofList rest)

/-- Uses the options of a row of letters. -/
def takeLetters (choices : List (Choice σ)) : List Char → Reading σ → Except Stop (Reading σ)
  | [], r => .ok r
  | c :: rest, r =>
    match choices.find? fun choice => choice.letter == some c with
    | none => .error .rejected
    | some choice =>
      match choice.action with
      | .flag setting => r.add choice.name setting >>= takeLetters choices rest
      | .leave reason => .error reason
      | .value read =>
        -- All that is left belongs to this option.
        match attached rest with
        | some text => r.give choice.name read text
        | none => .ok { r with awaiting := some (choice.name, read) }

def take (choices : List (Choice σ)) (argument : String) (r : Reading σ) : Except Stop (Reading σ) :=
  if r.literal then r.fill argument
  else match r.awaiting, Word.ofArgument argument with
    | some (name, read), .plain text => { r with awaiting := none }.give name read text
    -- A value that looks like an option has to be attached.
    | some _, _ => .error .rejected
    | none, .plain text => r.fill text
    | none, .terminator => .ok { r with literal := true }
    | none, .long name value => r.takeLong choices name value
    | none, .short letters => r.takeLetters choices letters

/-- The settings at the end, where no option may be left without its value. -/
def close (r : Reading σ) : Except Stop (List σ) :=
  if r.awaiting.isSome then .error .rejected else .ok r.settings

def takeAll (choices : List (Choice σ)) (arguments : List String) (r : Reading σ) :
    Except Stop (List σ) :=
  arguments.foldlM (fun r argument => r.take choices argument) r >>= close

/-- Takes arguments up to the first word that neither is an option nor belongs to one.  Gives the settings so
far, that word and the arguments after it; there must be such a word. -/
def takeUntilWord (choices : List (Choice σ)) : List String → Reading σ →
    Except Stop (List σ × String × List String)
  | [], _ => .error .rejected
  | argument :: rest, r =>
    match r.literal, r.awaiting, Word.ofArgument argument with
    | false, none, .plain word => .ok (r.settings, word, rest)
    | _, _, _ => r.take choices argument >>= takeUntilWord choices rest

theorem take_literal {choices : List (Choice σ)} {argument : String} {r : Reading σ} (h : r.literal) :
    r.take choices argument = r.fill argument := by
  simp [take, h]

end Reading
end SectorCard.Console
