/-!
Switches on a command line: words that begin with dashes, some of them with a value behind them.
The words are read from the left, and the first one that cannot be accepted decides.
-/

namespace TechniqueScan.CommandLine

/-- A switch that one level of a command line knows. -/
structure Switch where
  name : String
  /-- A letter that stands for the name. -/
  letter : Option Char := none
  takesValue : Bool := false
  /-- Which values it accepts. -/
  accepts : String → Bool := fun _ => true

/-- Why a command line asks for nothing to be done. -/
inductive Stop where
  | misuse
  | help
  | version
  deriving DecidableEq, Repr

/-- What has been given on one level. -/
structure Given where
  /-- The switches with their values; those without a value have the empty text. -/
  switches : List (String × String) := []
  /-- The words that are no switches, in their order. -/
  operands : List String := []
  deriving DecidableEq, Repr

namespace Given

/-- The value of a switch. -/
def value? (g : Given) (name : String) : Option String := g.switches.lookup name

/-- Whether a switch has been given. -/
def has (g : Given) (name : String) : Bool := (g.value? name).isSome

/-- One more switch. No switch is given twice, and some ask for something else to be done. -/
def add (g : Given) (s : Switch) (value : String) : Except Stop Given :=
  if g.has s.name || !s.accepts value then .error .misuse
  else if s.name = "help" then .error .help
  else if s.name = "version" then .error .version
  else .ok { g with switches := g.switches ++ [(s.name, value)] }

end Given

/-- A word for a switch: its name behind two dashes, and a value behind an equals sign. -/
def longWord? (word : String) : Option (String × Option String) :=
  match word.toList with
  | '-' :: '-' :: rest =>
    let name := String.ofList (rest.takeWhile (· ≠ '='))
    match rest.dropWhile (· ≠ '=') with
    | [] => some (name, none)
    | _ :: value => some (name, some (String.ofList value))
  | _ => none

/-- A word for several switches: their letters behind one dash. -/
def letters? (word : String) : Option (List Char) :=
  match word.toList with
  | '-' :: c :: rest => if c = '-' then none else some (c :: rest)
  | _ => none

/-- Whether a word can be the value of a switch in front of it. -/
def isValue (word : String) : Bool := (longWord? word).isNone && (letters? word).isNone

/-- What one level of a command line knows. -/
structure Level where
  switches : List Switch
  /-- What each of the words that are no switches may be, in their order. -/
  operands : List (String → Bool) := []
  /-- Which words begin a level of their own. -/
  opens : String → Bool := fun _ => false

namespace Level

/-- Switches given by their letters. None of them has a value. -/
def addLetters (l : Level) (g : Given) (letters : List Char) : Except Stop Given :=
  letters.foldlM (fun g c =>
    match l.switches.find? fun s => s.letter = some c with
    | some s => if s.takesValue then .error .misuse else g.add s ""
    | none => .error .misuse) g

/-- One more word that is no switch. -/
def addOperand (l : Level) (g : Given) (word : String) : Except Stop Given :=
  match l.operands[g.operands.length]? with
  | some accepts =>
    if accepts word then .ok { g with operands := g.operands ++ [word] } else .error .misuse
  | none => .error .misuse

/--
Reads words: switches, and operands as far as they are expected. What comes after a word that
begins another level is left unread. Behind two dashes alone, no word is a switch any more.
-/
def read (l : Level) : (g : Given) → List String → Except Stop (Given × List String)
  | g, [] => .ok (g, [])
  | g, word :: rest =>
    match longWord? word with
    | some ("", none) => do .ok (← rest.foldlM l.addOperand g, [])
    | some (name, attached) =>
      match l.switches.find? (fun s => s.name = name), attached with
      | none, _ => .error .misuse
      | some s, some value =>
        if s.takesValue then do l.read (← g.add s value) rest else .error .misuse
      | some s, none =>
        if s.takesValue then
          match rest with
          | value :: rest =>
            if isValue value then do l.read (← g.add s value) rest else .error .misuse
          | [] => .error .misuse
        else do l.read (← g.add s "") rest
    | none =>
      match letters? word with
      | some letters => do l.read (← l.addLetters g letters) rest
      | none =>
        if l.opens word then .ok ({ g with operands := g.operands ++ [word] }, rest)
        else do l.read (← l.addOperand g word) rest

end Level

end TechniqueScan.CommandLine
