import SqlKit.Number.Decimal
import SqlKit.Number.Power

/-!
# Command lines

A command line is general switches, the name of a command, and the switches and words of that command. A
switch is long or a letter, several letters may share one argument, and a value follows its switch or is
joined to it. After `--` every argument is a word. A line is read from left to right, and the first thing
that ends the reading decides: a fault, or a request for help.
-/

namespace SqlKit.Cli

inductive Command where
  | migrate
  | rollback (steps : Nat)
  | reset
  | refresh
  | status (json : Bool)
  | sql (name : String) (reverse : Bool)
  | make (description : String)
deriving DecidableEq, Inhabited, Repr

structure Arguments where
  config : Option String := none
  path : String := "migrations"
  verbose : Bool := false
  command : Command
deriving DecidableEq, Inhabited, Repr

/-- Why a command line asks for no command. -/
inductive Stop where
  | help
  | version
  | fault
deriving DecidableEq, Inhabited, Repr

structure Switch where
  name : String
  letter : Option Char := none
  /-- The values that it takes, if it takes one. -/
  takes : Option (String → Bool) := none

inductive Item where
  | switch (s : Switch) (value : String)
  | word (w : String) (rest : List String)
  /-- A word behind `--`. -/
  | plain (w : String)
  | fault

/-- Whether an argument cannot be the value of a switch before it. -/
def isSwitch (arg : String) : Bool := arg.startsWith "-" && arg != "-"

/-- The switches that letters stand for, and the one that still needs its value. -/
def letters (known : List Switch) : List Char → List Item × Option Switch
  | [] => ([], none)
  | c :: cs =>
    match known.find? (·.letter == some c) with
    | none => ([.fault], none)
    | some s =>
      if s.takes.isNone then
        let (items, open?) := letters known cs
        (.switch s "" :: items, open?)
      else match cs with
        | [] => ([], some s)
        | '=' :: value => ([.switch s (String.ofList value)], none)
        | value => ([.switch s (String.ofList value)], none)

def long (known : List Switch) (text : List Char) : List Item × Option Switch :=
  let name := String.ofList (text.takeWhile (· != '='))
  match known.find? (·.name == name), text.dropWhile (· != '=') with
  | none, _ => ([.fault], none)
  | some s, [] => if s.takes.isSome then ([], some s) else ([.switch s ""], none)
  | some s, _ :: value => ([if s.takes.isSome then .switch s (String.ofList value) else .fault], none)

/-- The items of a command line, given the switch that waits for its value. -/
def items (known : List Switch) : Option Switch → List String → List Item
  | none, [] => []
  | some _, [] => [.fault]
  | some s, arg :: rest =>
    if isSwitch arg then [.fault] else .switch s arg :: items known none rest
  | none, arg :: rest =>
    match arg.toList with
    | ['-', '-'] => rest.map .plain
    | '-' :: '-' :: text =>
      let (found, open?) := long known text
      found ++ items known open? rest
    | '-' :: c :: cs =>
      let (found, open?) := letters known (c :: cs)
      found ++ items known open? rest
    | _ => .word arg rest :: items known none rest

structure Given where
  switches : List (String × String) := []
  words : List String := []
  rest : List String := []

namespace Given

def value? (g : Given) (name : String) : Option String := (g.switches.find? (·.1 == name)).map (·.2)

def has (g : Given) (name : String) : Bool := (g.value? name).isSome

def addSwitch (g : Given) (s : Switch) (value : String) : Except Stop Given :=
  if s.name = "help" then .error .help
  else if s.name = "version" then .error .version
  else if g.has s.name ∨ !((s.takes.map (· value)).getD true) then .error .fault
  else .ok { g with switches := g.switches ++ [(s.name, value)] }

end Given

def gatherGeneral : Given → List Item → Except Stop Given
  | g, [] => .ok g
  | g, .switch s value :: items => do gatherGeneral (← g.addSwitch s value) items
  | g, .word w rest :: _ => .ok { g with words := [w], rest }
  | _, _ => .error .fault

/-- Gathers switches and exactly as many words as there are to be. -/
def gather (words : Nat) : Given → List Item → Except Stop Given
  | g, [] => if g.words.length = words then .ok g else .error .fault
  | g, .switch s value :: items => do gather words (← g.addSwitch s value) items
  | g, .word w _ :: items | g, .plain w :: items =>
    if g.words.length < words then gather words { g with words := g.words ++ [w] } items
    else .error .fault
  | _, .fault :: _ => .error .fault

def helpSwitch : Switch := { name := "help", letter := some 'h' }

def isPath (value : String) : Bool := !value.isEmpty

def generalSwitches : List Switch :=
  [{ name := "config", letter := some 'c', takes := some isPath },
    { name := "path", letter := some 'p', takes := some isPath },
    { name := "verbose", letter := some 'v' }, helpSwitch, { name := "version", letter := some 'V' }]

def readCount? (s : String) : Option Nat := (Number.readNat? s.toList).filter (· < Number.pow2 64)

structure Shape where
  switches : List Switch := []
  words : Nat := 0
  command : Given → Command

def shapes : List (String × Shape) :=
  [("migrate", { command := fun _ => .migrate }),
    ("rollback", {
      switches := [{ name := "steps", letter := some 's', takes := some fun v => (readCount? v).isSome }]
      command := fun g => .rollback (((g.value? "steps").bind readCount?).getD 1) }),
    ("reset", { command := fun _ => .reset }),
    ("refresh", { command := fun _ => .refresh }),
    ("status", { switches := [{ name := "json" }], command := fun g => .status (g.has "json") }),
    ("sql", {
      switches := [{ name := "reverse", letter := some 'r' }]
      words := 1
      command := fun g => .sql (g.words.headD "") (g.has "reverse") }),
    ("make", { words := 1, command := fun g => .make (g.words.headD "") })]

/-- What a request for help names must be a command, if it names anything. -/
def helpStop (topics : List String) : Stop :=
  match topics with
  | [] => .help
  | [topic] => if topic = "help" ∨ (shapes.lookup topic).isSome then .help else .fault
  | _ => .fault

def Command.read (name : String) (args : List String) : Except Stop Command :=
  match shapes.lookup name with
  | some shape => do
    let given ← gather shape.words {} (items (helpSwitch :: shape.switches) none args)
    return shape.command given
  | none => .error (if name = "help" then helpStop args else .fault)

/-- Reads a command line. The file with the configuration may be known beforehand. -/
def Arguments.read (config : Option String) (args : List String) : Except Stop Arguments := do
  let given ← gatherGeneral {} (items generalSwitches none args)
  match given.words with
  | [name] =>
    let command ← Command.read name given.rest
    let config := given.value? "config" <|> config
    if config = some "" then throw .fault
    return { config, path := (given.value? "path").getD "migrations",
             verbose := given.has "verbose", command }
  | _ => .error .fault

end SqlKit.Cli
