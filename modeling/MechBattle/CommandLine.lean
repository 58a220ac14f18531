/-
The commands for authors of rules.

* `Command` and `Invocation`: what can be asked for;
* `Invocation.ofArguments`: the invocation that arguments stand for;
* `Outcome`: what is printed, and the exit code, with `Outcome.lines` and
  `Outcome.errorLines`;
* `runCommand`: the outcome of arguments. Files are looked up through a
  function.
-/
import MechBattle.CommandLine.Arguments
import MechBattle.Document.Outline
import MechBattle.Probe
import MechBattle.Rules.Validation
import MechBattle.Text.Lines

namespace MechBattle

/-- What can be asked for. -/
inductive Command where
  /-- Checking a file of rules, or those in a folder. -/
  | validate (path : String)
  | fall (probe : FallProbe)
  | heat (probe : HeatProbe)
  | toHit (probe : ToHitProbe)

/-- A command and how to carry it out. -/
structure Invocation where
  command : Command
  /-- The file of the rules to use in place of the standard ones. -/
  rules : Option String := none
  /-- Printing results in JSON. -/
  json : Bool := false

/-! ### Commands from arguments -/

/-- What every command takes. -/
def commonForm : ArgumentForm where
  switches := ["--json"]
  options := [("--rules", fun path => !path.isEmpty)]

/-- A form with what every command takes. -/
def ArgumentForm.withCommon (form : ArgumentForm) : ArgumentForm :=
  { form with
    switches := commonForm.switches ++ form.switches
    options := commonForm.options ++ form.options }

/-- Where rules are looked for unless a path is given. -/
def defaultRulesPath : String := "assets/rules"

/-- The weapon of the shots that are tried. -/
def mediumLaser : Weapon where
  name := "Medium Laser"
  minRange := 0
  shortRange := 3
  mediumRange := 6
  longRange := 9
  damage := 5
  heat := 3

/-- A mode of movement as an argument. -/
def readMovement? (s : String) : Option MovementMode :=
  [("stationary", .stationary), ("walked", .walked), ("ran", .ran), ("jumped", .jumped)].lookup s

/-- Whether a reader accepts a value. -/
def reads {α : Type} (read? : String → Option α) (s : String) : Bool := (read? s).isSome

/-- A command by its name: what it takes, and what is made of that. -/
structure CommandForm where
  name : String
  form : ArgumentForm
  ofArguments? : Arguments → Option Command

/-- The value of an option, or what holds without it. -/
def Arguments.getD {α : Type} (a : Arguments) (name : String) (read? : String → Option α)
    (default : α) : Option α :=
  match a.value? name with
  | some s => read? s
  | none => some default

/-- Every command. -/
def commandForms : List CommandForm :=
  [{ name := "validate-rules"
     form := { words := [fun _ => true] }
     ofArguments? := fun a => some (.validate (a.words.headD defaultRulesPath)) },
   { name := "simulate-fall"
     form :=
       { switches := ["--jumping"]
         options :=
           [("--tonnage", reads readCount?), ("--levels", reads readCount?),
             ("--piloting", reads readCounter?), ("--seed", reads readWord?)] }
     ofArguments? := fun a => do
       let p : FallProbe := {}
       return .fall
         { tonnage := ← a.getD "--tonnage" readCount? p.tonnage
           levels := ← a.getD "--levels" readCount? p.levels
           jumping := a.has "--jumping"
           piloting := ← a.getD "--piloting" readCounter? p.piloting
           seed := ← a.getD "--seed" readWord? p.seed } },
   { name := "heat-check"
     form :=
       { switches := ["--unconscious"]
         options := [("--seed", reads readWord?)]
         words := [reads readCounter?] }
     ofArguments? := fun a => do
       let p : HeatProbe := { heat := ← readCounter? (← a.words.head?) }
       return .heat
         { p with
           unconscious := a.has "--unconscious"
           seed := ← a.getD "--seed" readWord? p.seed } },
   { name := "to-hit"
     form :=
       { options :=
           [("--gunnery", reads readCounter?), ("--movement", reads readMovement?),
             ("--target-moved", reads readCount?), ("--heat", reads readCounter?),
             ("--woods", reads readCount?)]
         words := [reads readCounter?] }
     ofArguments? := fun a => do
       let p : ToHitProbe :=
         { distance := ← readCounter? (← a.words.head?), weapon := mediumLaser }
       return .toHit
         { p with
           gunnery := ← a.getD "--gunnery" readCounter? p.gunnery
           movement := ← a.getD "--movement" readMovement? p.movement
           targetMoved := ← a.getD "--target-moved" readCount? p.targetMoved
           heat := ← a.getD "--heat" readCounter? p.heat
           lightWoods := ← a.getD "--woods" readCount? p.lightWoods } }]

/-- The command with a name. -/
def commandForm? (name : String) : Option CommandForm := commandForms.find? (·.name == name)

/-- The arguments in front of the name of a command, and those from there
on. An option in front is followed by its value. -/
def splitAtCommand : List String → List String × List String
  | [] => ([], [])
  | argument :: rest =>
    if argument == "--" then (argument :: rest, [])
    else if Arguments.isWord argument then ([], argument :: rest)
    else if (commonForm.options.lookup argument).isSome then
      match rest with
      | value :: rest =>
        let (front, back) := splitAtCommand rest
        (argument :: value :: front, back)
      | [] => ([argument], [])
    else
      let (front, back) := splitAtCommand rest
      (argument :: front, back)

/-- Asking for help about a command, or about all of them. -/
def helpUsage : List String → Usage
  | [] => .help
  | [name] => if name == "help" || (commandForm? name).isSome then .help else .wrong
  | _ => .wrong

/-- The invocation that arguments stand for. What every command takes may
stand in front of its name as well as behind; what is behind counts
more. -/
def Invocation.ofArguments (arguments : List String) : Except Usage Invocation := do
  let (front, back) := splitAtCommand arguments
  let given ← Arguments.scan commonForm {} front
  match back with
  | [] => .error .wrong
  | "help" :: rest => .error (helpUsage rest)
  | name :: rest =>
    match commandForm? name with
    | none => .error .wrong
    | some c =>
      let a ← Arguments.scan c.form.withCommon {} rest
      match c.ofArguments? a with
      | none => .error .wrong
      | some command =>
        .ok
          { command
            rules := (a.value? "--rules").orElse fun _ => given.value? "--rules"
            json := given.has "--json" || a.has "--json" }

/-! ### Outcomes -/

/-- What comes of a command. -/
structure Outcome where
  exitCode : Nat
  /-- The texts of the output, each with a line end behind it. -/
  output : List String
  /-- Messages about what went wrong, shown behind the output. -/
  errors : List String := []
  deriving DecidableEq, Repr

/-- The lines of a message as it is shown. -/
def messageLines (message : String) : List String := Lines.printed (Lines.shown message)

/-- The lines of the output, and behind them those of the messages in
which no message begins. -/
def Outcome.lines (o : Outcome) : List String :=
  o.output.flatMap Lines.printed ++ o.errors.flatMap fun message => (messageLines message).tail

/-- The lines in which a message begins. -/
def Outcome.errorLines (o : Outcome) : List String :=
  o.errors.flatMap fun message => (messageLines message).take 1

/-- How the commands are used. -/
def usageLines : List String :=
  ["Usage: mechbattle [--rules FILE] [--json] COMMAND",
   "",
   "Commands:",
   "  validate-rules [PATH]",
   "  simulate-fall [--tonnage N] [--levels N] [--jumping] [--piloting N] [--seed N]",
   "  heat-check HEAT [--unconscious] [--seed N]",
   "  to-hit DISTANCE [--gunnery N] [--movement MODE] [--target-moved N] [--heat N] [--woods N]"]

/-- The line for a file that was checked. -/
def FileCheck.line (c : FileCheck) : String :=
  match c.fault with
  | none => s!"ok    {c.path}"
  | some fault => s!"FAIL  {c.path}: {fault.message}"

/-- The outcome of checking files. There has to be one, and nothing wrong
with any. -/
def checksOutcome (checks : List FileCheck) : Outcome :=
  let output := checks.map FileCheck.line
  if !checks.isEmpty && checks.all FileCheck.passed then ⟨0, output, []⟩
  else ⟨1, output, ["Validation failed"]⟩

/-- The outcome of a probe. -/
def probeOutcome {α : Type} [Documented α] (json : Bool) (result : Except ProbeFault α) :
    Outcome :=
  match result with
  | .ok a => ⟨0, if json then (toDocument a).json else (toDocument a).outline, []⟩
  | .error fault => ⟨1, [], [fault.message]⟩

/-- The rules of an invocation. -/
def Invocation.loadRules {m : Type → Type} [Monad m] (look : FileLookup m) (i : Invocation) :
    m (Except RulesFault Rules) :=
  match i.rules with
  | some path => Rules.load look path
  | none => return .ok .standard

/-- The outcome of a probe under the rules of an invocation. -/
def Invocation.probe {m : Type → Type} [Monad m] {α : Type} [Documented α]
    (look : FileLookup m) (i : Invocation) (run : Rules → Except ProbeFault α) : m Outcome := do
  match ← i.loadRules look with
  | .error fault => return ⟨1, [], [fault.message]⟩
  | .ok rules => return probeOutcome i.json (run rules)

/-- The outcome of an invocation. -/
def Invocation.run {m : Type → Type} [Monad m] (look : FileLookup m) (i : Invocation) :
    m Outcome :=
  match i.command with
  | .validate path => return checksOutcome (← checkFiles look path)
  | .fall p => i.probe look (FallProbe.run · p)
  | .heat p => i.probe look (HeatProbe.run · p)
  | .toHit p => i.probe look (ToHitProbe.run · p)

/-- The outcome of arguments. -/
def runCommand {m : Type → Type} [Monad m] (look : FileLookup m) (arguments : List String) :
    m Outcome :=
  match Invocation.ofArguments arguments with
  | .error .help => return ⟨0, usageLines, []⟩
  | .error .wrong => return ⟨2, [], []⟩
  | .ok i => i.run look

end MechBattle
