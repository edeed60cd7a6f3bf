import SceneCourse.Command.Arguments
import SceneCourse.Course.File
import SceneCourse.DryRun.Report
import SceneCourse.Session.Running
import SceneCourse.Settings.Environment
import SceneCourse.Terminal.Layout

/-!
The commands: `analyze` explores all paths of a course, `play` runs it with events from the command
line, `info` lists its scenes. A wrong command line ends with code 2, any other fault with code 1.
What has been printed before a fault stays printed.
-/

namespace SceneCourse.Command

/-- What a command line asks for. -/
inductive Job where
  | analyze (path : String) (asJson : Bool) (maxPaths : Option Int)
  | play (path : String) (events : List String) (scene : Option String) (debug : Bool)
  | info (path : String)

/-! ### Command lines -/

def helpChoice : Choice := ⟨"help", ["--help"], false⟩

/-- The options before the name of a command. -/
def globalChoices : List Choice := [⟨"verbose", ["--verbose", "-v"], false⟩, helpChoice]

/-- The options of a command; none if there is no such command. -/
def choicesOf? : String → Option (List Choice)
  | "analyze" =>
    some [⟨"json", ["--json"], false⟩, ⟨"max-paths", ["--max-paths"], true⟩, helpChoice]
  | "play" => some [⟨"event", ["--event", "-e"], true⟩, ⟨"scene", ["--scene", "-s"], true⟩,
      ⟨"debug", ["--debug"], false⟩, helpChoice]
  | "info" => some [helpChoice]
  | _ => none

/-- What the arguments of a command ask for; none if they do not fit it. -/
def Job.ofArguments? (name : String) (a : Arguments) : Option Job :=
  match a.others with
  | [path] =>
    match name with
    | "analyze" =>
      match a.value? "max-paths" with
      | none => some (.analyze path (a.has "json") none)
      | some text =>
        (Numeral.integer text).toOption.map fun n => .analyze path (a.has "json") (some n)
    | "play" => some (.play path (a.values "event") (a.value? "scene") (a.has "debug"))
    | "info" => some (.info path)
    | _ => none
  | _ => none

/-! ### Outcomes -/

/-- What a run of the program comes to: its code, the lines that it prints, and the fault that it
ends with unless the fault is one that it reports. -/
structure Outcome where
  code : Nat
  lines : List String := []
  fault : Option Fault := none

namespace Outcome

def wrongUsage : Outcome := { code := 2 }

def failed (lines : List String) (e : Fault) : Outcome := { code := 1, lines, fault := some e }

/-- The end with a fault that is reported in the last lines. -/
def reported (lines : List String) (e : Fault) : Outcome :=
  match Terminal.printed s!"[red]Error:[/red] {e.message}" with
  | .ok more => { code := 1, lines := lines ++ more }
  | .error e => failed lines e

/-- What a fault comes to. -/
def ofFault (lines : List String) (e : Fault) : Outcome :=
  match e with
  | .badEventText _ => { wrongUsage with lines }
  | e => if e.isCourseFault then reported lines e else failed lines e

end Outcome

/-! ### Playing -/

/-- The lines printed so far. -/
abbrev Printout := List String

abbrev Playing := Step (Session Printout)

def say (lines : List String) : Playing Unit :=
  Step.update fun s => { s with host := s.host ++ lines }

/-- Prints a text with tags. -/
def sayMarkup (markup : String) : Playing Unit := do say (← Step.ofExcept (Terminal.printed markup))

/-- The host that prints scenes and what is presented. -/
def printer : Host Printout where
  onScene := some fun _ id => sayMarkup s!"[cyan]-> scene[/cyan] {id}"
  onState := none
  onUi := some fun _ r => sayMarkup s!"[magenta]{r.kind.name}:[/magenta] {r.text}"
  onEvent := fun _ _ _ => Step.pure ()

/-- The state as JSON text, with all keys as texts. -/
def stateText (state : Value) : Except Fault String := do
  let line ← Json.text (.line true) state
  return Json.print (.lines false 2) ((Json.parse .documents line).toOption.getD state)

/-- The log as a table. -/
def logTable (entries : List LogEntry) : Terminal.Table where
  title := "Runtime Log"
  header := ["Level", "Category", "Message"]
  rows := entries.map fun e => [e.level.name, e.category.name, e.message]

/-- Starts a course and emits events. -/
def runEvents (course : Course) (scene : Option String) (events : List Event) : Playing Unit := do
  let emit := Session.emit printer Session.usualNesting
  Session.loadCourse course
  Session.start printer emit scene .null
  Step.each (fun e => do
    sayMarkup s!"[dim]emit {e.shown}[/dim]"
    emit e) events

/-- Prints what a run has come to. -/
def sayResult (course : Course) (events : List Event) (debug : Bool) : Playing Unit := do
  let s ← Step.current
  let scene := s.scene.getD "None"
  say (← Step.ofExcept (Terminal.panel s!"{course.about.id} v{course.about.version}"
    s!"[bold]Final Scene:[/bold] {scene}\n[bold]Events Emitted:[/bold] {events.length}"))
  say [← Step.ofExcept (stateText s.store.root)]
  if debug then say (← Step.ofExcept (logTable s.log.entries).lines)

def playCourse (settings : Settings) (course : Course) (specs : List String) (scene : Option String)
    (debug : Bool) : Outcome :=
  let prepared : Except Fault (List Event × RunLog) := do
    let events ← specs.mapM Event.ofSpec
    return (events, ← (if debug then { settings with debug := .bool true } else settings).log)
  match prepared with
  | .error e => .ofFault [] e
  | .ok (events, log) =>
    let steps : Playing Unit := do
      runEvents course scene events
      sayResult course events debug
    match steps (Session.fresh settings.limits log []) with
    | (.done (), s) => { code := 0, lines := s.host }
    | (.failed e, s) => .ofFault s.host e
    | (.unfinished, s) => .failed s.host .tooDeep

/-! ### Other commands -/

/-- The limit that a command line gives, or else the settings; nothing and zero give none. -/
def pathLimit (settings : Settings) (maxPaths : Option Int) : Int :=
  match maxPaths, settings.maxDryRunPaths with
  | some 0, .int n | none, .int n => n
  | some n, _ => n
  | none, _ => DryRun.defaultLimit

def analyzeCourse (settings : Settings) (course : Course) (asJson : Bool) (maxPaths : Option Int) :
    Outcome :=
  let run := course.dryRun (pathLimit settings maxPaths)
  { code := 0
    lines := if asJson then [Json.print (.lines false 2) run.value]
      else Terminal.printedPlain run.report }

/-- The scenes of a course as a table. -/
def sceneTable (course : Course) : Terminal.Table where
  title := s!"{course.about.id} v{course.about.version} (start: {course.start})"
  header := ["Scene", "Nodes", "Triggers", "Vars"]
  rows := course.scenes.map fun s =>
    let names := ", ".intercalate (s.vars.map (·.1))
    [s.id, toString s.nodes.length, toString s.triggers.length, if names == "" then "-" else names]

def describeCourse (course : Course) : Outcome :=
  match (sceneTable course).lines with
  | .ok lines => { code := 0, lines }
  | .error e => .failed [] e

/-! ### The program -/

def Job.path : Job → String
  | analyze path _ _ => path
  | play path _ _ _ => path
  | info path => path

/-- What a job comes to, with what its path leads to. -/
def Job.run (job : Job) (settings : Settings) (stored : Stored) : Outcome :=
  match Course.ofFile job.path stored with
  | .error e => .ofFault [] e
  | .ok course =>
    match job with
    | .analyze _ asJson maxPaths => analyzeCourse settings course asJson maxPaths
    | .play _ events scene debug => playCourse settings course events scene debug
    | .info _ => describeCourse course

def usage : List String := [
  "Usage: coursekit [--verbose] COMMAND",
  "  analyze COURSE_PATH [--json] [--max-paths N]",
  "  play COURSE_PATH [--event TYPE:TARGET]... [--scene ID] [--debug]",
  "  info COURSE_PATH"]

/-- What a command line comes to before any course is read: an outcome, or a job with its
settings. -/
inductive Plan where
  | ended (outcome : Outcome)
  | start (job : Job) (settings : Settings)

/-- The settings of an environment, which must name a threshold that there is. -/
def checkedSettings (env : EnvFile.Variables) (verbose : Bool) : Except Fault Settings := do
  let settings ← Settings.ofEnvironment env
  let _ ← settings.stream verbose false
  return settings

/-- The plan for a command by its own arguments. -/
def planJob (settings : Settings) (choices : List Choice) (name : String) (args : List String) :
    Plan :=
  match Arguments.parse? choices true args with
  | none => .ended .wrongUsage
  | some a =>
    if a.has "help" then .ended { code := 0, lines := usage }
    else match Job.ofArguments? name a with
      | none => .ended .wrongUsage
      | some job => .start job settings

/-- The plan for a command line. The settings are read before the command's own arguments are looked
at. -/
def plan (env : EnvFile.Variables) (args : List String) : Plan :=
  match Arguments.parse? globalChoices false args with
  | none => .ended .wrongUsage
  | some all =>
    if all.has "help" then .ended { code := 0, lines := usage }
    else match all.others with
      | [] => .ended .wrongUsage
      | name :: args =>
        match choicesOf? name, checkedSettings env (all.has "verbose") with
        | none, _ => .ended .wrongUsage
        | some _, .error e => .ended (.failed [] e)
        | some choices, .ok settings => planJob settings choices name args

/-- A run of the program, where `stored` says what paths lead to. -/
def run (stored : String → Stored) (env : EnvFile.Variables) (args : List String) : Outcome :=
  match plan env args with
  | .ended outcome => outcome
  | .start job settings => job.run settings (stored job.path)

end SceneCourse.Command
