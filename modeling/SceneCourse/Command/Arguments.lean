/-!
Arguments of a command line. An argument that starts with a dash names an option, or several of one
letter each; an option's value follows it, attached or as the next argument. Two dashes alone end
the options.
-/

namespace SceneCourse.Command

/-- An option: the name that it is known by, its other names, and whether it takes a value. -/
structure Choice where
  name : String
  names : List String
  takesValue : Bool

/-- What arguments say: the options in order, flags with an empty value, and the arguments that are
no options. -/
structure Arguments where
  options : List (String × String) := []
  others : List String := []

namespace Arguments

def addOther (arg : String) (a : Arguments) : Arguments := { a with others := arg :: a.others }

/-- The values of an option, in order. -/
def values (a : Arguments) (name : String) : List String :=
  (a.options.filter fun (n, _) => n == name).map fun (_, v) => v

/-- The value of an option, the last one if it is given several times. -/
def value? (a : Arguments) (name : String) : Option String := (a.values name).getLast?

def has (a : Arguments) (name : String) : Bool := !(a.values name).isEmpty

end Arguments

def findChoice (choices : List Choice) (name : String) : Option Choice :=
  choices.find? (·.names.contains name)

/-- The part of an argument before its first equals sign, and the part after it if there is one. -/
def splitValue (arg : String) : String × Option String :=
  let cs := arg.toList
  (.ofList (cs.takeWhile (· != '=')), match cs.dropWhile (· != '=') with
    | _ :: value => some (.ofList value)
    | [] => none)

/-- Options of one letter in one argument. The first one that takes a value takes the rest of the
argument, or the next argument if nothing is left. Gives the options and the arguments that
remain. -/
def letters (choices : List Choice) (args : List String) :
    List Char → Option (List (String × String) × List String)
  | [] => some ([], args)
  | c :: cs =>
    match findChoice choices (.ofList ['-', c]) with
    | none => none
    | some choice =>
      if choice.takesValue then
        match cs, args with
        | [], [] => none
        | [], value :: args => some ([(choice.name, value)], args)
        | cs, args => some ([(choice.name, .ofList cs)], args)
      else (letters choices args cs).map fun (found, args) => ((choice.name, "") :: found, args)

/-- The options that an argument with a dash stands for, and the arguments that remain. -/
def optionsAt (choices : List Choice) (arg : String) (args : List String) :
    Option (List (String × String) × List String) :=
  let (name, attached) := splitValue arg
  match findChoice choices name with
  | some choice =>
    if name.length > 2 then
      match choice.takesValue, attached, args with
      | true, some value, args => some ([(choice.name, value)], args)
      | true, none, value :: args => some ([(choice.name, value)], args)
      | true, none, [] => none
      | false, none, args => some ([(choice.name, "")], args)
      | false, some _, _ => none
    else letters choices args (arg.toList.drop 1)
  | none => if arg.startsWith "--" then none else letters choices args (arg.toList.drop 1)

/-- What arguments say; none if they name unknown options or leave out a value. Where `mixed` is
false, the first argument that is no option ends the options. -/
def Arguments.read (choices : List Choice) (mixed : Bool) : Nat → List String → Option Arguments
  | 0, args => some { others := args }
  | fuel + 1, args =>
    match args with
    | [] => some {}
    | "--" :: args => some { others := args }
    | arg :: args =>
      if arg.startsWith "-" && arg != "-" then
        match optionsAt choices arg args with
        | none => none
        | some (found, args) =>
          (read choices mixed fuel args).map fun a => { a with options := found ++ a.options }
      else if mixed then (read choices mixed fuel args).map (·.addOther arg)
      else some { others := arg :: args }

/-- What arguments say. Every step takes one of them at least. -/
def Arguments.parse? (choices : List Choice) (mixed : Bool) (args : List String) :
    Option Arguments :=
  read choices mixed (args.length + 1) args

end SceneCourse.Command
