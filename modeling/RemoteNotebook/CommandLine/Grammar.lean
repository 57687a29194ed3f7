/-!
The grammar of command lines. A level of a command line has options, which may stand anywhere, and
positional arguments; the top level ends where the word of a command begins the level of that
command. `readLevel` reads one level, argument by argument.
-/

namespace RemoteNotebook.CommandLine

inductive Opt where
  | endpoint
  | table
  | config
  | logLevel
  | title
  | content
  | yes
  | output
  deriving DecidableEq, Repr

namespace Opt

def long : Opt → String
  | endpoint => "endpoint"
  | table => "table"
  | config => "config"
  | logLevel => "log-level"
  | title => "title"
  | content => "content"
  | yes => "yes"
  | output => "output"

def short? : Opt → Option Char
  | yes => some 'y'
  | output => some 'o'
  | _ => none

def takesValue : Opt → Bool
  | yes => false
  | _ => true

/-- Paths of files cannot be empty. -/
def admits (o : Opt) (value : String) : Bool :=
  match o with
  | config => !value.isEmpty
  | output => !value.isEmpty
  | _ => true

def everywhere : List Opt := [endpoint, table, config, logLevel]

end Opt

/-- A level: its options besides those of every level, whether the word of a command ends it, which
positional arguments it takes and how many of them. -/
structure Level where
  own : List Opt := []
  isTop : Bool := false
  admits : String → Bool := fun _ => true
  most : Option Nat := some 0

namespace Level

def options (l : Level) : List Opt := Opt.everywhere ++ l.own

def long? (l : Level) (name : String) : Option Opt := l.options.find? (·.long = name)

def short? (l : Level) (c : Char) : Option Opt := l.options.find? (·.short? = some c)

def hasRoom (l : Level) (taken : Nat) : Bool := l.most.all (taken < ·)

end Level

inductive Stop where
  | misuse
  | help
  | version
  deriving DecidableEq, Repr

structure Taken where
  options : List (Opt × String) := []
  positionals : List String := []
  deriving Repr

namespace Taken

def value? (t : Taken) (o : Opt) : Option String := t.options.lookup o

/-- One more option. No option may come twice in a level. -/
def option (t : Taken) (o : Opt) (value : String) : Except Stop Taken :=
  if (t.value? o).isSome || !o.admits value then .error .misuse
  else .ok { t with options := t.options ++ [(o, value)] }

def positional (l : Level) (t : Taken) (value : String) : Except Stop Taken :=
  if l.hasRoom t.positionals.length && l.admits value then
    .ok { t with positionals := t.positionals ++ [value] }
  else .error .misuse

end Taken

inductive Argument where
  /-- Two dashes: no option comes after it. -/
  | dashes
  /-- A name after two dashes, with the value after an equals sign. -/
  | long (name : String) (value : Option String)
  /-- Letters after one dash. -/
  | short (letters : List Char)
  | plain (text : String)
  deriving DecidableEq, Repr

def Argument.ofString (s : String) : Argument :=
  match s.toList with
  | ['-', '-'] => .dashes
  | '-' :: '-' :: cs =>
    let name := String.ofList (cs.takeWhile (· != '='))
    match cs.dropWhile (· != '=') with
    | _ :: value => .long name (some (String.ofList value))
    | [] => .long name none
  | '-' :: c :: cs => .short (c :: cs)
  | _ => .plain s

def ownValue? (s : String) : Option String :=
  match Argument.ofString s with
  | .plain text => some text
  | _ => none

/-- What letters after a dash give: the options they set, and an option whose value is to come. -/
def readLetters (l : Level) (t : Taken) : List Char → Except Stop (Taken × Option Opt)
  | [] => .ok (t, none)
  | c :: cs =>
    match l.short? c with
    | none =>
      if c = 'h' then .error .help
      else if c = 'V' ∧ l.isTop then .error .version
      else .error .misuse
    | some o =>
      if o.takesValue then
        match cs with
        | [] => .ok (t, some o)
        | '=' :: value => (t.option o (String.ofList value)).map (·, none)
        | value => (t.option o (String.ofList value)).map (·, none)
      else do readLetters l (← t.option o "") cs

def readLong (l : Level) (t : Taken) (name : String) (value : Option String) :
    Except Stop (Taken × Option Opt) :=
  match l.long? name with
  | none =>
    if value.isSome then .error .misuse
    else if name = "help" then .error .help
    else if name = "version" ∧ l.isTop then .error .version
    else .error .misuse
  | some o =>
    match value with
    | some v => if o.takesValue then (t.option o v).map (·, none) else .error .misuse
    | none => if o.takesValue then .ok (t, some o) else (t.option o "").map (·, none)

def readPositionals (l : Level) : Taken → List String → Except Stop Taken
  | t, [] => .ok t
  | t, a :: as => do readPositionals l (← t.positional l a) as

abbrev LevelEnd := Taken × Option (String × List String)

/-- Reads a level, from what was taken in it before and the option whose value is to come. -/
def readLevel (l : Level) : Taken × Option Opt → List String → Except Stop LevelEnd
  | (t, none), [] => .ok (t, none)
  | (_, some _), [] => .error .misuse
  | (t, some o), v :: as => do
    match ownValue? v with
    | some value => readLevel l (← t.option o value, none) as
    | none => .error .misuse
  | (t, none), a :: as =>
    match Argument.ofString a with
    | .dashes => (readPositionals l t as).map (·, none)
    | .long name value => do readLevel l (← readLong l t name value) as
    | .short letters => do readLevel l (← readLetters l t letters) as
    | .plain text =>
      if l.isTop then .ok (t, some (text, as))
      else do readLevel l (← t.positional l text, none) as

end RemoteNotebook.CommandLine
