/-!
# Options and words

A command line is a sequence of options and words. Options have a long name, perhaps a short one, and
perhaps a value; short ones can be put together behind one dash.
-/

namespace MqttLink.Command

/-- What an option is good for. -/
inductive Use where
  /-- Stands for a value, which has to be acceptable. May be given once. -/
  | value (accepts : String → Bool)
  /-- Says yes. May be given once. -/
  | flag
  /-- May be given any number of times. -/
  | count
  | help
  | version

structure Opt where
  name : String
  short : Option Char := none
  use : Use

/-- Why reading ends early. -/
inductive Stop where
  | wrong
  | help
  | version
  deriving DecidableEq, Repr

/-- What has been read. An option is listed as often as it was given. -/
structure Found where
  values : List (String × String) := []
  flags : List String := []
  words : List String := []
  deriving DecidableEq, Repr

namespace Found

def value? (f : Found) (name : String) : Option String := f.values.lookup name

def count (f : Found) (name : String) : Nat := f.flags.count name

def has (f : Found) (name : String) : Bool := 0 < f.count name

end Found

/-- What a word is. -/
inductive WordRule where
  /-- The first word begins another command. -/
  | command
  /-- There may be any number of words. -/
  | any
  | atMost (n : Nat)

structure Grammar where
  options : List Opt
  words : WordRule

def WordRule.allows (count : Nat) : WordRule → Bool
  | command => count = 0
  | any => true
  | atMost n => count ≤ n

/-- Something that would be an option if it stood alone. -/
def isOption (s : String) : Bool := "-".isPrefixOf s && s != "-"

/-! ## One option -/

def giveValue (o : Opt) (accepts : String → Bool) (value : String) (f : Found) : Except Stop Found :=
  if (f.value? o.name).isSome ∨ !accepts value then .error .wrong
  else .ok { f with values := (o.name, value) :: f.values }

/-- An option that has no value. -/
def give (o : Opt) (f : Found) : Except Stop Found :=
  match o.use with
  | .value _ => .error .wrong
  | .flag => if f.has o.name then .error .wrong else .ok { f with flags := o.name :: f.flags }
  | .count => .ok { f with flags := o.name :: f.flags }
  | .help => .error .help
  | .version => .error .version

/-! ## Several -/

/-- What an argument with options leaves to do: nothing, or to find a value in the next argument. -/
inductive Pending where
  | nothing
  | value (o : Opt) (accepts : String → Bool)

/-- The options behind one dash. The first one that has a value takes all that follows. -/
def readShort (x : Grammar) : List Char → Found → Except Stop (Found × Pending)
  | [], f => .ok (f, .nothing)
  | c :: rest, f =>
    match x.options.find? (·.short == some c) with
    | none => .error .wrong
    | some o =>
      match o.use, rest with
      | .value accepts, [] => .ok (f, .value o accepts)
      | .value accepts, '=' :: value =>
        (giveValue o accepts (String.ofList value) f).map (·, .nothing)
      | .value accepts, value => (giveValue o accepts (String.ofList value) f).map (·, .nothing)
      | _, _ =>
        match give o f with
        | .error e => .error e
        | .ok f => readShort x rest f

/-- The option behind two dashes, perhaps with its value behind an equals sign. -/
def readLong (x : Grammar) (cs : List Char) (f : Found) : Except Stop (Found × Pending) :=
  let name := String.ofList (cs.takeWhile (· != '='))
  match x.options.find? (·.name == name) with
  | none => .error .wrong
  | some o =>
    match o.use, cs.dropWhile (· != '=') with
    | .value accepts, [] => .ok (f, .value o accepts)
    | .value accepts, _ :: value => (giveValue o accepts (String.ofList value) f).map (·, .nothing)
    | _, [] => (give o f).map (·, .nothing)
    | _, _ :: _ => .error .wrong

def addWords (x : Grammar) (words : List String) (f : Found) : Except Stop Found :=
  let words := f.words ++ words
  if x.words.allows words.length then .ok { f with words } else .error .wrong

/-- Reads up to the end, or up to the word that begins another command. Whatever is wrong ends it at
once, so that nobody looks at what follows. -/
def Grammar.read (x : Grammar) : List String → Found → Except Stop (Found × List String)
  | [], f => .ok (f, [])
  | arg :: rest, f =>
    if arg = "--" then (addWords x rest f).map (·, [])
    else if isOption arg then
      let cs := arg.toList.drop 1
      match if cs.head? = some '-' then readLong x (cs.drop 1) f else readShort x cs f with
      | .error e => .error e
      | .ok (f, .nothing) => x.read rest f
      | .ok (f, .value o accepts) =>
        match rest with
        | [] => .error .wrong
        | value :: rest =>
          if isOption value then .error .wrong
          else match giveValue o accepts value f with
            | .error e => .error e
            | .ok f => x.read rest f
    else match x.words with
      | .command => .ok (f, arg :: rest)
      | _ =>
        match addWords x [arg] f with
        | .error e => .error e
        | .ok f => x.read rest f

end MqttLink.Command
