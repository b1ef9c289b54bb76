/-!
# Options

The arguments of a command are options and operands in any order. An option has a long name behind
two dashes and may have a letter behind one; it takes a value, the rest of the argument or the next
one, or is a flag that takes none. Letters of flags may stand together. Behind two dashes alone
everything is an operand, and a single dash is one. Commands of commands end at the first operand.

* `scan_operands`: arguments that are no options are operands.
-/
namespace Bearer.Cli

/-- An option. -/
structure Switch where
  /-- Its name, with the dashes. -/
  name : String
  /-- Its letter, if it has one. -/
  letter : Option Char := none
  /-- Whether it takes a value. -/
  takesValue : Bool
deriving DecidableEq, Repr

/-- What is wrong with arguments. -/
inductive OptionFault where
  /-- There is no such option. -/
  | unknown (name : String)
  /-- An option lacks its value. -/
  | noValue (name : String)
  /-- A flag has a value. -/
  | valueOfFlag (name : String)
deriving DecidableEq, Repr

/-- The options and operands among arguments. -/
structure Given where
  /-- The options with their values, in their order. -/
  values : List (String × String) := []
  /-- The flags. -/
  flags : List String := []
  /-- The operands, in their order. -/
  operands : List String := []
deriving DecidableEq, Repr

namespace Given

/-- One more option with its value. -/
def withValue (g : Given) (name value : String) : Given :=
  { g with values := g.values ++ [(name, value)] }

/-- One more flag. -/
def withFlag (g : Given) (name : String) : Given :=
  { g with flags := g.flags ++ [name] }

/-- More operands. -/
def withOperands (g : Given) (os : List String) : Given :=
  { g with operands := g.operands ++ os }

/-- All values of an option, in their order. -/
def all (g : Given) (name : String) : List String :=
  g.values.filterMap fun v => if v.1 = name then some v.2 else none

/-- The value of an option: the last one. -/
def last? (g : Given) (name : String) : Option String :=
  (g.all name).getLast?

/-- Whether a flag is there. -/
def has (g : Given) (name : String) : Bool :=
  g.flags.contains name

end Given

/-- Whether an argument is an option. -/
def isOption (arg : String) : Bool :=
  match arg.toList with
  | '-' :: _ :: _ => true
  | _ => false

/-- What an argument holds: all of it has been read, or the option of this name takes the next
argument as its value. -/
inductive Taken where
  | whole (g : Given)
  | waiting (g : Given) (name : String)

/-- Reads letters. -/
def readLetters (switches : List Switch) (g : Given) : List Char → Except OptionFault Taken
  | [] => .ok (.whole g)
  | c :: rest =>
    match switches.find? fun s => s.letter = some c with
    | none => .error (.unknown (String.ofList ['-', c]))
    | some s =>
      if s.takesValue then
        if rest.isEmpty then .ok (.waiting g s.name)
        else .ok (.whole (g.withValue s.name (String.ofList rest)))
      else readLetters switches (g.withFlag s.name) rest

/-- Reads a long name, and the value behind an equals sign. -/
def readName (s : Switch) (g : Given) (value : Option String) : Except OptionFault Taken :=
  match s.takesValue, value with
  | true, some v => .ok (.whole (g.withValue s.name v))
  | true, none => .ok (.waiting g s.name)
  | false, none => .ok (.whole (g.withFlag s.name))
  | false, some _ => .error (.valueOfFlag s.name)

/-- The name of a long option, and the value behind the first equals sign. -/
def cutValue (arg : List Char) : String × Option String :=
  match arg.dropWhile (· != '=') with
  | _ :: value => (String.ofList (arg.takeWhile (· != '=')), some (String.ofList value))
  | [] => (String.ofList arg, none)

/-- Reads an argument that is an option. -/
def readOption (switches : List Switch) (g : Given) (arg : String) : Except OptionFault Taken :=
  let (name, value) := cutValue arg.toList
  match switches.find? fun s => s.name = name with
  | some s => readName s g value
  | none =>
    if (arg.toList.take 2) = ['-', '-'] then .error (.unknown name)
    else readLetters switches g (arg.toList.drop 1)

/-- Reads arguments. `mixed`: whether options may stand behind operands. -/
def scan (switches : List Switch) (mixed : Bool) (g : Given) :
    List String → Except OptionFault Given
  | [] => .ok g
  | arg :: rest =>
    if arg = "--" then .ok (g.withOperands rest)
    else if isOption arg then
      match readOption switches g arg with
      | .error e => .error e
      | .ok (.whole g) => scan switches mixed g rest
      | .ok (.waiting g name) =>
        match rest with
        | [] => .error (.noValue name)
        | value :: rest => scan switches mixed (g.withValue name value) rest
    else if mixed then scan switches mixed (g.withOperands [arg]) rest
    else .ok (g.withOperands (arg :: rest))

theorem scan_operands (switches : List Switch) (mixed : Bool) (g : Given) (args : List String)
    (h : ∀ a ∈ args, isOption a = false) :
    scan switches mixed g args = .ok (g.withOperands args) := by
  induction args generalizing g with
  | nil => simp [scan, Given.withOperands]
  | cons a args ih =>
    have ha : isOption a = false := h a List.mem_cons_self
    have hd : a ≠ "--" := by rintro rfl; simp [isOption] at ha
    have hs := fun g => ih g fun b hb => h b (List.mem_cons_of_mem a hb)
    rw [scan, if_neg hd, if_neg (by simp [ha])]
    split
    · rw [hs]; simp [Given.withOperands]
    · rfl

end Bearer.Cli
