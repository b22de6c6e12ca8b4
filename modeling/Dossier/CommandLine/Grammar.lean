/-!
# Reading arguments

Arguments are options and operands. An option has a long name after `--`, and may have a short one
after `-`; short ones may stand together. A value follows its option as the next argument, or after
`=`, or right after a short name. A next argument that looks like an option is no value. After `--`
all arguments are operands.
-/

set_option autoImplicit false

namespace Dossier.CommandLine

/-- Why arguments do not lead to a command. -/
inductive Halt where
  /-- They are not understood. -/
  | usage
  /-- They ask for help. -/
  | help
  /-- They ask for the version. -/
  | version
deriving DecidableEq, Repr

/-- What an option does to what was read so far. It gives none when it is not understood. -/
inductive Effect (σ : Type) where
  | flag (set : σ → Option σ)
  | value (set : String → σ → Option σ)
  | halt (h : Halt)

/-- An option by its names. -/
structure Switch (σ : Type) where
  long : String
  short : Option Char := none
  effect : Effect σ

/-- The options of a command, and what its operands do; reading stops at an operand otherwise. -/
structure Grammar (σ : Type) where
  switches : List (Switch σ)
  operand : Option (String → σ → Option σ) := none

/-- What was read, and an option that still waits for its value. -/
abbrev Pending (σ : Type) := σ × Option (String → σ → Option σ)

/-- The result, unless it is not understood. -/
def understood {α : Type} (x : Option α) : Except Halt α := (x.map Except.ok).getD (.error .usage)

/-- A value that may be given once. -/
def once {α : Type} (earlier : Option α) (new : Option α) : Option (Option α) :=
  if earlier.isSome then none else new.map some

/-- A flag that may be given once. -/
def onceSet (earlier : Bool) : Option Bool := if earlier then none else some true

namespace Grammar

variable {σ : Type}

/-- What the option with a long name does. -/
def ofLong? (g : Grammar σ) (name : String) : Option (Effect σ) :=
  (g.switches.find? (·.long == name)).map Switch.effect

/-- What the option with a short name does. -/
def ofShort? (g : Grammar σ) (c : Char) : Option (Effect σ) :=
  (g.switches.find? (·.short == some c)).map Switch.effect

/-- Short options that stand together, and a value that follows the last of them. -/
def cluster (g : Grammar σ) (s : σ) : List Char → Except Halt (Pending σ)
  | [] => .ok (s, none)
  | c :: cs =>
    match g.ofShort? c, cs with
    | none, _ => .error .usage
    | some (.halt h), _ => .error h
    | some (.flag set), _ =>
      match set s with
      | none => .error .usage
      | some s => g.cluster s cs
    | some (.value set), [] => .ok (s, some set)
    | some (.value set), '=' :: value =>
      (understood (set (String.ofList value) s)).map (·, none)
    | some (.value set), value => (understood (set (String.ofList value) s)).map (·, none)

/-- A long option, with the value after its `=` if there is one. -/
def long (g : Grammar σ) (s : σ) (name : String) (value : Option String) :
    Except Halt (Pending σ) :=
  match g.ofLong? name, value with
  | some (.halt h), none => .error h
  | some (.flag set), none => (understood (set s)).map (·, none)
  | some (.value set), none => .ok (s, some set)
  | some (.value set), some v => (understood (set v s)).map (·, none)
  | _, _ => .error .usage

/-- One argument that is an option. -/
def option (g : Grammar σ) (s : σ) (cs : List Char) : Except Halt (Pending σ) :=
  match cs with
  | '-' :: cs =>
    let name := String.ofList (cs.takeWhile (· != '='))
    match cs.dropWhile (· != '=') with
    | [] => g.long s name none
    | _ :: value => g.long s name (some (String.ofList value))
  | cs => g.cluster s cs

/-- What follows the dash of an argument that is an option, or of `--`. -/
def afterDash? (arg : String) : Option (List Char) :=
  match arg.toList with
  | '-' :: c :: cs => some (c :: cs)
  | _ => none

/-- What the arguments mean, and those at which reading stopped. -/
def read (g : Grammar σ) : Pending σ → List String → Except Halt (σ × List String)
  | (s, none), [] => .ok (s, [])
  | (_, some _), [] => .error .usage
  | (s, some set), arg :: rest =>
    match afterDash? arg, set arg s with
    | none, some s => g.read (s, none) rest
    | _, _ => .error .usage
  | (s, none), arg :: rest =>
    match afterDash? arg, g.operand with
    | some ['-'], some set => (understood (rest.foldlM (fun s x => set x s) s)).map (·, [])
    | some ['-'], none => if rest.isEmpty then .ok (s, []) else .error .usage
    | some cs, _ =>
      match g.option s cs with
      | .error h => .error h
      | .ok p => g.read p rest
    | none, some set =>
      match set arg s with
      | none => .error .usage
      | some s => g.read (s, none) rest
    | none, none => .ok (s, arg :: rest)

end Grammar
end Dossier.CommandLine
