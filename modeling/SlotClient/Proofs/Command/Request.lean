import Mathlib.Tactic.Common
import SlotClient.Command.Basic

/-!
# Commands as servers read them

A server takes the first argument of a command for its name, and each of the others for what stands
at its position: a key, a value, a number or an option. `Form` says what that is for the commands of
the store, and `Request.ofArguments?` sorts arguments by it. What it finds in the arguments of a
command is what the command was asked with.
-/

namespace SlotClient

/-- What an operand of a command stands for. -/
inductive Role where
  | key
  | value
  | number
  | option
  deriving DecidableEq, Repr

/-- What stands at the positions behind the name of a command: at the leading ones, all of which are
to be filled, and in turn at all that follow. -/
structure Form where
  leading : List Role
  repeated : List Role
  deriving DecidableEq, Repr

namespace Form

def documented : List (String × Form) := [
  ("SET", ⟨[.key, .value], [.option]⟩),
  ("GET", ⟨[.key], []⟩),
  ("GETEX", ⟨[.key], [.option]⟩),
  ("GETDEL", ⟨[.key], []⟩),
  ("MSET", ⟨[], [.key, .value]⟩),
  ("MGET", ⟨[], [.key]⟩),
  ("MSETNX", ⟨[], [.key, .value]⟩),
  ("INCR", ⟨[.key], []⟩),
  ("INCRBY", ⟨[.key, .number], []⟩),
  ("INCRBYFLOAT", ⟨[.key, .number], []⟩),
  ("DECR", ⟨[.key], []⟩),
  ("DECRBY", ⟨[.key, .number], []⟩),
  ("STRLEN", ⟨[.key], []⟩),
  ("SETRANGE", ⟨[.key, .number, .value], []⟩),
  ("GETRANGE", ⟨[.key, .number, .number], []⟩),
  ("APPEND", ⟨[.key, .value], []⟩),
  ("LCS", ⟨[.key, .key], [.option]⟩),
  ("PING", ⟨[], [.value]⟩),
  ("DEL", ⟨[], [.key]⟩),
  ("EXISTS", ⟨[], [.key]⟩),
  ("TTL", ⟨[.key], []⟩)]

/-- The form of the command with a name. -/
def ofName? (name : Bytes) : Option Form :=
  (documented.find? fun entry => Bytes.ofText entry.1 = name).map Prod.snd

/-- Gives operands the roles of their positions, of which the given ones come next. There must be
an operand for each of these, and a role for each operand. -/
def assign? (form : Form) : List Role → List Bytes → Option (List (Role × Bytes))
  | [], [] => some []
  | _ :: _, [] => none
  | role :: roles, operand :: operands =>
    (assign? form roles operands).map ((role, operand) :: ·)
  | [], operand :: operands =>
    match form.repeated with
    | [] => none
    | role :: roles => (assign? form roles operands).map ((role, operand) :: ·)

end Form

/-- The name of a command and what a server finds at the positions behind it. -/
structure Request where
  name : Bytes
  keys : List Bytes
  values : List Bytes
  numbers : List Bytes
  options : List Bytes
  deriving DecidableEq, Repr

namespace Request

/-- The operands in a role, in their order. -/
def inRole (role : Role) (assigned : List (Role × Bytes)) : List Bytes :=
  (assigned.filter (·.1 = role)).map Prod.snd

/-- Reads the arguments of a command by its form. -/
def ofArguments? : List Bytes → Option Request
  | [] => none
  | name :: operands => do
    let form ← Form.ofName? name
    let assigned ← form.assign? form.leading operands
    return {
      name
      keys := inRole .key assigned
      values := inRole .value assigned
      numbers := inRole .number assigned
      options := inRole .option assigned }

end Request

namespace Command

/-- The values that a command is asked with. -/
def values : Command → List Bytes
  | set _ value | setWith _ value _ | setRange _ _ value | append _ value => [value]
  | mset pairs | msetNx pairs => pairs.map Prod.snd
  | ping payload => payload.toList
  | _ => []

/-- The numbers that a command is asked with, as decimal texts. -/
def numbers : Command → List Bytes
  | incrBy _ amount | decrBy _ amount => [Decimal.signedDigits amount.toInt]
  | incrByFloat _ amount => [Decimal.shortestText amount]
  | setRange _ offset _ => [Decimal.signedDigits offset.toNat]
  | getRange _ first last => [first, last].map fun number => Decimal.signedDigits number.toInt
  | _ => []

/-- The options that a command is asked with, if the command accepts them. -/
def options : Command → Except Violation (List Bytes)
  | setWith _ _ options => options.arguments
  | getExWith _ options => options.arguments
  | lcsLength _ _ => .ok [Bytes.ofText "LEN"]
  | lcsMatches _ _ options => .ok options.arguments
  | _ => .ok []

end Command

namespace Form

theorem assign?_singles (leading : List Role) (role : Role) (operands : List Bytes) :
    assign? ⟨leading, [role]⟩ [] operands = some (operands.map fun operand => (role, operand)) := by
  induction operands with
  | nil => rfl
  | cons operand operands ih => simp only [assign?, ih, Option.map_some, List.map_cons]

theorem assign?_pairs (leading : List Role) (first second : Role) (pairs : List (Bytes × Bytes)) :
    assign? ⟨leading, [first, second]⟩ [] (Command.pairArguments pairs) =
      some (pairs.flatMap fun pair => [(first, pair.1), (second, pair.2)]) := by
  induction pairs with
  | nil => rfl
  | cons pair pairs ih =>
      rw [Command.pairArguments] at ih ⊢
      simp only [List.flatMap_cons, List.cons_append, List.nil_append, assign?, ih, Option.map_some]

end Form

namespace Request

theorem inRole_cons (role other : Role) (operand : Bytes) (assigned : List (Role × Bytes)) :
    inRole role ((other, operand) :: assigned) =
      if other = role then operand :: inRole role assigned else inRole role assigned := by
  by_cases same : other = role <;> simp [inRole, same]

theorem inRole_singles (role other : Role) (operands : List Bytes) :
    inRole role (operands.map fun operand => (other, operand)) =
      if other = role then operands else [] := by
  induction operands with
  | nil => simp [inRole]
  | cons operand operands ih =>
      rw [List.map_cons, inRole_cons, ih]
      split <;> rfl

theorem inRole_pairs {first second : Role} (different : first ≠ second)
    (pairs : List (Bytes × Bytes)) (role : Role) :
    inRole role (pairs.flatMap fun pair => [(first, pair.1), (second, pair.2)]) =
      if first = role then pairs.map Prod.fst
      else if second = role then pairs.map Prod.snd else [] := by
  induction pairs with
  | nil => simp [inRole]
  | cons pair pairs ih =>
      rw [List.flatMap_cons, List.cons_append, List.singleton_append, inRole_cons, inRole_cons, ih]
      by_cases isFirst : first = role
      · have notSecond : second ≠ role := fun same => different (isFirst.trans same.symm)
        simp only [if_pos isFirst, if_neg notSecond, List.map_cons]
      · by_cases isSecond : second = role
        · simp only [if_neg isFirst, if_pos isSecond, List.map_cons]
        · simp only [if_neg isFirst, if_neg isSecond]

end Request

namespace Command

/-- What a command is asked with, given its options as arguments. -/
def request (command : Command) (options : List Bytes) : Request where
  name := command.name
  keys := command.keys?.getD []
  values := command.values
  numbers := command.numbers
  options := options

/-- What is found in arguments whose operands have been given roles is what a command is asked with,
if it agrees with the keys, the values, the numbers and the options. -/
theorem ofArguments?_eq_request {command : Command} {form : Form}
    (known : Form.ofName? command.name = some form) {operands options : List Bytes}
    {assigned : List (Role × Bytes)}
    (filled : form.assign? form.leading operands = some assigned)
    (keys : Request.inRole .key assigned = command.keys?.getD [])
    (values : Request.inRole .value assigned = command.values)
    (numbers : Request.inRole .number assigned = command.numbers)
    (rendered : Request.inRole .option assigned = options) :
    Request.ofArguments? (command.name :: operands) = some (command.request options) := by
  rw [Request.ofArguments?, known]
  simp only [bind, Option.bind, filled, keys, values, numbers, rendered]
  rfl

/-- A server finds in the arguments of a command just what the command is asked with. -/
theorem ofArguments?_arguments {command : Command} {arguments : List Bytes}
    (acceptable : command.arguments = .ok arguments) :
    ∃ options, command.options = .ok options ∧
      Request.ofArguments? arguments = some (command.request options) := by
  cases command with
  | set | append | get | getEx | getDel | incr | decr | strlen | ttl | incrBy | decrBy | setRange
  | getRange | lcs =>
      cases acceptable
      exact ⟨[], rfl, rfl⟩
  | lcsLength =>
      cases acceptable
      exact ⟨[Bytes.ofText "LEN"], rfl, rfl⟩
  | ping payload =>
      cases acceptable
      exact ⟨[], rfl, by cases payload <;> rfl⟩
  | incrByFloat key amount =>
      rw [Command.arguments, operands] at acceptable
      split at acceptable
      · cases acceptable
        exact ⟨[], rfl, rfl⟩
      · cases acceptable
  | setWith key value options =>
      rw [Command.arguments, operands] at acceptable
      rcases rendered : options.arguments with violation | rest
      · rw [rendered] at acceptable
        cases acceptable
      · rw [rendered] at acceptable
        cases acceptable
        have filled : Form.assign? ⟨[.key, .value], [.option]⟩ [.key, .value]
            (key :: value :: rest) = some ((.key, key) :: (.value, value) ::
              rest.map fun operand => (.option, operand)) := by
          simp only [Form.assign?, Form.assign?_singles, Option.map_some]
        refine ⟨rest, rendered, ofArguments?_eq_request rfl filled ?_ ?_ ?_ ?_⟩ <;>
          simp [Request.inRole_cons, Request.inRole_singles, keys?, values, numbers]
  | getExWith key options =>
      rw [Command.arguments, operands] at acceptable
      rcases rendered : options.arguments with violation | rest
      · rw [rendered] at acceptable
        cases acceptable
      · rw [rendered] at acceptable
        cases acceptable
        have filled : Form.assign? ⟨[.key], [.option]⟩ [.key] (key :: rest) =
            some ((.key, key) :: rest.map fun operand => (.option, operand)) := by
          simp only [Form.assign?, Form.assign?_singles, Option.map_some]
        refine ⟨rest, rendered, ofArguments?_eq_request rfl filled ?_ ?_ ?_ ?_⟩ <;>
          simp [Request.inRole_cons, Request.inRole_singles, keys?, values, numbers]
  | lcsMatches key other options =>
      cases acceptable
      have filled : Form.assign? ⟨[.key, .key], [.option]⟩ [.key, .key]
          (key :: other :: options.arguments) = some ((.key, key) :: (.key, other) ::
            options.arguments.map fun operand => (.option, operand)) := by
        simp only [Form.assign?, Form.assign?_singles, Option.map_some]
      refine ⟨options.arguments, rfl, ofArguments?_eq_request rfl filled ?_ ?_ ?_ ?_⟩ <;>
        simp [Request.inRole_cons, Request.inRole_singles, keys?, values, numbers]
  | mset pairs | msetNx pairs =>
      cases acceptable
      refine ⟨[], rfl, ofArguments?_eq_request rfl (Form.assign?_pairs _ _ _ pairs) ?_ ?_ ?_ ?_⟩ <;>
        simp [Request.inRole_pairs, keys?, values, numbers]
  | mget keys | del keys | countExisting keys =>
      cases acceptable
      refine ⟨[], rfl, ofArguments?_eq_request rfl (Form.assign?_singles _ _ keys) ?_ ?_ ?_ ?_⟩ <;>
        simp [Request.inRole_singles, keys?, values, numbers]

end Command

end SlotClient
