import NearbyBeacons.Settings.Loose
import NearbyBeacons.Settings.ArrayIndex
/-!
# Layers of settings

Sources are laid over one another key by key. A key is a path: names joined by points,
with positions in brackets; a key that is no path is one name. Names are compared in
lower case. A table is merged into the table that is there, member by member, and any
other value replaces what is there.
-/

namespace NearbyBeacons

/-! ### Paths -/

/-- One step of a path. -/
inductive PathStep where
  | name (s : String)
  /-- A position, counted from the end when it is negative. -/
  | index (i : Int)
  deriving DecidableEq, Repr

namespace PathStep

/-- A character of a name in a path. -/
def isNameChar (c : Char) : Bool := c.isAlphanum || c == '_' || c == '-' || c == ' '

/-- A name, and what follows it. -/
def name? (cs : List Char) : Option (PathStep × List Char) :=
  match cs.takeWhile isNameChar with
  | [] => none
  | run => some (.name (String.ofList run), cs.dropWhile isNameChar)

/-- A blank that may stand around a position. -/
def isGap (c : Char) : Bool := c == ' ' || c == '\t'

/-- The position that `cs`, which follows an opening bracket, starts with, and what follows
the closing bracket. A position fits a signed word. -/
def index? (cs : List Char) : Option (PathStep × List Char) :=
  let cs := cs.dropWhile isGap
  let (negative, cs) := match cs with
    | '-' :: rest => (true, rest)
    | cs => (false, cs)
  match Decimal.nat? (cs.takeWhile Char.isDigit), (cs.dropWhile Char.isDigit).dropWhile isGap with
  | some n, ']' :: rest =>
    let i : Int := if negative then -n else n
    if Decimal.fitsSigned i then some (.index i, rest) else none
  | _, _ => none

/-- A step after the first, and what follows it. -/
def later? : List Char → Option (PathStep × List Char)
  | '.' :: rest => name? rest
  | '[' :: rest => index? rest
  | _ => none

/-- The steps that `cs` writes after the first one. -/
def laterSteps? (cs : List Char) : Option (List PathStep) :=
  if cs.isEmpty then some []
  else match later? cs with
    | some (step, rest) =>
      if rest.length < cs.length then (laterSteps? rest).map (step :: ·) else none
    | none => none
termination_by cs.length

/-- The steps of the path that a key writes; a key that writes none is a name itself. -/
def ofKey (key : String) : List PathStep :=
  let steps := do
    let (first, rest) ← name? key.toList
    some (first :: (← laterSteps? rest))
  steps.getD [.name key]

end PathStep

/-! ### Writing along a path -/

namespace Loose

/-- The members of a table, none for any other value. -/
def members : Loose → List (String × Loose)
  | table ms => ms
  | _ => []

/-- The items of an array, none for any other value. -/
def items : Loose → List Loose
  | array vs => vs
  | _ => []

/-- The member called `name`. -/
def member? (name : String) (v : Loose) : Option Loose := v.members.lookup name

/-- `ms` with the member `name` set to `v`. -/
def putMember (name : String) (v : Loose) : List (String × Loose) → List (String × Loose)
  | [] => [(name, v)]
  | (n, w) :: rest => if n = name then (n, v) :: rest else (n, w) :: putMember name v rest

/-- The table `t` with the member `name` set to `v`; a value that is no table is
dropped. -/
def put (name : String) (v t : Loose) : Loose := table (putMember name v t.members)

/-- The array `a` with `f` applied to the item at a position. The array is filled up with
nothing as far as needed. -/
def putAt (i : Int) (f : Loose → Except IndexFault Loose) (a : Loose) :
    Except IndexFault Loose := do
  let vs := a.items
  let n ← arrayIndex i vs.length
  let filled := vs ++ List.replicate (n + 1 - vs.length) nil
  return array (filled.set n (← f (filled.getD n nil)))

mutual

/-- `target` with the member `name` laid over by `v`. -/
def overlay (name : String) (v target : Loose) : Loose :=
  let key := Text.lowercaseText name
  match v with
  | table incoming => put key (overlayAll incoming ((target.member? key).getD (table []))) target
  | v => put key v target

/-- `target` with the given members laid over it in order. -/
def overlayAll : List (String × Loose) → Loose → Loose
  | [], target => target
  | (name, v) :: rest, target => overlayAll rest (overlay name v target)

end

/-- `v` with `f` applied to what a path leads to. Tables, arrays and members that are
missing on the way are made. -/
def updateAt (f : Loose → Except IndexFault Loose) :
    List PathStep → Loose → Except IndexFault Loose
  | [], v => f v
  | .name s :: rest, v => do
    let key := Text.lowercaseText s
    return put key (← updateAt f rest ((v.member? key).getD nil)) v
  | .index i :: rest, v => putAt i (updateAt f rest) v

/-- `root` with `v` laid over what a path leads to. -/
def assign (path : List PathStep) (v root : Loose) : Except IndexFault Loose :=
  match path.getLast? with
  | some (.name s) => updateAt (fun target => .ok (overlay s v target)) path.dropLast root
  | some (.index i) => updateAt (putAt i fun _ => .ok v) path.dropLast root
  | none => .ok root

/-- `root` with a source laid over it: a list of keys and values. -/
def layer (root : Loose) (source : List (String × Loose)) : Except IndexFault Loose :=
  source.foldlM (fun root (key, v) => assign (PathStep.ofKey key) v root) root

end Loose

/-! ### The environment -/

/-- The variables of the environment, by name. -/
abbrev Environment := List (String × String)

namespace Environment

/-- What the names of variables that hold settings start with, in lower case. -/
def namespaceOfSettings : List Char := "locator__".toList

/-- `cs` with a point in place of every pair of underscores. -/
def joinByPoints : List Char → List Char
  | '_' :: '_' :: rest => '.' :: joinByPoints rest
  | c :: rest => c :: joinByPoints rest
  | [] => []

/-- The key of the setting that a variable holds, unless it holds none. -/
def settingKey? (name : String) : Option String :=
  let cs := Text.lowercase name.toList
  if namespaceOfSettings.isPrefixOf cs then
    some (String.ofList (joinByPoints (cs.drop namespaceOfSettings.length)))
  else none

/-- The settings in the environment. -/
def settings (env : Environment) : List (String × Loose) :=
  env.filterMap fun (name, value) => (settingKey? name).map fun key => (key, .string value)

end Environment

end NearbyBeacons
