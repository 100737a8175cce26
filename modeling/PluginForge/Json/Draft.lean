/-
JSON as it is read, before it is known which parts of it matter. A part that cannot be used (a text
with half a surrogate pair, a number beyond all bounds, a value nested too deeply) makes a document
unreadable only when something looks at it: unknown members may hold anything.

The second half holds the readers of records that the domain types are made from. A record is an
object, whose members come in any order, or an array with the members in the record's own order.
-/
import PluginForge.Json.Basic

namespace PluginForge

/-- A JSON value as read. The name of a member is absent where it cannot be used. -/
inductive Json.Draft where
  | null
  | bool (b : Bool)
  | int (n : Int)
  | double (negative : Bool) (size : Double)
  | str (s : String)
  | arr (items : List Draft)
  | obj (members : List (Option String × Draft))
  | unusable
deriving Repr, Inhabited

namespace Json.Draft

mutual

/-- The value that a draft stands for, when all of it can be used. Members are sorted by name. -/
def toJson? : Draft → Option Json
  | .null => some .null
  | .bool b => some (.bool b)
  | .int n => some (.int n)
  | .double negative size => some (.double negative size)
  | .str s => some (.str s)
  | .arr items => (itemsToJson? items).map .arr
  | .obj members => (membersToJson? members).map Json.sorted
  | .unusable => none

def itemsToJson? : List Draft → Option (List Json)
  | [] => some []
  | d :: rest => do
    let j ← d.toJson?
    let js ← itemsToJson? rest
    return j :: js

def membersToJson? : List (Option String × Draft) → Option (List (String × Json))
  | [] => some []
  | (k, d) :: rest => do
    let k ← k
    let j ← d.toJson?
    let js ← membersToJson? rest
    return (k, j) :: js

end

mutual

/-- A value as a draft. -/
def ofJson : Json → Draft
  | .null => .null
  | .bool b => .bool b
  | .int n => .int n
  | .double negative size => .double negative size
  | .str s => .str s
  | .arr items => .arr (ofItems items)
  | .obj members => .obj (ofMembers members)

def ofItems : List Json → List Draft
  | [] => []
  | j :: rest => ofJson j :: ofItems rest

def ofMembers : List (String × Json) → List (Option String × Draft)
  | [] => []
  | (k, j) :: rest => (some k, ofJson j) :: ofMembers rest

end

/-- Whether all of a draft can be used. -/
def usable (d : Draft) : Bool :=
  d.toJson?.isSome

/-! ## Simple values -/

def bool? : Draft → Option Bool
  | .bool b => some b
  | _ => none

def string? : Draft → Option String
  | .str s => some s
  | _ => none

/-- An integer that is not negative and below `limit`. -/
def natBelow? (limit : Nat) : Draft → Option Nat
  | .int n => if 0 ≤ n ∧ n < limit then some n.toNat else none
  | _ => none

def uint8? (d : Draft) : Option UInt8 :=
  (d.natBelow? UInt8.size).map .ofNat

def uint32? (d : Draft) : Option UInt32 :=
  (d.natBelow? UInt32.size).map .ofNat

def uint64? (d : Draft) : Option UInt64 :=
  (d.natBelow? UInt64.size).map .ofNat

/-- A value that may be `null`. -/
def option? {α : Type} (f : Draft → Option α) : Draft → Option (Option α)
  | .null => some none
  | d => (f d).map some

def list? {α : Type} (f : Draft → Option α) : Draft → Option (List α)
  | .arr items => items.mapM f
  | _ => none

/-! ## Names -/

/-- The name of a case that holds nothing: a text, or an object with that name as its one member,
whose value is then `empty`. -/
def caseName? (empty : Draft → Bool) : Draft → Option String
  | .str s => some s
  | .obj [(k, d)] => if empty d then k else none
  | _ => none

/-- The case among `names` that a value gives by its name or, counted from zero, by its number. -/
def caseOf? (names : List String) : Draft → Option String
  | .str s => if s ∈ names then some s else none
  | .int n => if 0 ≤ n then names[n.toNat]? else none
  | _ => none

def isNull : Draft → Bool
  | .null => true
  | _ => false

/-- As `isNull`, but an object without members will do as well. -/
def isNullOrEmpty : Draft → Bool
  | .null => true
  | .obj [] => true
  | _ => false

/-! ## Records -/

/-- The values of the members called `name`, in order. -/
def membersNamed (name : String) (members : List (Option String × Draft)) : List Draft :=
  (members.filter fun m => m.1 = some name).map (·.2)

/-- The value of a member that occurs at most once; `none` if it occurs twice. -/
def member? (members : List (Option String × Draft)) (name : String) : Option (Option Draft) :=
  match membersNamed name members with
  | [] => some none
  | [d] => some (some d)
  | _ => none

/-- The values of a record's members, in the order of `names`. A repeated member and a surplus item
are refused, and so is a member name that cannot be used. -/
def record? (names : List String) : Draft → Option (List (Option Draft))
  | .obj members =>
    if members.all fun m => m.1.isSome then names.mapM (member? members) else none
  | .arr items =>
    if items.length ≤ names.length then
      some (items.map some ++ List.replicate (names.length - items.length) none)
    else none
  | _ => none

/-- A member that must be there. -/
def required {α : Type} (f : Draft → Option α) (d : Option Draft) : Option α :=
  d.bind f

/-- A member with a value for when it is missing. -/
def optional {α : Type} (f : Draft → Option α) (default : α) : Option Draft → Option α
  | some d => f d
  | none => some default

end Json.Draft
end PluginForge
