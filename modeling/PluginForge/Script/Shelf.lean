/-
The compiled scripts, kept by name. The blanks around a name and its case make no difference; each
name is on the shelf at most once.
-/
import PluginForge.Text.Lowercase

namespace PluginForge.Script

/-- What a name is looked up by. -/
def key (name : String) : String :=
  Text.lowercase (Text.trim name)

/-- A compiled script: its name as it was first given, the hash of what it was compiled from, and
the code that runs it. -/
structure Entry (ρ : Type) where
  name : String
  contentHash : String
  code : ρ

/-- The compiled scripts by their keys. -/
structure Shelf (ρ : Type) where
  entries : List (String × Entry ρ)

namespace Shelf

variable {ρ : Type}

def empty : Shelf ρ := ⟨[]⟩

def find? (shelf : Shelf ρ) (name : String) : Option (Entry ρ) :=
  (shelf.entries.find? fun e => e.1 = key name).map (·.2)

def contains (shelf : Shelf ρ) (name : String) : Bool :=
  (shelf.find? name).isSome

def size (shelf : Shelf ρ) : Nat :=
  shelf.entries.length

def erase (shelf : Shelf ρ) (name : String) : Shelf ρ :=
  ⟨shelf.entries.filter fun e => e.1 ≠ key name⟩

/-- Puts an entry on the shelf in place of the one of its name. -/
def insert (shelf : Shelf ρ) (entry : Entry ρ) : Shelf ρ :=
  ⟨(key entry.name, entry) :: (shelf.erase entry.name).entries⟩

/-- Whether the script of a name was compiled from what has this hash. -/
def holds (shelf : Shelf ρ) (name hash : String) : Bool :=
  match shelf.find? name with
  | some e => e.contentHash = hash
  | none => false

/-- Takes one script off the shelf, or all of them; returns how many there were. -/
def clear (shelf : Shelf ρ) : Option String → Nat × Shelf ρ
  | some name => (if shelf.contains name then 1 else 0, shelf.erase name)
  | none => (shelf.size, empty)

end Shelf
end PluginForge.Script
