import Bindery.Files.Path
/-!
File stores. A store holds the directories and files of a machine, each at the place that the names
from the root lead to. A path leads to a place only through directories that exist, from the root or
from the working directory; there are no links. Making a directory makes those on the way to it, and
writing a file does not. When a directory cannot be made, those on the way that could be made stay; a
file that cannot be written stays as it was.
-/

namespace Bindery

/-- Where something is, by the names that lead to it from the root. -/
abbrev Place := List String

/-- What is at a place. -/
inductive Node where
  | directory
  | file (text : String)
deriving DecidableEq, Repr

/-- What there is at places. Each place is kept with its depth in front, so that places of different
depth are told apart before any names are compared. -/
abbrev Nodes := List ((Nat × Place) × Node)

/-- What a machine says about files that does not change while a program runs. -/
structure Machine where
  /-- The directory, which is taken to be there, where the paths begin that do not begin at the root. -/
  workingDirectory : Place := []
  /-- The length of the longest path in bytes. -/
  maxPathLength : Nat := 4095
  /-- Whether one cannot get at a place, for want of permission: neither look at what is there nor pass
  through it. -/
  closed : Place → Bool := fun _ => false
  /-- Whether something cannot be put at a place, for want of permission or of room beside what there
  is. -/
  refuses : Nodes → Place → Node → Bool := fun _ _ _ => false
deriving Inhabited

/-- Directories and files of a machine. -/
structure FileStore where
  machine : Machine := {}
  nodes : Nodes := []
deriving Inhabited

/-- Where a path leads. -/
inductive Target where
  | directory
  | file (place : Place) (text : String)
  /-- Nothing is there, but the directory for it is. -/
  | vacant (place : Place)
  /-- A device that reads as empty and keeps nothing that is written to it. -/
  | sink
  /-- The way to it does not exist or is closed, or nothing can have its name. -/
  | unreachable
deriving DecidableEq, Repr

namespace FileStore

/-- The store without files. -/
def empty : FileStore := {}

/-- What a place is kept by. -/
def key (place : Place) : Nat × Place := (place.length, place)

theorem key_inj {place other : Place} : key place = key other ↔ place = other :=
  ⟨fun h => congrArg Prod.snd h, fun h => h ▸ rfl⟩

/-- What is at a place. The root is a directory. -/
def get? (s : FileStore) : Place → Option Node
  | [] => some .directory
  | place => s.nodes.lookup (key place)

/-- Put a node at a place. -/
def set (s : FileStore) (place : Place) (node : Node) : FileStore :=
  { s with nodes := (key place, node) :: s.nodes.filter fun n => n.1 ≠ key place }

theorem lookup_filter_ne {place other : Place} (h : other ≠ place) :
    ∀ nodes : Nodes,
      (nodes.filter fun n => n.1 ≠ key place).lookup (key other) = nodes.lookup (key other)
  | [] => rfl
  | (k, node) :: nodes => by
    have ih := lookup_filter_ne h nodes
    by_cases hk : k = key place
    · have hne : (key other == k) = false := beq_false_of_ne fun e => h (key_inj.1 (e.trans hk))
      rw [List.filter_cons_of_neg (by simp [hk]), ih, List.lookup_cons, hne]
    · rw [List.filter_cons_of_pos (by simp [hk]), List.lookup_cons, List.lookup_cons, ih]

/-- Putting a node somewhere changes what is at that place only. -/
theorem get?_set (s : FileStore) {place : Place} (hp : place ≠ []) (node : Node) (other : Place) :
    (s.set place node).get? other = if other = place then some node else s.get? other := by
  cases other with
  | nil => simp [get?, hp.symm]
  | cons a rest =>
    by_cases h : a :: rest = place
    · simp [get?, set, h]
    · have hne : (key (a :: rest) == key place) = false := beq_false_of_ne fun e => h (key_inj.1 e)
      rw [if_neg h, get?, get?, set, List.lookup_cons, hne, lookup_filter_ne h]
      · simp
      · simp

/-- Take away what is at a place. -/
def remove (s : FileStore) (place : Place) : FileStore :=
  { s with nodes := s.nodes.filter fun n => n.1 ≠ key place }

/-- The files, with their texts. -/
def files (s : FileStore) : List (Place × String) :=
  s.nodes.filterMap fun
    | ((_, place), .file text) => some (place, text)
    | _ => none

/-! ### Where paths lead -/

/-- Whether a path can be used at all: it is not too long and has no NUL in it. -/
def admits (s : FileStore) (p : Path) : Bool :=
  p.text.utf8ByteSize ≤ s.machine.maxPathLength && !p.text.toList.any fun c => c.toNat = 0

/-- The longest name in bytes. -/
def maxNameLength : Nat := 255

/-- Whether something can have this name. -/
def isName (name : String) : Bool := name.utf8ByteSize ≤ maxNameLength

/-- The place of the device that every machine has for what is not to be kept. -/
def nullDevice : Place := ["dev", "null"]

/-- Whether one can get at what a name stands for in the directory `here`. -/
def isOpen (s : FileStore) (here : Place) (name : String) : Bool :=
  isName name && !s.machine.closed (here ++ [name])

/-- What a path leads to that ends at a place. -/
def targetAt (s : FileStore) (place : Place) : Target :=
  match s.get? place with
  | some .directory => .directory
  | some (.file text) => .file place text
  | none => .vacant place

/-- What a name leads to in the directory `here`. -/
def look (s : FileStore) (here : Place) (name : String) : Target :=
  if !s.isOpen here name then .unreachable
  else if here ++ [name] = nullDevice then .sink
  else s.targetAt (here ++ [name])

/-- Where the segments of a path lead from the directory `here`. The root is above itself. -/
def follow (s : FileStore) (here : Place) : List String → Target
  | [] => .directory
  | segment :: rest =>
    if Path.isIdle segment then s.follow here rest
    else if segment = ".." then s.follow here.dropLast rest
    else match s.look here segment with
      | .directory => s.follow (here ++ [segment]) rest
      | found => if rest.isEmpty then found else .unreachable

/-- Where a path begins. -/
def start (s : FileStore) (p : Path) : Place :=
  if p.isFromRoot then [] else s.machine.workingDirectory

/-- Where a path leads. -/
def target (s : FileStore) (p : Path) : Target :=
  if s.admits p then s.follow (s.start p) p.segments else .unreachable

/-- Whether something cannot be put at a place as the store is now. -/
def refuses (s : FileStore) (place : Place) (node : Node) : Bool :=
  s.machine.refuses s.nodes place node

/-! ### Making directories -/

/-- Make the directories that the segments of a path name, from `here` on, up to the first that cannot
be made, and tell whether all are there. A `.` at the end stands for a directory that is there
already, so the last name in front of it makes none. -/
def makeFrom (s : FileStore) (here : Place) : List String → Bool × FileStore
  | [] => (true, s)
  | segment :: rest =>
    if Path.isIdle segment then s.makeFrom here rest
    else if segment = ".." then s.makeFrom here.dropLast rest
    else match s.look here segment with
      | .directory => s.makeFrom (here ++ [segment]) rest
      | .vacant place =>
        if Path.isDotTail rest || s.refuses place .directory then (false, s)
        else (s.set place .directory).makeFrom place rest
      | _ => (false, s)

/-- Make a directory and those on the way to it, if they are not there yet, and tell whether it is
there now. -/
def makeDirectory (s : FileStore) (p : Path) : Bool × FileStore :=
  if s.admits p then s.makeFrom (s.start p) p.segments else (false, s)

/-! ### Reading and writing -/

/-- The text of a file. -/
def read? (s : FileStore) (p : Path) : Option String :=
  match s.target p with
  | .file _ text => some text
  | .sink => some ""
  | _ => none

/-- Whether a file holds a text. One that is not there holds none; there is no answer where no file can
be. -/
def holds? (s : FileStore) (p : Path) (text : String) : Option Bool :=
  match s.target p with
  | .file _ old => some (old = text)
  | .vacant _ => some false
  | .sink => some (text = "")
  | .directory | .unreachable => none

/-- Put a file with a text at a place, unless it is refused there. -/
def putAt (s : FileStore) (place : Place) (text : String) : Bool × FileStore :=
  if s.refuses place (.file text) then (false, s) else (true, s.set place (.file text))

/-- Put a text into a file, and tell whether that was possible. -/
def put (s : FileStore) (p : Path) (text : String) : Bool × FileStore :=
  match s.target p with
  | .file place _ | .vacant place => s.putAt place text
  | .sink => (true, s)
  | .directory | .unreachable => (false, s)

/-- Take away the file that a path leads to. -/
def delete (s : FileStore) (p : Path) : FileStore :=
  match s.target p with
  | .file place _ => s.remove place
  | _ => s

end FileStore

end Bindery
