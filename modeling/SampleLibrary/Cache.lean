import Std.Data.HashMap

/-!
# A cache that forgets what was least recently used

The entries stand in a ring of nodes around node zero, which has no entry: the node after it was used
least recently and the one before it most recently. A table finds the node of a key. When the cache
is full, a new entry takes over the node of the oldest one.
-/

namespace SampleLibrary

structure Cache.Node (α β : Type) where
  previous : Nat
  next : Nat
  entry : Option (α × β)

/-- A cache for at most `capacity` entries. It counts how often a key was found and missed. -/
structure Cache (α β : Type) [BEq α] [Hashable α] where
  capacity : Nat
  places : Std.HashMap α Nat
  nodes : Array (Cache.Node α β)
  hits : Nat
  misses : Nat

namespace Cache

variable {α β : Type} [BEq α] [Hashable α]

/-- The number of entries of a cache for which none was given. -/
def defaultCapacity : Nat := 100

/-- The node around which the ring is closed. -/
def origin : Nat := 0

def emptyRing : Array (Node α β) := #[⟨origin, origin, none⟩]

def empty (capacity : Nat) : Cache α β := ⟨capacity, ∅, emptyRing, 0, 0⟩

def size (c : Cache α β) : Nat := c.places.size

def entryAt (nodes : Array (Node α β)) (place : Nat) : Option (α × β) :=
  nodes[place]?.bind (·.entry)

def previousOf (nodes : Array (Node α β)) (place : Nat) : Nat :=
  (nodes[place]?.map (·.previous)).getD origin

def nextOf (nodes : Array (Node α β)) (place : Nat) : Nat :=
  (nodes[place]?.map (·.next)).getD origin

/-- The ring with the neighbours of a node linked to each other. -/
def unlink (nodes : Array (Node α β)) (place : Nat) : Array (Node α β) :=
  let previous := previousOf nodes place
  let next := nextOf nodes place
  (nodes.modify previous ({ · with next })).modify next ({ · with previous })

/-- The ring with a node linked in as the most recent one. -/
def linkLast (nodes : Array (Node α β)) (place : Nat) : Array (Node α β) :=
  let last := previousOf nodes origin
  let nodes := nodes.modify place ({ · with previous := last, next := origin })
  (nodes.modify last ({ · with next := place })).modify origin ({ · with previous := place })

/-- The ring with a node moved to the most recent place. -/
def promote (nodes : Array (Node α β)) (place : Nat) : Array (Node α β) :=
  linkLast (unlink nodes place) place

/-- Looks for a key; an entry that is found becomes the most recent one. -/
def get? (c : Cache α β) (key : α) : Option β × Cache α β :=
  match c.places[key]? with
  | some place =>
    ((entryAt c.nodes place).map (·.2), { c with nodes := promote c.nodes place, hits := c.hits + 1 })
  | none => (none, { c with misses := c.misses + 1 })

/-- Looks for a key like `get?` and answers `fallback` if it is missed. -/
def getD (c : Cache α β) (key : α) (fallback : β) : β × Cache α β :=
  let (found, c) := c.get? key
  (found.getD fallback, c)

/-- Looks for a key and changes nothing. -/
def peek? (c : Cache α β) (key : α) : Option β :=
  c.places[key]?.bind fun place => (entryAt c.nodes place).map (·.2)

def contains (c : Cache α β) (key : α) : Bool := c.places.contains key

/-- The table without the key at a place. -/
def forget (c : Cache α β) (place : Nat) : Std.HashMap α Nat :=
  match entryAt c.nodes place with
  | some (key, _) => c.places.erase key
  | none => c.places

/-- The cache with an entry, which becomes the most recent one. -/
def put (c : Cache α β) (key : α) (value : β) : Cache α β :=
  if c.capacity == 0 then c
  else match c.places[key]? with
    | some place =>
      let nodes := c.nodes.modify place fun n =>
        { n with entry := n.entry.map fun (k, _) => (k, value) }
      { c with nodes := promote nodes place }
    | none =>
      if c.places.size ≥ c.capacity then
        let oldest := nextOf c.nodes origin
        { c with
          places := (c.forget oldest).insert key oldest
          nodes := promote (c.nodes.modify oldest ({ · with entry := some (key, value) })) oldest }
      else
        let place := c.nodes.size
        { c with
          places := c.places.insert key place
          nodes := linkLast (c.nodes.push ⟨origin, origin, some (key, value)⟩) place }

/-- The cache without its entries; the counters stay. -/
def clear (c : Cache α β) : Cache α β := { c with places := ∅, nodes := emptyRing }

/-- The keys from a place on; `fuel` bounds their number. -/
def keysFrom (nodes : Array (Node α β)) : (fuel : Nat) → (place : Nat) → List α
  | 0, _ => []
  | fuel + 1, place =>
    if place == origin then []
    else ((entryAt nodes place).map (·.1)).toList ++ keysFrom nodes fuel (nextOf nodes place)

/-- The keys, from the least to the most recently used one. -/
def keys (c : Cache α β) : List α := keysFrom c.nodes c.nodes.size (nextOf c.nodes origin)

end Cache

end SampleLibrary
