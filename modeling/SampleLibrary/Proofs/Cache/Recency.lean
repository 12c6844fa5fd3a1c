import SampleLibrary.Proofs.Cache.Ring

/-!
# A cache is a list of entries by last use

The cache answers like a plain list of entries, ordered from the least to the most recently used one.
`Holds` relates the two: the ring goes through the nodes of the entries in the order of the list, and
the table finds the node of every key. Every operation keeps this up.
-/

namespace SampleLibrary

/-- Entries with different keys, from the least to the most recently used one, and the counters. -/
structure Recency (α β : Type) where
  capacity : Nat
  entries : List (α × β) := []
  hits : Nat := 0
  misses : Nat := 0

namespace Recency

variable {α β : Type} [BEq α]

/-- The entry for a key. -/
def find? (r : Recency α β) (key : α) : Option (α × β) := r.entries.find? (·.1 == key)

/-- The list with an entry for a key at its end, in place of the one it had. -/
def use (r : Recency α β) (key : α) (entry : α × β) : Recency α β :=
  { r with entries := r.entries.eraseP (·.1 == key) ++ [entry] }

/-- Looks for a key; an entry that is found moves to the end. -/
def get? (r : Recency α β) (key : α) : Option β × Recency α β :=
  match r.find? key with
  | some entry => (some entry.2, { r.use key entry with hits := r.hits + 1 })
  | none => (none, { r with misses := r.misses + 1 })

/-- The list with a value for a key at its end. A full list first loses its head. -/
def put (r : Recency α β) (key : α) (value : β) : Recency α β :=
  if r.capacity = 0 then r
  else match r.find? key with
    | some entry => r.use key (entry.1, value)
    | none =>
      let kept := if r.capacity ≤ r.entries.length then r.entries.tail else r.entries
      { r with entries := kept ++ [(key, value)] }

/-- The list without entries; the counters stay. -/
def clear (r : Recency α β) : Recency α β := { r with entries := [] }

end Recency

namespace Cache

/-- Something to do with a cache. -/
inductive Command (α β : Type) where
  | put (key : α) (value : β)
  | get (key : α)
  | getD (key : α) (fallback : β)
  | peek (key : α)
  | contains (key : α)
  | clear

/-- What a command answers. -/
inductive Reply (β : Type) where
  | done
  | found (value : Option β)
  | value (value : β)
  | known (known : Bool)
  deriving DecidableEq

/-- What can be seen after a command. -/
structure Observation (α β : Type) where
  reply : Reply β
  keys : List α
  size : Nat
  hits : Nat
  misses : Nat
  deriving DecidableEq

variable {α β : Type} [BEq α]

/-- Carries out a command on the list. -/
def Command.onList (r : Recency α β) : Command α β → Reply β × Recency α β
  | put key value => (.done, r.put key value)
  | get key => (.found (r.get? key).1, (r.get? key).2)
  | getD key fallback => (.value ((r.get? key).1.getD fallback), (r.get? key).2)
  | peek key => (.found ((r.find? key).map (·.2)), r)
  | contains key => (.known (r.find? key).isSome, r)
  | clear => (.done, r.clear)

/-- What can be seen of the list after each of some commands. -/
def observeList (r : Recency α β) : List (Command α β) → List (Observation α β)
  | [] => []
  | command :: rest =>
    let (reply, r) := command.onList r
    ⟨reply, r.entries.map (·.1), r.entries.length, r.hits, r.misses⟩ :: observeList r rest

variable [Hashable α]

/-- Carries out a command. -/
def Command.run (c : Cache α β) : Command α β → Reply β × Cache α β
  | put key value => (.done, c.put key value)
  | get key => (.found (c.get? key).1, (c.get? key).2)
  | getD key fallback => (.value (c.getD key fallback).1, (c.getD key fallback).2)
  | peek key => (.found (c.peek? key), c)
  | contains key => (.known (c.contains key), c)
  | clear => (.done, c.clear)

/-- What can be seen of the cache after each of some commands. -/
def observe (c : Cache α β) : List (Command α β) → List (Observation α β)
  | [] => []
  | command :: rest =>
    let (reply, c) := command.run c
    ⟨reply, c.keys, c.size, c.hits, c.misses⟩ :: observe c rest

/-- The cache after some commands. -/
def after (c : Cache α β) (commands : List (Command α β)) : Cache α β :=
  commands.foldl (fun c command => (command.run c).2) c

/-! ## What a cache holds -/

/-- The cache holds entries in their nodes, from the least to the most recently used one. -/
structure Holds (c : Cache α β) (placed : List (Nat × α × β)) : Prop where
  ring : IsRing c.nodes (placed.map (·.1))
  entries : ∀ x ∈ placed, entryAt c.nodes x.1 = some x.2
  distinct : placed.Pairwise fun x y => (x.2.1 == y.2.1) = false
  found : ∀ key place, c.places[key]? = some place ↔ ∃ entry, (place, entry) ∈ placed ∧ entry.1 == key
  size : c.places.size = placed.length
  used : c.nodes.size = placed.length + 1
  fits : placed.length ≤ c.capacity

namespace Holds

variable {c : Cache α β} {placed front back : List (Nat × α × β)}

theorem empty (capacity : Nat) : Holds (Cache.empty capacity : Cache α β) [] where
  ring := by
    refine ⟨by simp, by simp [Cache.empty, emptyRing, origin], ?_⟩
    exact List.isChain_cons_cons.mpr ⟨⟨rfl, rfl⟩, List.isChain_singleton origin⟩
  entries := by simp
  distinct := .nil
  found := by simp [Cache.empty]
  size := by simp [Cache.empty]
  used := rfl
  fits := by simp

theorem inner (h : Holds c placed) : origin ∉ placed.map (·.1) :=
  (List.nodup_cons.mp h.ring.nodup).1

theorem keysFrom_eq (h : Holds c placed) :
    c.keys = (placed.map (·.1)).flatMap (keyAt c.nodes) := by
  have enough : (placed.map (·.1)).length ≤ c.nodes.size := by simp [h.used]
  rw [keys, nextOf_of_chain h.ring.linked]
  exact keysFrom_of_chain enough h.inner h.ring.linked.tail

theorem keys_eq (h : Holds c placed) : c.keys = placed.map (·.2.1) := by
  rw [h.keysFrom_eq, List.flatMap_map, List.map_eq_flatMap]
  apply List.flatMap_congr
  intro x member
  simp [keyAt, h.entries x member]

theorem walk (h : Holds c placed) : Walk c.nodes (nextOf c.nodes origin) c.keys := by
  rw [h.keysFrom_eq, nextOf_of_chain h.ring.linked]
  exact walk_of_chain h.inner
    (fun x member => h.ring.bounded x (List.mem_cons_of_mem _ member)) h.ring.linked.tail

/-! ### What the operations do to the nodes -/

/-- The places of the other entries. -/
theorem other_places {place : Nat} {entry : α × β} (h : Holds c (front ++ (place, entry) :: back)) :
    ∀ x ∈ front ++ back, x.1 ≠ place := by
  have nodup := (List.nodup_cons.mp h.ring.nodup).2
  rw [List.map_append, List.map_cons, List.nodup_middle, ← List.map_append] at nodup
  intro x member same
  exact (List.nodup_cons.mp nodup).1 (List.mem_map.mpr ⟨x, member, same⟩)

omit [Hashable α] in
/-- A key is that of one entry or of one of the others. -/
theorem exists_key_iff {place other : Nat} {entry : α × β} {key : α} :
    (∃ e, (other, e) ∈ front ++ (place, entry) :: back ∧ e.1 == key) ↔
      (other = place ∧ entry.1 == key) ∨ ∃ e, (other, e) ∈ front ++ back ∧ e.1 == key := by
  simp only [List.mem_append, List.mem_cons, Prod.mk.injEq]
  constructor
  · rintro ⟨e, before | ⟨rfl, rfl⟩ | behind, same⟩
    · exact .inr ⟨e, .inl before, same⟩
    · exact .inl ⟨rfl, same⟩
    · exact .inr ⟨e, .inr behind, same⟩
  · rintro (⟨rfl, same⟩ | ⟨e, before | behind, same⟩)
    · exact ⟨entry, .inr (.inl ⟨rfl, rfl⟩), same⟩
    · exact ⟨e, .inl before, same⟩
    · exact ⟨e, .inr (.inr behind), same⟩

/-- A key that the table misses is that of no entry. -/
theorem absent_of_missing {key : α} (h : Holds c placed) (missing : c.places[key]? = none) :
    ∀ x ∈ placed, (x.2.1 == key) = false := by
  intro x member
  apply Bool.eq_false_iff.mpr
  intro same
  have present := (h.found key x.1).mpr ⟨x.2, member, same⟩
  simp [missing] at present

variable [EquivBEq α]

/-- All but the ring is indifferent to the order of the entries. -/
theorem reorder {placed' : List (Nat × α × β)} {nodes : Array (Node α β)} (h : Holds c placed)
    (perm : placed.Perm placed') (ring : IsRing nodes (placed'.map (·.1)))
    (sizes : nodes.size = c.nodes.size) (same : ∀ place, entryAt nodes place = entryAt c.nodes place)
    (hits misses : Nat) : Holds ⟨c.capacity, c.places, nodes, hits, misses⟩ placed' where
  ring := ring
  entries := fun x member => (same x.1).trans (h.entries x (perm.mem_iff.mpr member))
  distinct := by
    refine (perm.pairwise_iff ?_).mp h.distinct
    exact fun {x y} differ => (BEq.comm (a := y.2.1)).trans differ
  found := fun key place => (h.found key place).trans
    (exists_congr fun entry => and_congr_left fun _ => perm.mem_iff)
  size := h.size.trans perm.length_eq
  used := by rw [sizes, h.used, perm.length_eq]
  fits := perm.length_eq ▸ h.fits

/-- A promoted node comes last, with its entry. -/
theorem promote {place : Nat} {entry : α × β} (h : Holds c (front ++ (place, entry) :: back))
    (hits misses : Nat) :
    Holds ⟨c.capacity, c.places, Cache.promote c.nodes place, hits, misses⟩
      (front ++ back ++ [(place, entry)]) := by
  have ring : IsRing c.nodes (front.map (·.1) ++ place :: back.map (·.1)) := by simpa using h.ring
  refine h.reorder ?_ (by simpa using ring.promote) (size_promote ..)
    (entryAt_promote c.nodes place) hits misses
  rw [List.append_assoc]
  exact List.Perm.append_left front (List.perm_append_singleton _ _).symm

/-- The keys of the other entries. -/
theorem other_keys {place : Nat} {entry : α × β} (h : Holds c (front ++ (place, entry) :: back)) :
    ∀ x ∈ front ++ back, (x.2.1 == entry.1) = false := by
  have distinct := h.distinct
  rw [List.pairwise_append, List.pairwise_cons] at distinct
  intro x member
  rcases List.mem_append.mp member with before | behind
  · exact distinct.2.2 x before (place, entry) (by simp)
  · exact (BEq.comm (a := x.2.1)).trans (distinct.2.1.1 x behind)

/-- A node is given another entry. The table has to follow. -/
theorem setEntry {place : Nat} {old entry : α × β} {places : Std.HashMap α Nat}
    {change : Option (α × β) → Option (α × β)} (h : Holds c (front ++ (place, old) :: back))
    (changes : change (some old) = some entry)
    (others : ∀ x ∈ front ++ back, (x.2.1 == entry.1) = false)
    (found : ∀ key other, places[key]? = some other ↔
      (other = place ∧ entry.1 == key) ∨ ∃ e, (other, e) ∈ front ++ back ∧ e.1 == key)
    (size : places.size = c.places.size) :
    Holds { c with places, nodes := Cache.setEntry c.nodes place change }
      (front ++ (place, entry) :: back) where
  ring := by
    have ring := h.ring
    simp only [List.map_append, List.map_cons] at ring ⊢
    exact ring.setEntry place change
  entries := by
    have inside : place < c.nodes.size := h.ring.bounded place (by simp)
    have held : entryAt c.nodes place = some old := h.entries (place, old) (by simp)
    intro x member
    rw [entryAt_setEntry x.1 change inside]
    have parts : x = (place, entry) ∨ x ∈ front ++ back := by
      simp only [List.mem_append, List.mem_cons] at member ⊢
      tauto
    rcases parts with rfl | other
    · simp [held, changes]
    · rw [if_neg (h.other_places x other)]
      exact h.entries x (by simp only [List.mem_append, List.mem_cons] at other ⊢; tauto)
  distinct := by
    have distinct := h.distinct
    rw [List.pairwise_append, List.pairwise_cons] at distinct ⊢
    refine ⟨distinct.1, ⟨fun x member => ?_, distinct.2.1.2⟩, fun x before y member => ?_⟩
    · exact (BEq.comm (a := entry.1)).trans (others x (List.mem_append_right _ member))
    · rcases List.mem_cons.mp member with rfl | behind
      · exact others x (List.mem_append_left _ before)
      · exact distinct.2.2 x before y (List.mem_cons_of_mem _ behind)
  found := fun key other => (found key other).trans exists_key_iff.symm
  size := by simpa using size.trans h.size
  used := by simpa using h.used
  fits := by simpa using h.fits

/-- A node that is given another value keeps its key. -/
theorem replace {place : Nat} {key : α} {old : β} (value : β)
    (h : Holds c (front ++ (place, key, old) :: back)) :
    Holds { c with nodes := Cache.setEntry c.nodes place (Option.map fun x => (x.1, value)) }
      (front ++ (place, key, value) :: back) :=
  h.setEntry rfl h.other_keys (fun key' other => (h.found key' other).trans exists_key_iff) rfl

variable [LawfulHashable α]

/-- A new entry takes over the node of another one. -/
theorem takeOver {place : Nat} {old : α × β} {key : α} (value : β)
    (h : Holds c (front ++ (place, old) :: back)) (missing : c.places[key]? = none) :
    Holds { c with
      places := (c.places.erase old.1).insert key place
      nodes := Cache.setEntry c.nodes place fun _ => some (key, value) }
      (front ++ (place, key, value) :: back) := by
  have absent := h.absent_of_missing missing
  have others : ∀ x ∈ front ++ back, (x.2.1 == key) = false := fun x member =>
    absent x (by simp only [List.mem_append, List.mem_cons] at member ⊢; tauto)
  refine h.setEntry rfl others (fun key' other => ?_) ?_
  · rw [Std.HashMap.getElem?_insert, Std.HashMap.getElem?_erase]
    by_cases new : key == key'
    · have gone : ¬∃ e, (other, e) ∈ front ++ back ∧ e.1 == key' := fun ⟨e, member, same⟩ =>
        Bool.false_ne_true ((others _ member).symm.trans (BEq.trans same (BEq.symm new)))
      rw [if_pos new, or_iff_left gone]
      exact ⟨fun same => ⟨(Option.some.inj same).symm, new⟩, fun same => congrArg some same.1.symm⟩
    · by_cases dropped : old.1 == key'
      · have gone : ¬∃ e, (other, e) ∈ front ++ back ∧ e.1 == key' := fun ⟨e, member, same⟩ =>
          Bool.false_ne_true
            ((h.other_keys _ member).symm.trans (BEq.trans same (BEq.symm dropped)))
        rw [if_neg new, if_pos dropped, or_iff_left gone]
        exact ⟨nofun, fun same => absurd same.2 new⟩
      · simp only [new, dropped, Bool.false_eq_true, if_false, h.found, exists_key_iff, and_false]
  · have present : old.1 ∈ c.places := by
      have found := (h.found old.1 place).mpr ⟨old, by simp, BEq.rfl⟩
      rw [Std.HashMap.mem_iff_isSome_getElem?, found]
      rfl
    have fresh : key ∉ c.places.erase old.1 := by
      rw [Std.HashMap.mem_iff_isSome_getElem?, Std.HashMap.getElem?_erase, missing]
      simp
    have positive : 0 < c.places.size := by
      rw [h.size, List.length_append, List.length_cons]
      omega
    simp only [Std.HashMap.size_insert, fresh, Std.HashMap.size_erase, present, if_true, if_false]
    omega

/-- A new entry gets a new node. -/
theorem add {key : α} (value : β) (h : Holds c placed) (missing : c.places[key]? = none)
    (room : placed.length < c.capacity) :
    Holds { c with
      places := c.places.insert key c.nodes.size
      nodes := linkLast (c.nodes.push ⟨origin, origin, some (key, value)⟩) c.nodes.size }
      (placed ++ [(c.nodes.size, key, value)]) where
  ring := by
    have pushed : IsRing (c.nodes.push ⟨origin, origin, some (key, value)⟩) (placed.map (·.1)) := by
      refine h.ring.of_links (by simp) ?_ ?_
      · intro place inside
        simp [nextOf, Array.getElem?_push, inside.ne]
      · intro place inside
        simp [previousOf, Array.getElem?_push, inside.ne]
    simpa using pushed.linkLast (fun member => (h.ring.bounded _ member).false) (by simp)
  entries := by
    intro x member
    rw [entryAt_linkLast]
    rcases List.mem_append.mp member with old | new
    · have inside := h.ring.bounded x.1 (List.mem_cons_of_mem _ (List.mem_map_of_mem old))
      simpa [entryAt, Array.getElem?_push, inside.ne] using h.entries x old
    · simp [List.mem_singleton.mp new, entryAt]
  distinct := by
    refine List.pairwise_append.mpr ⟨h.distinct, List.pairwise_singleton _ _, ?_⟩
    intro x old y new
    rw [List.mem_singleton.mp new]
    exact h.absent_of_missing missing x old
  found := fun key' other => by
    rw [Std.HashMap.getElem?_insert, ← List.append_nil [_], List.singleton_append, exists_key_iff,
      List.append_nil, ← h.found]
    by_cases new : key == key'
    · have gone : c.places[key']? = none := by rw [← Std.HashMap.getElem?_congr new, missing]
      simp [new, gone, eq_comm]
    · simp [new]
  size := by
    have fresh : key ∉ c.places := by simp [Std.HashMap.mem_iff_isSome_getElem?, missing]
    simp [Std.HashMap.size_insert, fresh, h.size]
  used := by simp [h.used]
  fits := by simpa using Nat.succ_le_of_lt room

end Holds

/-! ## The list that a cache stands for -/

/-- The list with the entries and the counters of a cache. -/
def asList (c : Cache α β) (placed : List (Nat × α × β)) : Recency α β :=
  ⟨c.capacity, placed.map (·.2), c.hits, c.misses⟩

section

variable {c : Cache α β} {placed : List (Nat × α × β)} [EquivBEq α]

/-- A key that the table finds stands in one entry of the list. -/
theorem Holds.find_of_found {key : α} {place : Nat} (h : Holds c placed)
    (found : c.places[key]? = some place) :
    ∃ front entry back, placed = front ++ (place, entry) :: back ∧
      (c.asList placed).find? key = some entry ∧
      ∀ used, (c.asList placed).use key used =
        { c.asList placed with entries := (front ++ back).map (·.2) ++ [used] } := by
  obtain ⟨entry, member, same⟩ := (h.found key place).mp found
  obtain ⟨front, back, rfl⟩ := List.append_of_mem member
  have before : ∀ e ∈ front.map (·.2), ¬(e.1 == key) = true := by
    intro e inList same'
    obtain ⟨x, inFront, rfl⟩ := List.mem_map.mp inList
    have other := h.other_keys x (List.mem_append_left _ inFront)
    exact Bool.false_ne_true (other.symm.trans (BEq.trans same' (BEq.symm same)))
  refine ⟨front, entry, back, rfl, ?_, fun used => ?_⟩
  · simp only [Recency.find?, asList, List.map_append, List.map_cons]
    exact List.find?_eq_some_iff_append.mpr
      ⟨same, _, _, rfl, fun e inFront => by simpa using before e inFront⟩
  · simp only [Recency.use, asList, List.map_append, List.map_cons]
    rw [List.eraseP_append_right _ before, List.eraseP_cons_of_pos]
    exact same

omit [EquivBEq α] in
theorem Holds.find_of_missing {key : α} (h : Holds c placed) (missing : c.places[key]? = none) :
    (c.asList placed).find? key = none := by
  refine List.find?_eq_none.mpr fun e inList => ?_
  obtain ⟨x, member, rfl⟩ := List.mem_map.mp inList
  simpa using h.absent_of_missing missing x member

/-- Looking for a key. -/
theorem Holds.get? (h : Holds c placed) (key : α) :
    ∃ placed', Holds (c.get? key).2 placed' ∧
      (c.asList placed).get? key = ((c.get? key).1, (c.get? key).2.asList placed') := by
  cases found : c.places[key]? with
  | none =>
      refine ⟨placed, ?_, ?_⟩
      · simp only [Cache.get?, found]
        exact ⟨h.ring, h.entries, h.distinct, h.found, h.size, h.used, h.fits⟩
      · simp only [Cache.get?, found, Recency.get?, h.find_of_missing found]
        rfl
  | some place =>
      obtain ⟨front, entry, back, rfl, isFound, used⟩ := h.find_of_found found
      have held : entryAt c.nodes place = some entry := h.entries (place, entry) (by simp)
      refine ⟨front ++ back ++ [(place, entry)], ?_, ?_⟩
      · simp only [Cache.get?, found]
        exact h.promote (c.hits + 1) c.misses
      · simp only [Cache.get?, found, Recency.get?, isFound, used, held]
        simp [asList]

/-- Putting in an entry. -/
theorem Holds.put [LawfulHashable α] (h : Holds c placed) (key : α) (value : β) :
    ∃ placed', Holds (c.put key value) placed' ∧
      (c.asList placed).put key value = (c.put key value).asList placed' := by
  by_cases useless : c.capacity = 0
  · refine ⟨placed, by simpa [Cache.put, useless] using h, ?_⟩
    simp [Cache.put, Recency.put, useless, asList]
  have sameCapacity : (c.asList placed).capacity = c.capacity := rfl
  cases found : c.places[key]? with
  | some place =>
      obtain ⟨front, ⟨old, former⟩, back, rfl, isFound, used⟩ := h.find_of_found found
      refine ⟨front ++ back ++ [(place, old, value)], ?_, ?_⟩
      · simp only [Cache.put, beq_iff_eq, useless, if_false, found]
        exact (h.replace value).promote c.hits c.misses
      · simp only [Cache.put, beq_iff_eq, Recency.put, sameCapacity, useless, if_false, found,
          isFound, used]
        simp [asList]
  | none =>
      have missing := h.find_of_missing found
      by_cases full : c.capacity ≤ placed.length
      · obtain ⟨⟨place, old⟩, rest, rfl⟩ : ∃ first rest, placed = first :: rest :=
          List.exists_cons_of_length_pos (by omega)
        have held : entryAt c.nodes place = some old := h.entries (place, old) (by simp)
        have oldest : nextOf c.nodes origin = place := nextOf_of_chain h.ring.linked
        refine ⟨rest ++ [(place, key, value)], ?_, ?_⟩
        · simp only [Cache.put, beq_iff_eq, useless, if_false, found, ge_iff_le, h.size, full,
            if_true, oldest, forget, held]
          have first : Holds c ([] ++ (place, old) :: rest) := h
          exact (first.takeOver value found).promote c.hits c.misses
        · simp only [Cache.put, beq_iff_eq, Recency.put, sameCapacity, useless, if_false, found,
            missing, ge_iff_le, h.size, full, if_true]
          have fullList : c.capacity ≤ rest.length + 1 := full
          simp [asList, fullList]
      · refine ⟨placed ++ [(c.nodes.size, key, value)], ?_, ?_⟩
        · simp only [Cache.put, beq_iff_eq, useless, if_false, found, ge_iff_le, h.size, full]
          exact h.add value found (by omega)
        · simp only [Cache.put, beq_iff_eq, Recency.put, sameCapacity, useless, if_false, found,
            missing, ge_iff_le, h.size, full]
          simp [asList, full]

/-- Every command answers like the list and leads to a cache that stands for the next list. -/
theorem Holds.run [LawfulHashable α] (h : Holds c placed) (command : Command α β) :
    ∃ placed', Holds (command.run c).2 placed' ∧
      command.onList (c.asList placed) = ((command.run c).1, (command.run c).2.asList placed') := by
  cases command with
  | put key value =>
      obtain ⟨placed', holds, same⟩ := h.put key value
      exact ⟨placed', holds, by simp [Command.onList, Command.run, same]⟩
  | get key =>
      obtain ⟨placed', holds, same⟩ := h.get? key
      exact ⟨placed', holds, by simp [Command.onList, Command.run, same]⟩
  | getD key fallback =>
      obtain ⟨placed', holds, same⟩ := h.get? key
      exact ⟨placed', holds, by simp [Command.onList, Command.run, Cache.getD, same]⟩
  | peek key =>
      refine ⟨placed, h, ?_⟩
      cases found : c.places[key]? with
      | none => simp [Command.onList, Command.run, peek?, found, h.find_of_missing found]
      | some place =>
          obtain ⟨front, entry, back, rfl, isFound, _⟩ := h.find_of_found found
          have held : entryAt c.nodes place = some entry := h.entries (place, entry) (by simp)
          simp [Command.onList, Command.run, peek?, found, isFound, held]
  | contains key =>
      refine ⟨placed, h, ?_⟩
      have looked : c.contains key = c.places[key]?.isSome := Std.HashMap.contains_eq_isSome_getElem?
      cases found : c.places[key]? with
      | none => simp [Command.onList, Command.run, looked, found, h.find_of_missing found]
      | some place =>
          obtain ⟨front, entry, back, rfl, isFound, _⟩ := h.find_of_found found
          simp [Command.onList, Command.run, looked, found, isFound]
  | clear =>
      have cleared := Holds.empty (α := α) (β := β) c.capacity
      refine ⟨[], ?_, by simp [Command.onList, Command.run, Recency.clear, Cache.clear, asList]⟩
      exact ⟨cleared.ring, cleared.entries, cleared.distinct, cleared.found, cleared.size,
        cleared.used, cleared.fits⟩

/-- A cache answers like the list that it stands for. -/
theorem Holds.observe [LawfulHashable α] (h : Holds c placed) (commands : List (Command α β)) :
    Cache.observe c commands = observeList (c.asList placed) commands := by
  induction commands generalizing c placed with
  | nil => rfl
  | cons command rest inductionHypothesis =>
      obtain ⟨placed', holds, same⟩ := h.run command
      simp only [Cache.observe, observeList, same, inductionHypothesis holds]
      simp [holds.keys_eq, Cache.size, holds.size, asList, Function.comp_def]

theorem Holds.after [LawfulHashable α] (h : Holds c placed) (commands : List (Command α β)) :
    ∃ placed', Holds (c.after commands) placed' := by
  induction commands generalizing c placed with
  | nil => exact ⟨placed, h⟩
  | cons command rest inductionHypothesis =>
      obtain ⟨placed', holds, _⟩ := h.run command
      exact inductionHypothesis holds

/-- The table names exactly the places of the ring that hold a key. -/
theorem Holds.places_with_key (h : Holds c placed) (key : α) :
    ((placed.map (·.1)).filter fun place => (keyAt c.nodes place).any (· == key)) =
      c.places[key]?.toList := by
  have holding : ∀ x ∈ placed, (keyAt c.nodes x.1).any (· == key) = (x.2.1 == key) := by
    intro x member
    simp [keyAt, h.entries x member]
  rw [List.filter_map, List.filter_congr (q := fun x => x.2.1 == key) holding]
  cases found : c.places[key]? with
  | none =>
      have none : placed.filter (fun x => x.2.1 == key) = [] :=
        List.filter_eq_nil_iff.mpr fun x member => by
          simpa using h.absent_of_missing found x member
      rw [none]
      rfl
  | some place =>
      obtain ⟨entry, member, same⟩ := (h.found key place).mp found
      obtain ⟨front, back, rfl⟩ := List.append_of_mem member
      have others : ∀ x ∈ front ++ back, (x.2.1 == key) = false := fun x other => by
        apply Bool.eq_false_iff.mpr
        intro same'
        exact Bool.false_ne_true
          ((h.other_keys x other).symm.trans (BEq.trans same' (BEq.symm same)))
      have noneBefore : front.filter (fun x => x.2.1 == key) = [] :=
        List.filter_eq_nil_iff.mpr fun x other => by
          simpa using others x (List.mem_append_left _ other)
      have noneBehind : back.filter (fun x => x.2.1 == key) = [] :=
        List.filter_eq_nil_iff.mpr fun x other => by
          simpa using others x (List.mem_append_right _ other)
      simp [noneBefore, noneBehind, same]

end

theorem capacity_run (c : Cache α β) (command : Command α β) :
    (command.run c).2.capacity = c.capacity := by
  cases command with
  | put key value =>
      simp only [Command.run, put]
      split
      · rfl
      · split
        · rfl
        · split <;> rfl
  | get key => simp only [Command.run, get?]; split <;> rfl
  | getD key fallback => simp only [Command.run, getD, get?]; split <;> rfl
  | peek key => rfl
  | contains key => rfl
  | clear => rfl

@[simp]
theorem capacity_after (c : Cache α β) (commands : List (Command α β)) :
    (c.after commands).capacity = c.capacity := by
  induction commands generalizing c with
  | nil => rfl
  | cons command rest inductionHypothesis =>
      exact (inductionHypothesis (command.run c).2).trans (capacity_run c command)

/-- A cache answers, lists its keys and counts like the list of its entries by last use, whatever is
done with it. At every time it has no more entries than it may have, its nodes stand in a ring in
which the table finds the one node of each key and no other, and the way along the links from node
zero leads back to it past all keys. -/
theorem observe_eq_observeList [EquivBEq α] [LawfulHashable α] (capacity : Nat)
    (commands : List (Command α β)) :
    observe (empty capacity) commands = observeList ⟨capacity, [], 0, 0⟩ commands ∧
      let c : Cache α β := (empty capacity).after commands
      c.size ≤ capacity ∧
      c.keys.Pairwise (fun a b => (a == b) = false) ∧
      (∃ places, IsRing c.nodes places ∧ ∀ key,
        (places.filter fun place => (keyAt c.nodes place).any (· == key)) =
          c.places[key]?.toList) ∧
      Walk c.nodes (nextOf c.nodes origin) c.keys := by
  have start := Holds.empty (α := α) (β := β) capacity
  refine ⟨start.observe commands, ?_⟩
  obtain ⟨placed, h⟩ := start.after commands
  refine ⟨?_, ?_, ⟨placed.map (·.1), h.ring, h.places_with_key⟩, h.walk⟩
  · have fits := h.fits
    rw [capacity_after] at fits
    exact h.size.trans_le fits
  · rw [h.keys_eq]
    exact List.pairwise_map.mpr h.distinct

/-- In a full cache the entry that was not looked up gives way. -/
theorem observe_full_cache :
    observe (empty 2 : Cache String Nat)
        [.put "a" 1, .put "b" 2, .get "a", .put "c" 3, .getD "b" 0, .clear, .contains "a"] =
      [⟨.done, ["a"], 1, 0, 0⟩, ⟨.done, ["a", "b"], 2, 0, 0⟩, ⟨.found (some 1), ["b", "a"], 2, 1, 0⟩,
        ⟨.done, ["a", "c"], 2, 1, 0⟩, ⟨.value 0, ["a", "c"], 2, 1, 1⟩, ⟨.done, [], 0, 1, 1⟩,
        ⟨.known false, [], 0, 1, 1⟩] :=
  (observe_eq_observeList 2 _).1.trans (by decide)

end Cache

end SampleLibrary
