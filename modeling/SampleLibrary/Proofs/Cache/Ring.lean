import Mathlib.Data.List.Chain
import Mathlib.Data.List.Nodup
import SampleLibrary.Cache

/-!
# The ring of a cache

The nodes in use form one closed chain of links through node zero. Unlinking a node leaves a ring of
the others, and linking one in at the end gives a ring with one node more. What changes in the links
of single nodes is said once, in `joined_unlink` and `joined_linkLast`.
-/

namespace SampleLibrary.Cache

variable {α β : Type}

/-- Two places are linked to each other, the second one after the first. -/
def Joined (nodes : Array (Node α β)) (place next : Nat) : Prop :=
  nextOf nodes place = next ∧ previousOf nodes next = place

/-- The places stand in a ring: the links lead from node zero through all of them, in order, and back
to node zero, and no node occurs twice. -/
structure IsRing (nodes : Array (Node α β)) (places : List Nat) : Prop where
  nodup : (origin :: places).Nodup
  bounded : ∀ place ∈ origin :: places, place < nodes.size
  linked : (origin :: places ++ [origin]).IsChain (Joined nodes)

/-- The key at a place, if there is an entry. -/
def keyAt (nodes : Array (Node α β)) (place : Nat) : List α :=
  ((entryAt nodes place).map (·.1)).toList

/-- Following the links from a place on comes back to node zero, without leaving the nodes, and meets
these keys. -/
inductive Walk (nodes : Array (Node α β)) : Nat → List α → Prop
  | ended : Walk nodes origin []
  | visited {place keys} : place ≠ origin → place < nodes.size →
      Walk nodes (nextOf nodes place) keys →
      Walk nodes place (keyAt nodes place ++ keys)

/-! ## Links of single nodes -/

theorem nextOf_modify_of_keeps (nodes : Array (Node α β)) (place other : Nat)
    {change : Node α β → Node α β} (keeps : ∀ n, (change n).next = n.next) :
    nextOf (nodes.modify place change) other = nextOf nodes other := by
  simp only [nextOf, Array.getElem?_modify]
  split <;> simp [Function.comp_def, keeps]

theorem nextOf_modify_of_sets (nodes : Array (Node α β)) {place : Nat} (other target : Nat)
    {change : Node α β → Node α β} (bounded : place < nodes.size)
    (sets : ∀ n, (change n).next = target) :
    nextOf (nodes.modify place change) other = if other = place then target else nextOf nodes other := by
  simp only [nextOf, Array.getElem?_modify]
  by_cases same : other = place
  · subst same
    simp [bounded, sets]
  · simp [same, Ne.symm same]

theorem previousOf_modify_of_keeps (nodes : Array (Node α β)) (place other : Nat)
    {change : Node α β → Node α β} (keeps : ∀ n, (change n).previous = n.previous) :
    previousOf (nodes.modify place change) other = previousOf nodes other := by
  simp only [previousOf, Array.getElem?_modify]
  split <;> simp [Function.comp_def, keeps]

theorem previousOf_modify_of_sets (nodes : Array (Node α β)) {place : Nat} (other target : Nat)
    {change : Node α β → Node α β} (bounded : place < nodes.size)
    (sets : ∀ n, (change n).previous = target) :
    previousOf (nodes.modify place change) other =
      if other = place then target else previousOf nodes other := by
  simp only [previousOf, Array.getElem?_modify]
  by_cases same : other = place
  · subst same
    simp [bounded, sets]
  · simp [same, Ne.symm same]

theorem entryAt_modify_of_keeps (nodes : Array (Node α β)) (place other : Nat)
    {change : Node α β → Node α β} (keeps : ∀ n, (change n).entry = n.entry) :
    entryAt (nodes.modify place change) other = entryAt nodes other := by
  simp only [entryAt, Array.getElem?_modify]
  split
  · cases nodes[other]? <;> simp [keeps]
  · rfl

@[simp]
theorem size_unlink (nodes : Array (Node α β)) (place : Nat) :
    (unlink nodes place).size = nodes.size := by
  simp [unlink]

@[simp]
theorem size_linkLast (nodes : Array (Node α β)) (place : Nat) :
    (linkLast nodes place).size = nodes.size := by
  simp [linkLast]

@[simp]
theorem entryAt_unlink (nodes : Array (Node α β)) (place other : Nat) :
    entryAt (unlink nodes place) other = entryAt nodes other := by
  simp [unlink, entryAt_modify_of_keeps]

@[simp]
theorem entryAt_linkLast (nodes : Array (Node α β)) (place other : Nat) :
    entryAt (linkLast nodes place) other = entryAt nodes other := by
  simp [linkLast, entryAt_modify_of_keeps]

@[simp]
theorem size_promote (nodes : Array (Node α β)) (place : Nat) :
    (promote nodes place).size = nodes.size := by
  simp [promote]

@[simp]
theorem entryAt_promote (nodes : Array (Node α β)) (place other : Nat) :
    entryAt (promote nodes place) other = entryAt nodes other := by
  simp [promote]

theorem nextOf_unlink (nodes : Array (Node α β)) {place : Nat} (other : Nat)
    (bounded : previousOf nodes place < nodes.size) :
    nextOf (unlink nodes place) other =
      if other = previousOf nodes place then nextOf nodes place else nextOf nodes other := by
  rw [unlink, nextOf_modify_of_keeps]
  · exact nextOf_modify_of_sets nodes other _ bounded fun _ => rfl
  · exact fun _ => rfl

theorem previousOf_unlink (nodes : Array (Node α β)) {place : Nat} (other : Nat)
    (bounded : nextOf nodes place < nodes.size) :
    previousOf (unlink nodes place) other =
      if other = nextOf nodes place then previousOf nodes place else previousOf nodes other := by
  rw [unlink, previousOf_modify_of_sets _ other (previousOf nodes place) (by simpa using bounded),
    previousOf_modify_of_keeps]
  all_goals exact fun _ => rfl

theorem nextOf_linkLast (nodes : Array (Node α β)) {place : Nat} (other : Nat)
    (inside : place < nodes.size) (bounded : previousOf nodes origin < nodes.size) :
    nextOf (linkLast nodes place) other =
      if other = previousOf nodes origin then place
      else if other = place then origin else nextOf nodes other := by
  rw [linkLast, nextOf_modify_of_keeps,
    nextOf_modify_of_sets _ other place (by simpa using bounded),
    nextOf_modify_of_sets nodes other origin inside]
  all_goals exact fun _ => rfl

theorem previousOf_linkLast (nodes : Array (Node α β)) {place : Nat} (other : Nat)
    (inside : place < nodes.size) (bounded : origin < nodes.size) :
    previousOf (linkLast nodes place) other =
      if other = origin then place
      else if other = place then previousOf nodes origin else previousOf nodes other := by
  rw [linkLast, previousOf_modify_of_sets _ other place (by simpa using bounded),
    previousOf_modify_of_keeps,
    previousOf_modify_of_sets nodes other (previousOf nodes origin) inside]
  all_goals exact fun _ => rfl

/-! ## Taking nodes out and putting them in -/

/-- Links that do not touch an unlinked node stay. -/
theorem joined_unlink {nodes : Array (Node α β)} {place before after x y : Nat}
    (left : Joined nodes before place) (right : Joined nodes place after)
    (beforeInside : before < nodes.size) (afterInside : after < nodes.size)
    (joined : Joined nodes x y) (xOther : x ≠ place) (yOther : y ≠ place) :
    Joined (unlink nodes place) x y := by
  have previous : previousOf nodes place = before := left.2
  have next : nextOf nodes place = after := right.1
  constructor
  · rw [nextOf_unlink nodes x (by omega), previous]
    have away : x ≠ before := fun same => yOther (by rw [← joined.1, same, left.1])
    rw [if_neg away]
    exact joined.1
  · rw [previousOf_unlink nodes y (by omega), next]
    have away : y ≠ after := fun same => xOther (by rw [← joined.2, same, right.2])
    rw [if_neg away]
    exact joined.2

/-- The neighbours of an unlinked node are linked to each other. -/
theorem joined_unlink_neighbours {nodes : Array (Node α β)} {place before after : Nat}
    (left : Joined nodes before place) (right : Joined nodes place after)
    (beforeInside : before < nodes.size) (afterInside : after < nodes.size) :
    Joined (unlink nodes place) before after := by
  have previous : previousOf nodes place = before := left.2
  have next : nextOf nodes place = after := right.1
  constructor
  · simp [nextOf_unlink nodes before (by omega : previousOf nodes place < _), previous, next]
  · simp [previousOf_unlink nodes after (by omega : nextOf nodes place < _), previous, next]

/-- A node of a ring has neighbours, which may both be node zero. -/
theorem IsRing.exists_neighbours {nodes : Array (Node α β)} {front back : List Nat} {place : Nat}
    (ring : IsRing nodes (front ++ place :: back)) :
    ∃ before after, (origin :: front).getLast? = some before ∧ (back ++ [origin]).head? = some after ∧
      Joined nodes before place ∧ Joined nodes place after := by
  obtain ⟨init, before, frontSplit⟩ : ∃ init before, origin :: front = init ++ [before] :=
    ⟨_, _, (List.dropLast_append_getLast (List.cons_ne_nil origin front)).symm⟩
  obtain ⟨after, rest, backSplit⟩ : ∃ after rest, back ++ [origin] = after :: rest := by
    cases back <;> simp
  have chain : ((init ++ [before]) ++ place :: after :: rest).IsChain (Joined nodes) := by
    rw [← frontSplit, ← backSplit]
    simpa using ring.linked
  obtain ⟨_, chainBack, link⟩ := List.isChain_append.mp chain
  refine ⟨before, after, by simp [frontSplit], by simp [backSplit], ?_, ?_⟩
  · exact link before (by simp) place (by simp)
  · exact (List.isChain_cons_cons.mp chainBack).1

/-- Unlinking a node leaves a ring of the others. -/
theorem IsRing.unlink {nodes : Array (Node α β)} {front back : List Nat} {place : Nat}
    (ring : IsRing nodes (front ++ place :: back)) : IsRing (unlink nodes place) (front ++ back) := by
  obtain ⟨before, after, isLast, isFirst, left, right⟩ := ring.exists_neighbours
  have beforeMem : before ∈ origin :: front := List.mem_of_getLast? isLast
  have afterMem : after ∈ back ++ [origin] := List.mem_of_head? isFirst
  have inside : ∀ x ∈ origin :: front ++ back, x < nodes.size := by
    intro x member
    apply ring.bounded x
    simp only [List.mem_cons, List.mem_append] at member ⊢
    tauto
  have beforeInside : before < nodes.size := inside before (List.mem_append_left _ beforeMem)
  have afterInside : after < nodes.size := inside after (by
    simp only [List.mem_cons, List.mem_append, List.not_mem_nil, or_false] at afterMem ⊢
    tauto)
  have nodup : (place :: (origin :: front ++ back)).Nodup := by
    rw [← List.nodup_middle]
    simpa using ring.nodup
  have stays : ∀ {xs : List Nat}, (∀ x ∈ xs, x ∈ origin :: front ++ back) →
      xs.IsChain (Joined nodes) → xs.IsChain (Joined (Cache.unlink nodes place)) := by
    intro xs among linked
    have outside : ∀ x ∈ xs, x ≠ place := fun x member same =>
      (List.nodup_cons.mp nodup).1 (same ▸ among x member)
    apply linked.imp_of_mem_imp
    intro x y xMem yMem joined
    exact joined_unlink left right beforeInside afterInside joined (outside x xMem) (outside y yMem)
  have chain : ((origin :: front) ++ place :: (back ++ [origin])).IsChain (Joined nodes) := by
    simpa using ring.linked
  obtain ⟨chainFront, chainBack, _⟩ := List.isChain_append.mp chain
  refine ⟨(List.nodup_cons.mp nodup).2, fun x member => by simpa using inside x member, ?_⟩
  have split : origin :: (front ++ back) ++ [origin] = (origin :: front) ++ (back ++ [origin]) := by
    simp
  rw [split]
  refine List.isChain_append.mpr ⟨?_, ?_, ?_⟩
  · exact stays (fun x member => List.mem_append_left _ member) chainFront
  · refine stays ?_ chainBack.tail
    intro x member
    simp only [List.mem_cons, List.mem_append, List.not_mem_nil, or_false] at member ⊢
    tauto
  · intro x xLast y yFirst
    obtain rfl : before = x := Option.some.inj (isLast.symm.trans xLast)
    obtain rfl : after = y := Option.some.inj (isFirst.symm.trans yFirst)
    exact joined_unlink_neighbours left right beforeInside afterInside

/-- Links that do not touch a node linked in last, nor the way from the last node to node zero,
stay. -/
theorem joined_linkLast {nodes : Array (Node α β)} {place last x y : Nat}
    (isLast : Joined nodes last origin) (lastInside : last < nodes.size)
    (originInside : origin < nodes.size) (inside : place < nodes.size)
    (joined : Joined nodes x y) (xOther : x ≠ place) (yOther : y ≠ place) (yInner : y ≠ origin) :
    Joined (linkLast nodes place) x y := by
  have previous : previousOf nodes origin = last := isLast.2
  constructor
  · have away : x ≠ last := fun same => yInner (by rw [← joined.1, same, isLast.1])
    rw [nextOf_linkLast nodes x inside (by omega), previous, if_neg away, if_neg xOther]
    exact joined.1
  · rw [previousOf_linkLast nodes y inside originInside, if_neg yInner, if_neg yOther]
    exact joined.2

/-- Linking in a node that is not in the ring makes it the last one. -/
theorem IsRing.linkLast {nodes : Array (Node α β)} {places : List Nat} {place : Nat}
    (ring : IsRing nodes places) (fresh : place ∉ origin :: places) (inside : place < nodes.size) :
    IsRing (linkLast nodes place) (places ++ [place]) := by
  obtain ⟨chain, _, link⟩ := List.isChain_append.mp ring.linked
  obtain ⟨last, isLast⟩ : ∃ last, (origin :: places).getLast? = some last :=
    ⟨_, List.getLast?_eq_some_getLast (List.cons_ne_nil origin places)⟩
  have lastMem : last ∈ origin :: places := List.mem_of_getLast? isLast
  have joined : Joined nodes last origin := link last isLast origin (by simp)
  have originInside : origin < nodes.size := ring.bounded origin (by simp)
  have lastInside : last < nodes.size := ring.bounded last lastMem
  have previous : previousOf nodes origin = last := joined.2
  have placeInner : place ≠ origin := fun same => fresh (by simp [same])
  have placeOther : place ≠ last := fun same => fresh (same ▸ lastMem)
  refine ⟨?_, ?_, ?_⟩
  · rw [← List.cons_append, List.nodup_append_comm]
    exact List.nodup_cons.mpr ⟨fresh, ring.nodup⟩
  · intro x member
    rw [size_linkLast]
    rcases List.mem_append.mp (List.cons_append ▸ member) with old | new
    · exact ring.bounded x old
    · simpa [List.mem_singleton.mp new] using inside
  · have split : origin :: (places ++ [place]) ++ [origin] = (origin :: places) ++ [place, origin] := by
      simp
    rw [split]
    refine List.isChain_append.mpr ⟨?_, ?_, ?_⟩
    · apply chain.imp_of_mem_tail_imp
      intro x y xMem yMem old
      refine joined_linkLast joined lastInside originInside inside old ?_ ?_ ?_
      · exact fun same => fresh (same ▸ xMem)
      · exact fun same => fresh (same ▸ List.mem_of_mem_tail yMem)
      · exact fun same => (List.nodup_cons.mp ring.nodup).1 (same ▸ yMem)
    · refine List.isChain_cons_cons.mpr ⟨⟨?_, ?_⟩, List.isChain_singleton origin⟩
      · rw [nextOf_linkLast nodes place inside (by omega), previous, if_neg placeOther, if_pos rfl]
      · rw [previousOf_linkLast nodes origin inside originInside, if_pos rfl]
    · intro x xLast y yFirst
      obtain rfl : last = x := Option.some.inj (isLast.symm.trans xLast)
      obtain rfl : place = y := Option.some.inj yFirst
      constructor
      · rw [nextOf_linkLast nodes last inside (by omega), previous, if_pos rfl]
      · rw [previousOf_linkLast nodes place inside originInside, if_neg placeInner, if_pos rfl, previous]

/-- A promoted node becomes the last one. -/
theorem IsRing.promote {nodes : Array (Node α β)} {front back : List Nat} {place : Nat}
    (ring : IsRing nodes (front ++ place :: back)) :
    IsRing (promote nodes place) (front ++ back ++ [place]) := by
  have nodup : (place :: (origin :: front ++ back)).Nodup := by
    rw [← List.nodup_middle]
    simpa using ring.nodup
  apply ring.unlink.linkLast (List.nodup_cons.mp nodup).1
  simpa using ring.bounded place (by simp)

/-- Only links matter for a ring, not entries. -/
theorem IsRing.of_links {nodes nodes' : Array (Node α β)} {places : List Nat}
    (ring : IsRing nodes places) (size : nodes.size ≤ nodes'.size)
    (next : ∀ place < nodes.size, nextOf nodes' place = nextOf nodes place)
    (previous : ∀ place < nodes.size, previousOf nodes' place = previousOf nodes place) :
    IsRing nodes' places := by
  refine ⟨ring.nodup, fun x member => (ring.bounded x member).trans_le size, ?_⟩
  have inside : ∀ x ∈ origin :: places ++ [origin], x < nodes.size := fun x member =>
    ring.bounded x (by simpa [or_comm, or_assoc] using member)
  apply ring.linked.imp_of_mem_imp
  intro x y xMem yMem joined
  exact ⟨(next x (inside x xMem)).trans joined.1, (previous y (inside y yMem)).trans joined.2⟩

/-- The ring with another entry in a node. -/
def setEntry (nodes : Array (Node α β)) (place : Nat)
    (change : Option (α × β) → Option (α × β)) : Array (Node α β) :=
  nodes.modify place fun n => { n with entry := change n.entry }

@[simp]
theorem size_setEntry (nodes : Array (Node α β)) (place : Nat)
    (change : Option (α × β) → Option (α × β)) :
    (setEntry nodes place change).size = nodes.size := by
  simp [setEntry]

theorem IsRing.setEntry {nodes : Array (Node α β)} {places : List Nat} (ring : IsRing nodes places)
    (place : Nat) (change : Option (α × β) → Option (α × β)) :
    IsRing (setEntry nodes place change) places := by
  refine ring.of_links (by simp) ?_ ?_
  · exact fun other _ => nextOf_modify_of_keeps nodes place other fun _ => rfl
  · exact fun other _ => previousOf_modify_of_keeps nodes place other fun _ => rfl

theorem entryAt_setEntry {nodes : Array (Node α β)} {place : Nat} (other : Nat)
    (change : Option (α × β) → Option (α × β)) (inside : place < nodes.size) :
    entryAt (setEntry nodes place change) other =
      if other = place then change (entryAt nodes place) else entryAt nodes other := by
  simp only [entryAt, setEntry, Array.getElem?_modify]
  by_cases same : other = place
  · subst same
    simp [inside]
  · simp [same, Ne.symm same]

/-! ## Following the links -/

/-- In a chain of links that ends at node zero, a place leads to the first of those behind it. -/
theorem nextOf_of_chain {nodes : Array (Node α β)} {place : Nat} {rest : List Nat}
    (chain : (place :: rest ++ [origin]).IsChain (Joined nodes)) :
    nextOf nodes place = rest.headD origin := by
  cases rest with
  | nil => exact (List.isChain_cons_cons.mp chain).1.1
  | cons following rest => exact (List.isChain_cons_cons.mp chain).1.1

/-- The way along a chain of links that ends at node zero. -/
theorem walk_of_chain {nodes : Array (Node α β)} {places : List Nat} (inner : origin ∉ places)
    (bounded : ∀ place ∈ places, place < nodes.size)
    (chain : (places ++ [origin]).IsChain (Joined nodes)) :
    Walk nodes (places.headD origin) (places.flatMap (keyAt nodes)) := by
  induction places with
  | nil => exact .ended
  | cons place rest inductionHypothesis =>
      simp only [List.mem_cons, not_or] at inner
      have way := inductionHypothesis inner.2
        (fun x member => bounded x (List.mem_cons_of_mem _ member)) chain.tail
      exact .visited (Ne.symm inner.1) (bounded place (by simp)) (nextOf_of_chain chain ▸ way)

/-- The bounded search for keys meets all keys on the way, if the bound is not below their number. -/
theorem keysFrom_of_chain {nodes : Array (Node α β)} {places : List Nat} {fuel : Nat}
    (enough : places.length ≤ fuel) (inner : origin ∉ places)
    (chain : (places ++ [origin]).IsChain (Joined nodes)) :
    keysFrom nodes fuel (places.headD origin) = places.flatMap (keyAt nodes) := by
  induction places generalizing fuel with
  | nil => cases fuel <;> simp [keysFrom]
  | cons place rest inductionHypothesis =>
      simp only [List.mem_cons, not_or] at inner
      obtain ⟨fuel, rfl⟩ : ∃ n, fuel = n + 1 := ⟨fuel - 1, by simp at enough; omega⟩
      have others := inductionHypothesis (by simpa using enough) inner.2 chain.tail
      rw [← nextOf_of_chain chain] at others
      simp [keysFrom, Ne.symm inner.1, others, keyAt]

end SampleLibrary.Cache
