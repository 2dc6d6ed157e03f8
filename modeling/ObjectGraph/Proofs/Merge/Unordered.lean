import ObjectGraph.Proofs.Merge.Arrange
import ObjectGraph.Proofs.Value.Hash

/-!
# Objects without an order in sorted sets

Objects whose type declares no order are sorted by where they are in memory, unless they are equal.
That is no order at all if an object lies between two that are equal and equals neither: it comes after
the one and before the other, which tie.  A sorted set may then hold both of them, or miss one that it
holds.  If no object lies so, all is well: every object may be thought to be where the first one in
memory lies that equals it, its *seat*, and the seats are in a linear order.

* `Value.Unsplit`: no object lies between two equal ones.
* `Value.Unsplit.orderedBy_seat`: values are then in the order of their seats.
* `Value.SplitOrder`: what the three do in a set if one of them lies so.
* `MergePolicy.sortedSet_of_unordered`: this is what sets of the values need, and no less.
-/

namespace ObjectGraph

/-! ## Objects without an order -/

namespace Value

/-- Whether a value holds no object, or the one at its address, of a type that declares no order. -/
def Unordered (located : UInt64 → Entity) : Value → Prop
  | .entity h => h.target = located h.address ∧ h.target.semantics.orderKey? = none
  | _ => True

/-- Whether the first of three objects lies between the others, which are equal, and equals neither. -/
def splits : Value → Value → Value → Bool
  | .entity m, .entity g, .entity h => g.equal h && !g.equal m && g.typeName == m.typeName &&
      decide (g.address < m.address) && decide (m.address < h.address)
  | _, _, _ => false

/-- No object among values lies between two equal ones, unless it equals them. -/
def Unsplit (vs : List Value) : Prop :=
  ∀ m ∈ vs, ∀ a ∈ vs, ∀ b ∈ vs, m.splits a b = false

instance (vs : List Value) : Decidable (Unsplit vs) :=
  inferInstanceAs (Decidable (∀ m ∈ vs, ∀ a ∈ vs, ∀ b ∈ vs, m.splits a b = false))

theorem splits_iff {m g h : Handle} : (entity m).splits (.entity g) (.entity h) = true ↔
    g.equal h = true ∧ g.equal m = false ∧ g.typeName = m.typeName ∧ g.address < m.address ∧
      m.address < h.address := by
  simp only [splits, Bool.and_eq_true, Bool.not_eq_true', beq_iff_eq, decide_eq_true_eq, and_assoc]

variable {located : UInt64 → Entity} {vs ws : List Value} {a b v : Value} {g h m : Handle}

theorem Unordered.compare?_eq_none (hg : (entity g).Unordered located) (e : Entity) :
    g.target.compare? e = none := by
  have undeclared : g.target.semantics.orderKey? = none := hg.2
  simp [Entity.compare?, undeclared]

/-- Values without an order are not tied. -/
theorem untied_of_unordered (here : ∀ v ∈ vs, v.Unordered located) : Untied located vs := by
  constructor
  · intro v member
    cases v with
    | entity h => exact (here _ member).1
    | _ => trivial
  · intro a ha b hb
    cases a with
    | entity g =>
      cases b with
      | entity h => simp [tied, (here _ ha).compare?_eq_none]
      | _ => rfl
    | _ => rfl

theorem equal_entity_of_unordered (hg : (entity g).Unordered located) :
    (entity g).equal (.entity h) = g.equal h := by
  rw [Bool.eq_iff_iff, equal_entity_iff, tied_iff, hg.compare?_eq_none]
  simp

/-- Objects of one type that are not equal compare by their addresses. -/
theorem compare_of_unordered (hg : (entity g).Unordered located) (unequal : g.equal h = false)
    (type : g.typeName = h.typeName) :
    (entity g).compare (.entity h) = Ord.compare g.address h.address := by
  have apart : g.target.equal h.target = false := unequal
  have names : Ord.compare g.target.typeName h.target.typeName = .eq :=
    compare_eq_iff_eq.2 type
  show g.target.compare h.target = _
  rw [Entity.compare, if_neg (by simp [apart]), hg.compare?_eq_none, names]
  rfl

theorem typeName_eq_of_equal (hg : (entity g).Unordered located)
    (hh : (entity h).Unordered located) (same : g.equal h = true) : g.typeName = h.typeName := by
  rcases Entity.equal_iff.1 same with here | ⟨type, -⟩
  · have target : g.target = h.target :=
      (hg.1.trans (congrArg located here)).trans hh.1.symm
    exact congrArg Entity.typeName target
  · exact type

/-! ## Seats -/

def addressOf : Value → Nat
  | .entity h => h.address.toNat
  | _ => 0

/-- Where the first object in memory lies that equals the given one. -/
def firstAddress (vs : List Value) (h : Handle) : Nat :=
  ((vs.filter (entity h).equal).map addressOf).min?.getD 0

/-- The place of a value, with an object where the first one that equals it lies. -/
def seat (vs : List Value) : Value → Place
  | .entity h => .of 9 h.typeName "" "" (firstAddress vs h)
  | v => v.place

theorem exists_seat (vs : List Value) (v : Value) :
    ∃ name key text number, v.seat vs = .of v.rank name key text number := by
  cases v with
  | _ => exact ⟨_, _, _, _, rfl⟩

theorem seat_of_plain (plain : ∀ h, v ≠ .entity h) : v.seat vs = v.place := by
  cases v with
  | entity h => exact absurd rfl (plain h)
  | _ => rfl

theorem firstAddress_le (hh : .entity h ∈ vs) (same : (entity g).equal (.entity h) = true) :
    firstAddress vs g ≤ h.address.toNat := by
  refine List.min?_getD_le_of_mem (List.mem_map.2 ⟨.entity h, ?_, rfl⟩)
  exact List.mem_filter.2 ⟨hh, same⟩

theorem exists_firstAddress (hg : .entity g ∈ vs) : ∃ h, .entity h ∈ vs ∧
    (entity g).equal (.entity h) = true ∧ firstAddress vs g = h.address.toNat := by
  have itself : (entity g).addressOf ∈ (vs.filter (entity g).equal).map addressOf :=
    List.mem_map_of_mem (List.mem_filter.2 ⟨hg, equal_self _⟩)
  obtain ⟨least, found⟩ := Option.isSome_iff_exists.1 (List.isSome_min?_of_mem itself)
  obtain ⟨w, member, address⟩ := List.mem_map.1 (List.min?_mem found)
  obtain ⟨old, same⟩ := List.mem_filter.1 member
  rcases eq_or_entities_of_equal same with ⟨rfl, plain⟩ | ⟨i, h, -, rfl⟩
  · exact absurd rfl (plain g)
  · exact ⟨h, old, same, by rw [firstAddress, found, ← address]; rfl⟩

theorem firstAddress_eq (untied : Untied located vs) (hg : .entity g ∈ vs) (hh : .entity h ∈ vs)
    (same : (entity g).equal (.entity h) = true) : firstAddress vs g = firstAddress vs h := by
  have le {i j : Handle} (hi : .entity i ∈ vs) (hj : .entity j ∈ vs)
      (same : (entity i).equal (.entity j) = true) : firstAddress vs i ≤ firstAddress vs j := by
    obtain ⟨k, hk, first, address⟩ := exists_firstAddress hj
    rw [address]
    exact firstAddress_le hk (untied.equal_trans hi hj hk same first)
  exact Nat.le_antisymm (le hg hh same) (le hh hg (untied.equal_symm hg hh same))

/-- Objects of one type that are not equal have seats in the order of their addresses. -/
theorem firstAddress_lt (here : ∀ v ∈ vs, v.Unordered located) (unsplit : Unsplit vs)
    (hg : .entity g ∈ vs) (hh : .entity h ∈ vs) (unequal : g.equal h = false)
    (type : g.typeName = h.typeName) (less : g.address < h.address) :
    firstAddress vs g < firstAddress vs h := by
  have untied := untied_of_unordered here
  obtain ⟨i, hi, same, first⟩ := exists_firstAddress hh
  have own : firstAddress vs g ≤ g.address.toNat := firstAddress_le hg (equal_self _)
  have other : i.equal g = false := by
    rw [← equal_entity_of_unordered (here _ hi), ← untied.equal_congr hh hi hg same,
      untied.equal_comm hh hg, equal_entity_of_unordered (here _ hg)]
    exact unequal
  have apart : i.address ≠ g.address := Entity.address_ne_of_unequal other
  have back : i.equal h = true := by
    rw [← equal_entity_of_unordered (here _ hi)]
    exact untied.equal_symm hh hi same
  by_contra notLess
  have below : i.address < g.address := by
    rw [UInt64.lt_iff_toNat_lt]
    exact Nat.lt_of_le_of_ne (by omega) (UInt64.toNat_inj.not.2 apart)
  have named : i.typeName = g.typeName :=
    (typeName_eq_of_equal (here _ hi) (here _ hh) back).trans type.symm
  have split := splits_iff.2 ⟨back, other, named, below, less⟩
  rw [unsplit _ hg _ hi _ hh] at split
  cases split

theorem compares_seat_entity (here : ∀ v ∈ vs, v.Unordered located) (unsplit : Unsplit vs)
    (hg : .entity g ∈ vs) (hh : .entity h ∈ vs) :
    ((entity g).compare (.entity h)).Compares ((entity g).seat vs) ((entity h).seat vs) := by
  have untied := untied_of_unordered here
  cases same : g.equal h with
  | true =>
    have tie : (entity g).equal (.entity h) = true :=
      (equal_entity_of_unordered (here _ hg)).trans same
    have seats : (entity g).seat vs = (entity h).seat vs := by
      simp only [seat, firstAddress_eq untied hg hh tie,
        typeName_eq_of_equal (here _ hg) (here _ hh) same]
    rw [beq_iff_eq.1 (show ((entity g).compare (.entity h) == .eq) = true from tie)]
    exact seats
  | false =>
    by_cases type : g.typeName = h.typeName
    · have back : h.equal g = false := (Entity.equal_comm _ _).trans same
      rw [compare_of_unordered (here _ hg) same type]
      refine Place.compares_of_cases (fun less => ?_) (fun meets => ?_) fun notLess different => ?_
      · have seats := firstAddress_lt here unsplit hg hh same type less
        exact Place.of_lt_of.2 (.inr ⟨rfl, .inr ⟨type, .inr ⟨rfl, .inr ⟨rfl, by omega⟩⟩⟩⟩)
      · exact absurd meets (Entity.address_ne_of_unequal same)
      · have greater : h.address < g.address := by
          rw [UInt64.lt_iff_toNat_lt] at notLess ⊢
          rw [Ne, ← UInt64.toNat_inj] at different
          omega
        have seats := firstAddress_lt here unsplit hh hg back type.symm greater
        exact Place.of_lt_of.2 (.inr ⟨rfl, .inr ⟨type.symm, .inr ⟨rfl, .inr ⟨rfl, by omega⟩⟩⟩⟩)
    · have apart : g.address ≠ h.address := Entity.address_ne_of_unequal same
      have compared : (entity g).compare (.entity h) = Ord.compare g.typeName h.typeName :=
        Entity.compare_of_typeName_ne type apart
      rw [compared]
      exact Place.compares_of_name type

/-- **Values are in the order of their seats.** -/
theorem Unsplit.orderedBy_seat (unsplit : Unsplit vs) (here : ∀ v ∈ vs, v.Unordered located) :
    OrderedBy (seat vs) vs := by
  intro a ha b hb
  by_cases kind : a.rank = b.rank
  · rcases Objects.plain_or_entities a b with plain | different | ⟨g, h, rfl, rfl⟩
    · have other : ∀ h, b ≠ .entity h := by
        rintro h rfl
        cases a with
        | entity g => exact plain g rfl
        | _ => cases kind
      rw [seat_of_plain plain, seat_of_plain other]
      exact Objects.compares_place_of_plain plain
    · exact absurd kind different
    · exact compares_seat_entity here unsplit ha hb
  · obtain ⟨n, k, t, i, aSeat⟩ := exists_seat vs a
    obtain ⟨m, l, u, j, bSeat⟩ := exists_seat vs b
    rw [compare_of_rank kind, aSeat, bSeat]
    exact Place.compares_of_rank kind

/-! ## Sets that are split -/

/-- Of two objects of one type that are not equal the one that lies before the other is less. -/
theorem compare_of_address_lt (hg : (entity g).Unordered located)
    (hh : (entity h).Unordered located) (unequal : g.equal h = false)
    (type : g.typeName = h.typeName) (less : g.address < h.address) :
    (entity g).compare (.entity h) = .lt ∧ (entity h).compare (.entity g) = .gt := by
  have back : h.equal g = false := (Entity.equal_comm _ _).trans unequal
  rw [UInt64.lt_iff_toNat_lt] at less
  have notLess : ¬ h.address < g.address := by
    rw [UInt64.lt_iff_toNat_lt]
    omega
  have apart : h.address ≠ g.address := Entity.address_ne_of_unequal back
  rw [compare_of_unordered hg unequal type, compare_of_unordered hh back type.symm]
  exact ⟨if_pos less, (if_neg notLess).trans (if_neg apart)⟩

/-- The order of three objects of which the second splits the others. -/
structure SplitOrder (a m b : Value) : Prop where
  first : a.compare m = .lt
  firstBack : m.compare a = .gt
  second : m.compare b = .lt
  secondBack : b.compare m = .gt
  ends : a.compare b = .eq
  endsBack : b.compare a = .eq

/-- An object between two equal ones comes after the one and before the other. -/
theorem exists_splitOrder (here : ∀ v ∈ vs, v.Unordered located) (split : ¬ Unsplit vs) :
    ∃ a ∈ vs, ∃ m ∈ vs, ∃ b ∈ vs, SplitOrder a m b := by
  have untied := untied_of_unordered here
  simp only [Unsplit, not_forall, Bool.not_eq_false] at split
  obtain ⟨m, hm, a, ha, b, hb, split⟩ := split
  cases m with
  | entity m =>
    cases a with
    | entity g =>
      cases b with
      | entity h =>
        obtain ⟨same, unequal, type, before, after⟩ := splits_iff.1 split
        have tie : (entity g).equal (.entity h) = true :=
          (equal_entity_of_unordered (here _ ha)).trans same
        have named := typeName_eq_of_equal (here _ ha) (here _ hb) same
        have other : m.equal h = false := by
          rw [← equal_entity_of_unordered (here _ hm), untied.equal_comm hm hb,
            ← untied.equal_congr ha hb hm tie, equal_entity_of_unordered (here _ ha)]
          exact unequal
        obtain ⟨first, firstBack⟩ :=
          compare_of_address_lt (here _ ha) (here _ hm) unequal type before
        obtain ⟨second, secondBack⟩ :=
          compare_of_address_lt (here _ hm) (here _ hb) other (type.symm.trans named) after
        exact ⟨_, ha, _, hm, _, hb, first, firstBack, second, secondBack, beq_iff_eq.1 tie,
          beq_iff_eq.1 (untied.equal_symm ha hb tie)⟩
      | _ => cases split
    | _ => cases split
  | _ => cases split

namespace SplitOrder

variable {a m b : Value}

/-- In the order of memory the three stay, and two of them are equal. -/
theorem sortDistinct_apart (order : SplitOrder a m b) : sortDistinct [a, m, b] = [a, m, b] := by
  have sorted : sort [a, m, b] = [a, m, b] := by
    simp [sort, insertDescending, order.firstBack, order.secondBack]
  rw [sortDistinct, sorted]
  simp [dropRepeats, equal, order.first, order.second]

/-- If the last comes before the first, this one stays for both, at the end. -/
theorem sortDistinct_joined (order : SplitOrder a m b) : sortDistinct [m, b, a] = [m, a] := by
  have sorted : sort [m, b, a] = [m, b, a] := by
    simp [sort, insertDescending, order.secondBack, order.ends]
  rw [sortDistinct, sorted]
  simp [dropRepeats, equal, order.second, order.endsBack]

/-- It is not found there, since it is less than the one before it. -/
theorem not_find_joined (order : SplitOrder a m b) : SortedSet.find a [m, a] = false := by
  simp [SortedSet.find, order.first]

end SplitOrder

/-! ## Sets of any objects without an order -/

/-- The last of equal neighbours stays: it is first in what is left, and no neighbours are equal. -/
theorem exists_dropRepeats_cons (untied : Untied located vs) : ∀ {v : Value} {ws : List Value},
    v :: ws ⊆ vs → ∃ w rest, dropRepeats (v :: ws) = w :: rest ∧ v.equal w = true ∧
      (w :: rest).IsChain fun a b => a.equal b = false
  | v, [], part => ⟨v, [], rfl, equal_self v, .singleton v⟩
  | v, u :: ws, part => by
    obtain ⟨hv, tail⟩ := List.cons_subset.1 part
    obtain ⟨hu, -⟩ := List.cons_subset.1 tail
    obtain ⟨w, rest, left, same, chain⟩ := exists_dropRepeats_cons untied tail
    have hw : w ∈ vs := tail ((dropRepeats_sublist _).subset (left ▸ List.mem_cons_self))
    rw [dropRepeats]
    split
    · next equal => exact ⟨w, rest, left, untied.equal_trans hv hu hw equal same, chain⟩
    · next unequal =>
      refine ⟨v, w :: rest, by rw [left], equal_self v, List.isChain_cons_cons.2 ⟨?_, chain⟩⟩
      rw [← Bool.not_eq_true]
      exact fun meets =>
        unequal (untied.equal_trans hv hw hu meets (untied.equal_symm hu hw same))

theorem isChain_dropRepeats (untied : Untied located vs) (part : ws ⊆ vs) :
    (dropRepeats ws).IsChain fun a b => a.equal b = false := by
  cases ws with
  | nil => exact .nil
  | cons v ws =>
    obtain ⟨w, rest, left, -, chain⟩ := exists_dropRepeats_cons untied part
    rw [left]
    exact chain

/-- No value is dropped of which there is no equal one. -/
theorem exists_equal_dropRepeats (untied : Untied located vs) : ∀ {ws : List Value}, ws ⊆ vs →
    ∀ v ∈ ws, ∃ w ∈ dropRepeats ws, v.equal w = true
  | [], _, _, member => by cases member
  | u :: ws, part, v, member => by
    obtain ⟨hu, tail⟩ := List.cons_subset.1 part
    rcases List.mem_cons.1 member with rfl | later
    · obtain ⟨w, rest, left, same, -⟩ := exists_dropRepeats_cons untied part
      exact ⟨w, by rw [left]; exact List.mem_cons_self, same⟩
    · obtain ⟨w, kept, same⟩ := exists_equal_dropRepeats untied tail v later
      refine ⟨w, ?_, same⟩
      cases ws with
      | nil => cases later
      | cons x ws =>
        rw [dropRepeats]
        split
        · exact kept
        · exact List.mem_cons_of_mem u kept

/-! ## What sets need -/

theorem Unsplit.pairwise_sortDistinct (unsplit : Unsplit vs)
    (here : ∀ v ∈ vs, v.Unordered located) (part : ws ⊆ vs) :
    (sortDistinct ws).Pairwise fun a b => a.equal b = false := by
  have ordered := (unsplit.orderedBy_seat here).mono part
  refine ordered.pairwise_sortDistinct.imp_of_mem fun {a b} ha hb below => ?_
  rw [← Bool.not_eq_true,
    ordered.equal_iff (mem_of_mem_sortDistinct ha) (mem_of_mem_sortDistinct hb)]
  exact below.ne

theorem Unsplit.contains_ofList (unsplit : Unsplit vs) (here : ∀ v ∈ vs, v.Unordered located)
    (part : ws ⊆ vs) (member : v ∈ ws) : (SortedSet.ofList ws).contains v = true := by
  have ordered := (unsplit.orderedBy_seat here).mono (List.cons_subset.2 ⟨part member, part⟩)
  exact ordered.contains_ofList_iff.2 ⟨v, member, equal_self v⟩

/-- If an object splits two others, the set of the three in the order of memory holds both. -/
theorem unsplit_of_pairwise (here : ∀ v ∈ vs, v.Unordered located)
    (apart : ∀ ws ⊆ vs, (sortDistinct ws).Pairwise fun a b => a.equal b = false) :
    Unsplit vs := by
  by_contra split
  obtain ⟨a, ha, m, hm, b, hb, order⟩ := exists_splitOrder here split
  have unequal := apart [a, m, b] (by simp [ha, hm, hb])
  rw [order.sortDistinct_apart] at unequal
  have ends : a.equal b = false := (List.pairwise_cons.1 unequal).1 b (by simp)
  simp [equal, order.ends] at ends

/-- If an object splits two others, the set of the three with the first at the end misses that. -/
theorem unsplit_of_contains (here : ∀ v ∈ vs, v.Unordered located)
    (found : ∀ ws ⊆ vs, ∀ v ∈ ws, (SortedSet.ofList ws).contains v = true) : Unsplit vs := by
  by_contra split
  obtain ⟨a, ha, m, hm, b, hb, order⟩ := exists_splitOrder here split
  have present := found [m, b, a] (by simp [ha, hm, hb]) a (by simp)
  rw [SortedSet.contains, SortedSet.items_ofList, order.sortDistinct_joined,
    order.not_find_joined] at present
  cases present

theorem unsplit_of_compare (here : ∀ v ∈ vs, v.Unordered located)
    (alike : ∀ a ∈ vs, ∀ b ∈ vs, ∀ d ∈ vs, a.equal b = true → a.compare d = b.compare d) :
    Unsplit vs := by
  by_contra split
  obtain ⟨a, ha, m, hm, b, hb, order⟩ := exists_splitOrder here split
  have same := alike a ha b hb m hm (by simp [equal, order.ends])
  rw [order.first, order.secondBack] at same
  cases same

end Value

namespace MergePolicy

open Value

variable {located : UInt64 → Entity} {vs : List Value}

/-- **Sorted sets of objects without an order are sets exactly if the objects are not split.**
Whatever the objects and their addresses are, a sorted set of at most twenty of them has an equal
member for each value it was built from, and no neighbours in it are equal; more of them need not be
sorted by insertion, which makes a difference where there is no order.  Three more things hold exactly
if no object among the values lies between two equal ones and equals neither: no sorted set of some of
the values has two equal members; each of these sets finds what it was built from; equal values compare
alike with every other. -/
theorem sortedSet_of_unordered (here : ∀ v ∈ vs, v.Unordered located) :
    (vs.length ≤ 20 → ∃ c, containerOf .sortedSet vs = .ok c ∧
      (∀ v ∈ vs, ∃ w ∈ c.values, v.equal w = true) ∧
      c.values.IsChain fun a b => a.equal b = false) ∧
    (Unsplit vs ↔ ∀ ws ⊆ vs, ∃ c, containerOf .sortedSet ws = .ok c ∧
      c.values.Pairwise fun a b => a.equal b = false) ∧
    (Unsplit vs ↔ ∀ ws ⊆ vs, ∃ c, containerOf .sortedSet ws = .ok c ∧
      ∀ v ∈ ws, c.contains v = true) ∧
    (Unsplit vs ↔ ∀ a ∈ vs, ∀ b ∈ vs, ∀ d ∈ vs, a.equal b = true →
      a.compare d = b.compare d) := by
  have untied := untied_of_unordered here
  have sorted : sort vs ⊆ vs := (perm_sort vs).subset
  refine ⟨fun _ => ⟨_, rfl, fun v member => ?_, isChain_dropRepeats untied sorted⟩, ⟨?_, ?_⟩,
    ⟨?_, ?_⟩, ⟨?_, ?_⟩⟩
  · exact exists_equal_dropRepeats untied sorted v ((perm_sort vs).symm.subset member)
  · exact fun unsplit ws part => ⟨_, rfl, unsplit.pairwise_sortDistinct here part⟩
  · refine fun sets => unsplit_of_pairwise here fun ws part => ?_
    obtain ⟨c, built, apart⟩ := sets ws part
    cases built
    exact apart
  · exact fun unsplit ws part => ⟨_, rfl, fun v => unsplit.contains_ofList here part⟩
  · refine fun sets => unsplit_of_contains here fun ws part => ?_
    obtain ⟨c, built, found⟩ := sets ws part
    cases built
    exact found
  · exact fun unsplit a ha b hb d hd => (unsplit.orderedBy_seat here).compare_congr ha hb hd
  · exact unsplit_of_compare here

/-- Objects of one type that equal each other lie next to each other, whatever lies between them of
another type: a set of them finds all. -/
theorem sortedSet_of_unordered_grouped :
    let tag : Nat → UInt64 → String → Entity := fun n address key =>
      ⟨n, address, "Node", "tag", "#", .keyed ⟨"id", key⟩⟩
    let node : Entity := ⟨3, 24, "Node", "node", "#3", .identity⟩
    let vs : List Value := [.entity (.object (tag 2 48 "l")), .entity (.standIn 4 (.object node)),
      .entity (.object (tag 1 32 "k")), .null, .entity (.object (tag 0 16 "k"))]
    ∃ c, containerOf .sortedSet vs = .ok c ∧
      (c.values.Pairwise fun a b => a.equal b = false) ∧ ∀ v ∈ vs, c.contains v = true := by
  intro tag node vs
  let located : UInt64 → Entity := fun address =>
    if address = 16 then tag 0 16 "k" else if address = 24 then node else
      if address = 32 then tag 1 32 "k" else tag 2 48 "l"
  have here : ∀ v ∈ vs, v.Unordered located := by
    simp only [vs, List.forall_mem_cons]
    exact ⟨⟨rfl, rfl⟩, ⟨rfl, rfl⟩, ⟨rfl, rfl⟩, trivial, ⟨rfl, rfl⟩, by simp⟩
  have unsplit : Unsplit vs := by decide
  obtain ⟨-, apart_iff, finds_iff, -⟩ := sortedSet_of_unordered here
  obtain ⟨c, built, apart⟩ := apart_iff.1 unsplit vs (List.Subset.refl vs)
  obtain ⟨d, again, finds⟩ := finds_iff.1 unsplit vs (List.Subset.refl vs)
  rw [built] at again
  cases again
  exact ⟨c, built, apart, finds⟩

/-- Two equal objects and one between them: in the order of memory a set holds both, and it misses the
first if that was put in last. -/
theorem sortedSet_of_split :
    let tag : Nat → UInt64 → String → Value := fun n address key =>
      .entity (.object ⟨n, address, "Node", "tag", "#", .keyed ⟨"id", key⟩⟩)
    let a := tag 0 16 "k"
    let m := tag 1 32 "l"
    let b := tag 2 48 "k"
    a.equal b = true ∧ a.compare m = .lt ∧ b.compare m = .gt ∧
      (∃ c, containerOf .sortedSet [a, m, b] = .ok c ∧
        ¬ c.values.Pairwise fun a b => a.equal b = false) ∧
      ∃ c, containerOf .sortedSet [m, b, a] = .ok c ∧ c.contains a = false := by
  intro tag a m b
  exact ⟨by decide, by decide, by decide, ⟨_, rfl, by decide⟩, _, rfl, by decide⟩

end MergePolicy

end ObjectGraph
