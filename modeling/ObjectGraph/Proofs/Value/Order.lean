import ObjectGraph.Proofs.Value.Place

/-!
# Laws of the order of values

For hashed containers a type that orders its objects by a key has to declare the equality by that key
too, and `Objects.Admits` asks for it.  The order itself does not need it.  `Objects.Ranks` leaves it
open, and `Value.withEquality` adds what is missing: no comparison is changed by that, and what comes
out is admitted.  So ranked values compare as places too, and places are in a linear order.

* `Objects.compare_withEquality`: a declared equality adds nothing to a declared order.
* `Objects.compare_laws`: ranked values are in a total order, up to ties of keys.
* `Value.eq_of_equal`: without objects there are no ties.
-/

namespace ObjectGraph

/-! ## Objects that are ordered, with or without an equality -/

/-- Whether an object is ordered as is said of its type name: by its address alone, or by a key, with
or without the equality by that key. -/
def Entity.Ranks (e : Entity) : Comparison → Prop
  | .identity => e.semantics = .identity
  | .byKey => ∃ key, e.semantics.orderKey? = some key

/-- Whether a value holds no object, or one that is located and ordered as known. -/
def Objects.Ranks (o : Objects) : Value → Prop
  | .entity h => h.target = o.located h.address ∧ h.target.Ranks (o.comparison h.typeName)
  | _ => True

/-- What is declared, and the equality by the key of the order. -/
def Semantics.withEquality : Semantics → Semantics
  | .orderOnly key => .ordered key
  | s => s

def Entity.withEquality (e : Entity) : Entity := { e with semantics := e.semantics.withEquality }

def Objects.withEquality (o : Objects) : Objects :=
  { o with located := fun address => (o.located address).withEquality }

/-- The value with an object that declares the equality by the key of its order. -/
def Value.withEquality : Value → Value
  | .entity h => .entity (.object h.target.withEquality)
  | v => v

theorem Semantics.orderKey?_withEquality (s : Semantics) :
    s.withEquality.orderKey? = s.orderKey? := by
  cases s with
  | _ => rfl

theorem Semantics.withEquality_of_orderKey? {s : Semantics} {key : Key}
    (orders : s.orderKey? = some key) : s.withEquality = .ordered key := by
  cases s with
  | identity | keyed => cases orders
  | ordered | orderOnly =>
    cases orders
    rfl

theorem Entity.Ranks.declares {e : Entity} {comparison : Comparison} (ranks : e.Ranks comparison) :
    e.withEquality.Declares comparison := by
  cases comparison with
  | identity =>
    show e.semantics.withEquality = .identity
    rw [show e.semantics = .identity from ranks]
    rfl
  | byKey =>
    obtain ⟨key, orders⟩ := ranks
    exact ⟨key, Semantics.withEquality_of_orderKey? orders⟩

namespace Objects

variable {o : Objects} {a b c : Value}

theorem Ranks.admits (ranks : o.Ranks a) : o.withEquality.Admits a.withEquality := by
  cases a with
  | entity h =>
    obtain ⟨there, ordered⟩ := ranks
    exact ⟨congrArg Entity.withEquality there, ordered.declares⟩
  | _ => trivial

theorem OneKey.withEquality (one : o.OneKey) : o.withEquality.OneKey := by
  obtain ⟨name, named⟩ := one
  refine ⟨name, fun address key orders => named address key ?_⟩
  rw [← orders]
  exact (Semantics.orderKey?_withEquality _).symm

theorem compare_withEquality_entity (one : o.OneKey) {g h : Handle} (hg : o.Ranks (.entity g))
    (hh : o.Ranks (.entity h)) :
    g.target.withEquality.compare h.target.withEquality = g.target.compare h.target := by
  obtain ⟨gAt, gRanks⟩ := hg
  obtain ⟨hAt, hRanks⟩ := hh
  have sameObject (same : g.address = h.address) : g.target = h.target := by
    rw [gAt, hAt, same]
  by_cases type : g.typeName = h.typeName
  · rw [type] at gRanks
    cases kind : o.comparison h.typeName with
    | identity =>
      rw [kind] at gRanks
      have plain : g.target.withEquality.Declares .identity := gRanks.declares
      have after : g.target.withEquality.compare h.target.withEquality =
          Ord.compare g.address h.address := Entity.compare_of_identity plain type
      rw [after, Entity.compare_of_identity gRanks type]
      rfl
    | byKey =>
      rw [kind] at gRanks hRanks
      obtain ⟨k, gKey⟩ := gRanks
      obtain ⟨l, hKey⟩ := hRanks
      have named : k.name = l.name := one.name_eq gAt hAt gKey hKey type
      have keys (same : g.address = h.address) : k = l := by
        rw [sameObject same, hKey] at gKey
        exact (Option.some.inj gKey).symm
      have after : g.target.withEquality.compare h.target.withEquality =
          Ord.compare k.text l.text :=
        Entity.compare_of_orderKey ((Semantics.orderKey?_withEquality _).trans gKey)
          ((Semantics.orderKey?_withEquality _).trans hKey) type named keys
      rw [after, Entity.compare_of_orderKey gKey hKey type named keys]
  · have apart : g.address ≠ h.address := fun same =>
      type (congrArg Entity.typeName (sameObject same))
    have after : g.target.withEquality.compare h.target.withEquality =
        Ord.compare g.typeName h.typeName := Entity.compare_of_typeName_ne type apart
    rw [after, Entity.compare_of_typeName_ne type apart]
    rfl

/-- **A declared equality adds nothing to a declared order.** -/
theorem compare_withEquality (one : o.OneKey) (ha : o.Ranks a) (hb : o.Ranks b) :
    a.withEquality.compare b.withEquality = a.compare b := by
  cases a with
  | entity g =>
    cases b with
    | entity h => exact compare_withEquality_entity one ha hb
    | _ => rfl
  | _ =>
    cases b with
    | _ => rfl

/-- Ranked values compare as places. -/
theorem compares_ranked (one : o.OneKey) (ha : o.Ranks a) (hb : o.Ranks b) :
    (a.compare b).Compares a.withEquality.place b.withEquality.place := by
  rw [← compare_withEquality one ha hb]
  exact compares_place one.withEquality ha.admits hb.admits

end Objects

/-! ## Without objects -/

namespace Value

theorem rank_eq_of_equal {a b : Value} (same : a.equal b = true) : a.rank = b.rank := by
  rw [equal, beq_iff_eq] at same
  by_contra different
  have compared := Objects.compares_place_of_rank different
  rw [same] at compared
  exact different (rank_eq_of_place compared)

/-- Values without objects are admitted whatever objects there are. -/
theorem exists_objects {a b : Value} (ha : ∀ h, a ≠ .entity h) (hb : ∀ h, b ≠ .entity h) :
    ∃ o : Objects, o.Admits a ∧ o.Admits b := by
  have admitted (o : Objects) {v : Value} (plain : ∀ h, v ≠ .entity h) : o.Admits v := by
    cases v with
    | entity h => exact absurd rfl (plain h)
    | _ => trivial
  let o : Objects := ⟨fun address => ⟨0, address, "", "", "", .identity⟩, fun _ => .identity⟩
  exact ⟨o, admitted o ha, admitted o hb⟩

theorem equal_self (v : Value) : v.equal v = true := by
  by_cases plain : ∀ h, v ≠ .entity h
  · obtain ⟨o, admitted, -⟩ := exists_objects plain plain
    exact (Objects.equal_iff admitted admitted).2 rfl
  · simp only [not_forall, not_not] at plain
    obtain ⟨h, rfl⟩ := plain
    simp [equal, compare, Handle.compare, Entity.compare, Entity.equal]

theorem sameMember_self (v : Value) : v.sameMember v = true := by
  rw [sameMember, equal_self, beq_self_eq_true, Bool.and_self]

/-- Only objects may be equal without being the same value. -/
theorem eq_of_equal {a b : Value} (plain : ∀ h, a ≠ .entity h) (same : a.equal b = true) :
    a = b := by
  have kind := rank_eq_of_equal same
  have other : ∀ h, b ≠ .entity h := by
    rintro h rfl
    cases a with
    | entity g => exact plain g rfl
    | _ => cases kind
  obtain ⟨o, ha, hb⟩ := exists_objects plain other
  exact eq_of_place plain ((Objects.equal_iff ha hb).1 same)

/-- Equal values are the same, or both are objects. -/
theorem eq_or_entities_of_equal {a b : Value} (same : a.equal b = true) :
    a = b ∧ (∀ h, a ≠ .entity h) ∨ ∃ g h, a = .entity g ∧ b = .entity h := by
  by_cases plain : ∀ h, a ≠ .entity h
  · exact .inl ⟨eq_of_equal plain same, plain⟩
  · simp only [not_forall, not_not] at plain
    obtain ⟨g, rfl⟩ := plain
    have kind := rank_eq_of_equal same
    cases b with
    | entity h => exact .inr ⟨g, h, rfl, rfl⟩
    | _ => cases kind

end Value

/-! ## The laws -/

namespace Objects

variable {o : Objects} {a b c : Value}

/-- **Values are in a total order, up to ties of keys.**  Let each type name be ordered by addresses or
by one key, as it is if its objects are of one concrete type.  Then every value equals itself; the
order of two values is the reverse of their order the other way round; it is transitive; and values
that tie are in the same order with every third value.  Values without objects tie only if they are
the same. -/
theorem compare_laws (one : o.OneKey) (ha : o.Ranks a) (hb : o.Ranks b) (hc : o.Ranks c) :
    a.compare a = .eq ∧
    b.compare a = (a.compare b).swap ∧
    (a.compare b ≠ .gt → b.compare c ≠ .gt → a.compare c ≠ .gt) ∧
    (a.compare b = .eq → a.compare c = b.compare c) ∧
    ((∀ h, a ≠ .entity h) → (a.compare b = .eq ↔ a = b)) := by
  have ab := compares_ranked one ha hb
  have bc := compares_ranked one hb hc
  have ac := compares_ranked one ha hc
  refine ⟨(compares_ranked one ha ha).eq_eq.2 rfl, ?_, fun first second => ?_, fun tied => ?_,
    fun plain => ⟨fun tied => ?_, fun same => ?_⟩⟩
  · exact (compares_ranked one hb ha).inj (Ordering.compares_swap.2 ab)
  · exact ac.ne_gt.2 ((ab.ne_gt.1 first).trans (bc.ne_gt.1 second))
  · have same : a.withEquality.place = b.withEquality.place := ab.eq_eq.1 tied
    rw [← same] at bc
    exact ac.inj bc
  · exact Value.eq_of_equal plain (beq_iff_eq.2 tied)
  · rw [← same]
    exact (compares_ranked one ha ha).eq_eq.2 rfl

/-- Two objects whose type orders them by one key and declares no equality tie, also through a
stand-in, and they are in the same order with an object that is only itself. -/
theorem compare_laws_tie :
    let tag : Nat → UInt64 → Entity :=
      fun n address => ⟨n, address, "Tag", "tag", "#", .orderOnly ⟨"id", "k"⟩⟩
    let other : Entity := ⟨2, 48, "Node", "node", "#2", .identity⟩
    let a : Value := .entity (.standIn 3 (.object (tag 0 16)))
    let b : Value := .entity (.object (tag 1 32))
    let c : Value := .entity (.object other)
    a.compare b = .eq ∧ a.compare a = .eq ∧ b.compare a = .eq ∧ b.compare c = .gt ∧
      a.compare c = b.compare c := by
  intro tag other a b c
  let o : Objects :=
    ⟨fun address => if address = 16 then tag 0 16 else if address = 32 then tag 1 32 else other,
      fun typeName => if typeName = "tag" then .byKey else .identity⟩
  have one : o.OneKey := by
    refine oneKey_of_all "id" fun address => ?_
    simp only [o]
    split_ifs
    all_goals rfl
  have ha : o.Ranks a := ⟨rfl, _, rfl⟩
  have hb : o.Ranks b := ⟨rfl, _, rfl⟩
  have hc : o.Ranks c := ⟨rfl, rfl⟩
  obtain ⟨self, reverse, -, alike, -⟩ := compare_laws one ha hb hc
  have tied : a.compare b = .eq := by decide
  exact ⟨tied, self, reverse.trans (congrArg Ordering.swap tied), by decide, alike tied⟩

end Objects

end ObjectGraph
