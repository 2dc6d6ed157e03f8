import ObjectGraph.Proofs.Value.First

/-!
# Equality and hashes of values

The equality of values is read off their order, and the hash of an object off its declared equality.
The two fit together unless a type declares an order and no equality: objects with one key then tie in
the order and so count as equal values, while each is hashed by its own address.  `Value.tied` is this
case, and there is no other.

* `Value.hashContent_eq_iff`: equal values hash alike exactly if they are not tied.
* `Value.hash_agrees`: without ties a hashed set finds what a search through the list finds.
* `Value.hash_disagrees`: with a tie it does not.
-/

namespace ObjectGraph

/-! ## Equality of objects -/

namespace Entity

variable {a b c : Entity}

theorem equal_symm (same : a.equal b = true) : b.equal a = true := by
  rw [equal_iff] at same ⊢
  rcases same with here | ⟨type, key, ha, hb⟩
  · exact .inl here.symm
  · exact .inr ⟨type.symm, key, hb, ha⟩

theorem equal_comm (a b : Entity) : a.equal b = b.equal a :=
  Bool.eq_iff_iff.2 ⟨equal_symm, equal_symm⟩

/-- Equality is transitive where an address belongs to one object. -/
theorem equal_trans (left : a.address = b.address → a = b) (right : b.address = c.address → b = c)
    (first : a.equal b = true) (second : b.equal c = true) : a.equal c = true := by
  rcases equal_iff.1 first with here | ⟨type, key, ha, hb⟩
  · rw [left here]
    exact second
  · rcases equal_iff.1 second with there | ⟨type', key', hb', hc⟩
    · rw [← right there]
      exact first
    · rw [hb] at hb'
      cases hb'
      exact equal_iff.2 (.inr ⟨type.trans type', key, ha, hc⟩)

end Entity

namespace Value

variable {located : UInt64 → Entity} {a b c v : Value} {g h : Handle} {vs : List Value}

/-- Whether the object that a value reaches, if any, is the one located at its address. -/
def Located (located : UInt64 → Entity) : Value → Prop
  | .entity h => h.target = located h.address
  | _ => True

/-- Whether two objects are not equal and yet not told apart by the order that they declare. -/
def tied : Value → Value → Bool
  | .entity g, .entity h => !g.equal h && g.target.compare? h.target == some .eq
  | _, _ => false

theorem tied_iff : (entity g).tied (.entity h) = true ↔
    g.equal h = false ∧ g.target.compare? h.target = some .eq := by
  rw [tied, Bool.and_eq_true, Bool.not_eq_true', beq_iff_eq]

theorem Located.target_eq (hg : (entity g).Located located) (hh : (entity h).Located located)
    (here : g.address = h.address) : g.target = h.target :=
  (Eq.trans hg (congrArg located here)).trans (Eq.symm hh)

/-! ## Equality and hash -/

theorem equal_entity_iff : (entity g).equal (.entity h) = true ↔
    g.equal h = true ∨ (entity g).tied (.entity h) = true := by
  have compared : (entity g).equal (.entity h) = true ↔ g.target.compare h.target = .eq :=
    beq_iff_eq
  rw [compared, Entity.compare_eq_iff, tied_iff]
  show g.equal h = true ∨ _ ↔ _
  cases g.equal h with
  | true => simp
  | false => simp

/-- Equal objects have one address or declare one key. -/
theorem hashContent_eq_of_equal (hg : (entity g).Located located) (hh : (entity h).Located located)
    (same : g.equal h = true) : (entity g).hashContent = (entity h).hashContent := by
  rcases Entity.equal_iff.1 same with here | ⟨-, key, gKey, hKey⟩
  · have target := Located.target_eq hg hh here
    simp only [hashContent, Handle.address, target]
  · simp only [hashContent, gKey, hKey]

/-- Of two objects that are tied one declares its order alone. -/
theorem orderOnly_of_tied (tie : (entity g).tied (.entity h) = true) :
    ∃ key, g.target.semantics = .orderOnly key ∨ h.target.semantics = .orderOnly key := by
  obtain ⟨unequal, compared⟩ := tied_iff.1 tie
  obtain ⟨type, key, gKey, hKey⟩ := Entity.compare?_eq_some_eq_iff.1 compared
  refine ⟨key, ?_⟩
  have either {s : Semantics} (orders : s.orderKey? = some key) :
      s = .orderOnly key ∨ s.equalityKey? = some key := by
    cases s with
    | identity | keyed => cases orders
    | ordered =>
      cases orders
      exact .inr rfl
    | orderOnly =>
      cases orders
      exact .inl rfl
  rcases either gKey with gAlone | gEquality
  · exact .inl gAlone
  · rcases either hKey with hAlone | hEquality
    · exact .inr hAlone
    · have same := Entity.equal_iff.2 (.inr ⟨type, key, gEquality, hEquality⟩)
      rw [show g.target.equal h.target = false from unequal] at same
      cases same

/-- Objects that are tied hash apart. -/
theorem hashContent_ne_of_tied (tie : (entity g).tied (.entity h) = true) :
    (entity g).hashContent ≠ (entity h).hashContent := by
  have apart : g.address ≠ h.address := Entity.address_ne_of_unequal (tied_iff.1 tie).1
  obtain ⟨key, alone⟩ := orderOnly_of_tied tie
  simp only [hashContent]
  rcases alone with gAlone | hAlone
  · rw [gAlone]
    cases h.target.semantics.equalityKey? with
    | none => simpa [Semantics.equalityKey?] using apart
    | some l => simp [Semantics.equalityKey?]
  · rw [hAlone]
    cases g.target.semantics.equalityKey? with
    | none => simpa [Semantics.equalityKey?] using apart
    | some l => simp [Semantics.equalityKey?]

/-- **Equal values hash alike exactly if they are not tied.** -/
theorem hashContent_eq_iff (ha : a.Located located) (hb : b.Located located)
    (same : a.equal b = true) : a.hashContent = b.hashContent ↔ a.tied b = false := by
  rcases eq_or_entities_of_equal same with ⟨rfl, plain⟩ | ⟨g, h, rfl, rfl⟩
  · have untied : a.tied a = false := by
      cases a with
      | entity h => exact absurd rfl (plain h)
      | _ => rfl
    exact iff_of_true rfl untied
  · rw [← Bool.not_eq_true]
    constructor
    · intro alike tie
      exact hashContent_ne_of_tied tie alike
    · intro untied
      exact hashContent_eq_of_equal ha hb ((equal_entity_iff.1 same).resolve_right untied)

/-! ## Finding values -/

/-- The values are located, and no two of them are tied. -/
def Untied (located : UInt64 → Entity) (vs : List Value) : Prop :=
  (∀ a ∈ vs, a.Located located) ∧ ∀ a ∈ vs, ∀ b ∈ vs, a.tied b = false

/-- A hashed container takes untied values for the same member if they are equal. -/
theorem Untied.sameMember_iff (untied : Untied located vs) (ha : a ∈ vs) (hb : b ∈ vs) :
    a.sameMember b = true ↔ a.equal b = true := by
  rw [sameMember, Bool.and_eq_true, beq_iff_eq]
  refine ⟨And.right, fun same => ⟨?_, same⟩⟩
  exact (hashContent_eq_iff (untied.1 a ha) (untied.1 b hb) same).2 (untied.2 a ha b hb)

theorem Untied.equal_entity_iff (untied : Untied located vs) (hg : .entity g ∈ vs)
    (hh : .entity h ∈ vs) : (entity g).equal (.entity h) = true ↔ g.equal h = true := by
  rw [Value.equal_entity_iff, untied.2 _ hg _ hh, or_iff_left Bool.false_ne_true]

theorem Untied.equal_symm (untied : Untied located vs) (ha : a ∈ vs) (hb : b ∈ vs)
    (same : a.equal b = true) : b.equal a = true := by
  rcases eq_or_entities_of_equal same with ⟨rfl, -⟩ | ⟨g, h, rfl, rfl⟩
  · exact same
  · rw [untied.equal_entity_iff ha hb] at same
    exact (untied.equal_entity_iff hb ha).2 (Entity.equal_symm same)

theorem Untied.equal_trans (untied : Untied located vs) (ha : a ∈ vs) (hb : b ∈ vs) (hc : c ∈ vs)
    (first : a.equal b = true) (second : b.equal c = true) : a.equal c = true := by
  rcases eq_or_entities_of_equal first with ⟨rfl, -⟩ | ⟨g, h, rfl, rfl⟩
  · exact second
  · rcases eq_or_entities_of_equal second with ⟨rfl, -⟩ | ⟨h', k, entity, rfl⟩
    · exact first
    · cases entity
      rw [untied.equal_entity_iff ha hb] at first
      rw [untied.equal_entity_iff hb hc] at second
      rw [untied.equal_entity_iff ha hc]
      have left := Located.target_eq (untied.1 _ ha) (untied.1 _ hb)
      have right := Located.target_eq (untied.1 _ hb) (untied.1 _ hc)
      exact Entity.equal_trans left right first second

/-- Equal values equal the same others. -/
theorem Untied.equal_congr (untied : Untied located vs) (ha : a ∈ vs) (hb : b ∈ vs) (hc : c ∈ vs)
    (same : a.equal b = true) : a.equal c = b.equal c := by
  have back := untied.equal_symm ha hb same
  exact Bool.eq_iff_iff.2 ⟨untied.equal_trans hb ha hc back, untied.equal_trans ha hb hc same⟩

theorem Untied.equal_comm (untied : Untied located vs) (ha : a ∈ vs) (hb : b ∈ vs) :
    a.equal b = b.equal a :=
  Bool.eq_iff_iff.2 ⟨untied.equal_symm ha hb, untied.equal_symm hb ha⟩

/-- What a hashed set finds among its members. -/
theorem contains_ofList_iff (hashes : ∀ w ∈ vs, v.equal w = true → v.hashContent = w.hashContent) :
    (InsertionSet.ofList vs).contains v = true ↔
      ∃ w ∈ firstOccurrences vs, v.sameMember w = true := by
  have single {w : Value} (member : w ∈ vs) (same : v.equal w = true) : v.sameMember w = true := by
    rw [sameMember, same, hashes w member same, beq_self_eq_true, Bool.and_self]
  unfold InsertionSet.contains
  rw [InsertionSet.items_ofList]
  split
  · next none => simp [none]
  · next w one =>
    have member : w ∈ vs := mem_of_mem_firstOccurrences (one ▸ List.mem_singleton_self w)
    rw [one]
    simp only [List.mem_singleton, exists_eq_left]
    exact ⟨single member, fun same => (Bool.and_eq_true _ _ ▸ same).2⟩
  · exact List.any_eq_true

/-- **Without ties equality and hash fit together.**  Of values whose objects are those at their
addresses, behind any stand-ins: two that are equal contribute the same to a hash exactly if they are
not tied, and two can be tied only if one is an object of a type that declares its order alone.  If
no two of them are tied, a hashed set of the values finds what a search through their list finds. -/
theorem hash_agrees (here : ∀ u ∈ v :: vs, u.Located located) :
    (∀ a ∈ v :: vs, ∀ b ∈ v :: vs, a.equal b = true →
      (a.hashContent = b.hashContent ↔ a.tied b = false)) ∧
    (∀ g h, (entity g).tied (.entity h) = true →
      ∃ key, g.target.semantics = .orderOnly key ∨ h.target.semantics = .orderOnly key) ∧
    ((∀ a ∈ v :: vs, ∀ b ∈ v :: vs, a.tied b = false) →
      (Container.set (.ofList vs)).contains v = (Container.list vs).contains v) := by
  refine ⟨fun a ha b hb => hashContent_eq_iff (here a ha) (here b hb), fun g h => orderOnly_of_tied,
    fun apart => ?_⟩
  have untied : Untied located (v :: vs) := ⟨here, apart⟩
  have hv : v ∈ v :: vs := List.mem_cons_self
  have old {u : Value} (hu : u ∈ vs) : u ∈ v :: vs := List.mem_cons_of_mem v hu
  have hashes (w : Value) (hw : w ∈ vs) (same : v.equal w = true) : v.hashContent = w.hashContent :=
    (hashContent_eq_iff (here v hv) (here w (old hw)) same).2 (apart v hv w (old hw))
  have found : (InsertionSet.ofList vs).contains v = true ↔ (vs.any fun u => u.equal v) = true := by
    rw [contains_ofList_iff hashes, List.any_eq_true]
    constructor
    · intro kept
      obtain ⟨w, member, same⟩ := kept
      have hw := mem_of_mem_firstOccurrences member
      rw [untied.sameMember_iff hv (old hw)] at same
      exact ⟨w, hw, untied.equal_symm hv (old hw) same⟩
    · intro listed
      obtain ⟨u, hu, same⟩ := listed
      obtain ⟨w, member, gathered⟩ := exists_sameMember_firstOccurrences hu
      have hw := mem_of_mem_firstOccurrences member
      rw [untied.sameMember_iff (old hu) (old hw)] at gathered
      have back := untied.equal_symm (old hu) hv same
      exact ⟨w, member, (untied.sameMember_iff hv (old hw)).2
        (untied.equal_trans hv (old hu) (old hw) back gathered)⟩
  exact Bool.eq_iff_iff.2 found

/-- An object is found through a stand-in of another one that declares the same key. -/
theorem hash_agrees_standIn :
    let node : Nat → UInt64 → Entity :=
      fun n address => ⟨n, address, "Node", "node", "#", .keyed ⟨"id", "k"⟩⟩
    let v : Value := .entity (.standIn 2 (.object (node 0 16)))
    let vs : List Value := [.null, .entity (.object (node 1 32))]
    (Container.set (.ofList vs)).contains v = true ∧ (Container.list vs).contains v = true ∧
      v.hashContent = (Value.entity (.object (node 1 32))).hashContent := by
  intro node v vs
  have here : ∀ u ∈ v :: vs, u.Located fun address => node (if address = 16 then 0 else 1) address := by
    simp only [vs, List.forall_mem_cons]
    exact ⟨rfl, trivial, rfl, by simp⟩
  have apart : ∀ a ∈ v :: vs, ∀ b ∈ v :: vs, a.tied b = false := by
    simp only [vs, List.forall_mem_cons, List.not_mem_nil, false_implies, implies_true, and_true]
    decide
  obtain ⟨alike, -, agrees⟩ := hash_agrees here
  have listed : (Container.list vs).contains v = true := by decide
  refine ⟨(agrees apart).trans listed, listed, ?_⟩
  exact (alike v (by simp) _ (by simp [vs]) (by decide)).2 (apart v (by simp) _ (by simp [vs]))

/-- **With a tie they do not fit.**  Two objects of a type that orders them by a key and declares no
equality are equal values; they hash apart, and a hashed set misses what a search through a list
finds. -/
theorem hash_disagrees :
    let tag : Nat → UInt64 → Entity :=
      fun n address => ⟨n, address, "Node", "tag", "#", .orderOnly ⟨"id", "k"⟩⟩
    let a : Value := .entity (.object (tag 0 16))
    let b : Value := .entity (.object (tag 1 32))
    a.equal b = true ∧ a.hashContent ≠ b.hashContent ∧
      (Container.set (.ofList [a, .null])).contains b = false ∧
      (Container.list [a, .null]).contains b = true := by
  decide

end Value

end ObjectGraph
