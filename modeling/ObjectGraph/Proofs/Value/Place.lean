import Mathlib.Data.Prod.Lex
import Mathlib.Data.String.Basic
import ObjectGraph.Container

/-!
# Places of values

`Value.compare` mixes ten kinds of content with the declared orders of objects.  Where the objects
declare their comparison consistently, all of it is one linear order: every value has a *place*, a
rank with three texts and a number, and values compare as their places do.

`Objects` says what is consistent: one object at an address, and one kind of comparison for a type
name.  `Objects.Admits` is the condition on a value.  Equality needs no more; for the order,
`Objects.OneKey` asks that the keys of a type name are one.

* `Objects.equal_iff`, `Objects.sameMember_iff`: equality, and membership in a hashed container,
  are equality of places.
* `Objects.compares_place`: admitted values with one key for a type name compare as their places.
-/

namespace ObjectGraph

/-! ## Places -/

/-- A position in the order of values. -/
abbrev Place := Nat ×ₗ String ×ₗ String ×ₗ String ×ₗ Int

/-- The place of a rank, three texts and a number. -/
def Place.of (rank : Nat) (name key text : String) (number : Int) : Place :=
  toLex (rank, toLex (name, toLex (key, toLex (text, number))))

section

variable {r r' : Nat} {n n' k k' t t' : String} {j j' : Int}

theorem Place.of_lt_of : Place.of r n k t j < Place.of r' n' k' t' j' ↔
    r < r' ∨ r = r' ∧ (n < n' ∨ n = n' ∧ (k < k' ∨ k = k' ∧ (t < t' ∨ t = t' ∧ j < j'))) := by
  simp only [Place.of, Prod.Lex.toLex_lt_toLex]

theorem Place.of_inj : Place.of r n k t j = Place.of r' n' k' t' j' ↔
    r = r' ∧ n = n' ∧ k = k' ∧ t = t' ∧ j = j' := by
  simp only [Place.of, EmbeddingLike.apply_eq_iff_eq, Prod.mk.injEq]

/-- A comparison by `<` and equality is that of two places, if these are related in the same way. -/
theorem Place.compares_of_cases {α : Type} [LT α] [DecidableLT α] [DecidableEq α] {a b : α}
    {x y : Place} (below : a < b → x < y) (same : a = b → x = y)
    (above : ¬ a < b → a ≠ b → y < x) : (compareOfLessAndEq a b).Compares x y := by
  unfold compareOfLessAndEq
  split
  · next less => exact below less
  · next notLess =>
    split
    · next equal => exact same equal
    · next different => exact above notLess different

/-- A comparison by `<` and equality is the comparison of places, if places ascend with `<`. -/
theorem Place.compares_of_mono {α : Type} [LT α] [DecidableLT α] [DecidableEq α] {a b : α}
    {p : α → Place} (mono : ∀ {x y : α}, x < y → p x < p y)
    (total : ¬ a < b → a ≠ b → b < a) :
    (compareOfLessAndEq a b).Compares (p a) (p b) :=
  compares_of_cases mono (congrArg p) fun notLess different => mono (total notLess different)

/-- Places of different ranks compare as their ranks. -/
theorem Place.compares_of_rank (different : r ≠ r') :
    (Ord.compare r r').Compares (Place.of r n k t j) (Place.of r' n' k' t' j') := by
  cases ranks : Ord.compare r r' with
  | lt => exact Place.of_lt_of.2 (.inl (compare_lt_iff_lt.1 ranks))
  | eq => exact absurd (compare_eq_iff_eq.1 ranks) different
  | gt => exact Place.of_lt_of.2 (.inl (compare_gt_iff_gt.1 ranks))

/-- Places of one rank and different names compare as their names. -/
theorem Place.compares_of_name (different : n ≠ n') :
    (Ord.compare n n').Compares (Place.of r n k t j) (Place.of r n' k' t' j') := by
  cases names : Ord.compare n n' with
  | lt => exact Place.of_lt_of.2 (.inr ⟨rfl, .inl (compare_lt_iff_lt.1 names)⟩)
  | eq => exact absurd (compare_eq_iff_eq.1 names) different
  | gt => exact Place.of_lt_of.2 (.inr ⟨rfl, .inl (compare_gt_iff_gt.1 names)⟩)

end

/-! ## Floating-point numbers -/

/-- Only one bit pattern has a given key in the total order. -/
theorem Binary.orderKey_injective {f : Format} {x y : Binary f}
    (same : x.orderKey = y.orderKey) : x = y := by
  have bound : 2 ^ f.width ≤ 2 * f.signBit := by
    rw [Format.signBit, Nat.pow_eq]
    rcases f.width with _ | n
    · decide
    · rw [Nat.add_sub_cancel, Nat.pow_succ, Nat.mul_comm]
  have positive : 0 < f.signBit := Nat.two_pow_pos _
  have hx := x.bits.isLt
  have hy := y.bits.isLt
  have magnitude_of (z : Binary f) (hz : z.bits.toNat < 2 ^ f.width) :
      z.magnitude = if z.isNegative then z.bits.toNat - f.signBit else z.bits.toNat := by
    unfold magnitude isNegative
    by_cases negative : f.signBit ≤ z.bits.toNat
    · simp only [negative, decide_true, if_true]
      rw [Nat.mod_eq_sub_mod negative, Nat.mod_eq_of_lt (by omega)]
    · simp only [negative, decide_false, Bool.false_eq_true, if_false]
      exact Nat.mod_eq_of_lt (by omega)
  have mx := magnitude_of x hx
  have my := magnitude_of y hy
  have bits : x.bits.toNat = y.bits.toNat := by
    unfold orderKey at same
    cases nx : x.isNegative <;> cases ny : y.isNegative <;>
      simp only [nx, ny, if_true, Bool.false_eq_true, if_false] at same mx my
    all_goals simp only [isNegative, decide_eq_true_eq, decide_eq_false_iff_not] at nx ny
    all_goals omega
  cases x
  cases y
  exact congrArg Binary.mk (BitVec.eq_of_toNat_eq bits)

/-! ## Objects that declare their comparison consistently -/

/-- How the objects of a type name are compared. -/
inductive Comparison where
  /-- No equality and no order is declared: an object equals itself alone. -/
  | identity
  /-- Equality, hash and order are declared by a key. -/
  | byKey

/-- Whether an object declares what is said of its type name. -/
def Entity.Declares (e : Entity) : Comparison → Prop
  | .identity => e.semantics = .identity
  | .byKey => ∃ key, e.semantics = .ordered key

/-- What is known about all objects that values reach: which one is at an address, and how those of
a type name are compared. -/
structure Objects where
  located : UInt64 → Entity
  comparison : String → Comparison

/-- Whether a value holds no object, or one that is as known. -/
def Objects.Admits (o : Objects) : Value → Prop
  | .entity h => h.target = o.located h.address ∧ h.target.Declares (o.comparison h.typeName)
  | _ => True

/-- Whether the objects of a type name that are ordered by a key are ordered by one key.  Concrete
types may report one type name and share its key.  If they report one type name and have keys of their
own, an object of the one gives no answer for an object of the other, just as if no equality and no
order were declared, and addresses decide between them: the type name is then used with both kinds of
comparison. -/
def Objects.OneKey (o : Objects) : Prop :=
  ∃ name : String → String, ∀ address key,
    (o.located address).semantics.orderKey? = some key →
      key.name = name (o.located address).typeName

/-- With two keys under one type name there is no order: of these objects the first is less than the
second, and the second less than the third, which equals the first. -/
example :
    let tag : Nat → UInt64 → Key → Value := fun n address key =>
      .entity (.object ⟨n, address, "Node", "tag", "#", .ordered key⟩)
    let a := tag 0 16 ⟨"id", "k"⟩
    let m := tag 1 32 ⟨"title", "k"⟩
    let b := tag 2 48 ⟨"id", "k"⟩
    a.compare m = .lt ∧ m.compare b = .lt ∧ a.equal b = true := by
  decide

/-- The place of a value: its kind, then its content.  Objects are placed by type name, and then by
their key or else by their address. -/
def Value.place : Value → Place
  | .null => .of 0 "" "" "" 0
  | .boolean b => .of 1 "" "" "" b.toNat
  | .integer i => .of 2 "" "" "" i.toInt
  | .long l => .of 3 "" "" "" l.toInt
  | .float x => .of 4 "" "" "" x.orderKey
  | .double x => .of 5 "" "" "" x.orderKey
  | .character c => .of 6 "" "" "" c.toNat
  | .string s => .of 7 s "" "" 0
  | .enum t v => .of 8 t v "" 0
  | .entity h =>
    match h.target.semantics with
    | .ordered key => .of 9 h.typeName key.name key.text 0
    | _ => .of 9 h.typeName "" "" h.address.toNat

namespace Value

theorem place_of_identity {h : Handle} (plain : h.target.semantics = .identity) :
    (entity h).place = .of 9 h.typeName "" "" h.address.toNat := by
  rw [place, plain]

theorem place_of_ordered {h : Handle} {key : Key} (declared : h.target.semantics = .ordered key) :
    (entity h).place = .of 9 h.typeName key.name key.text 0 := by
  rw [place, declared]

/-- The place of an object begins with its type name. -/
theorem exists_place_entity (h : Handle) :
    ∃ key text number, (Value.entity h).place = .of 9 h.typeName key text number := by
  cases semantics : h.target.semantics <;> exact ⟨_, _, _, by simp [place, semantics]; rfl⟩

/-- The place of a value begins with its rank. -/
theorem exists_place (v : Value) :
    ∃ name key text number, v.place = .of v.rank name key text number := by
  cases v with
  | entity h => exact ⟨h.typeName, exists_place_entity h⟩
  | _ => exact ⟨_, _, _, _, rfl⟩

/-- Values of different kinds compare by their ranks. -/
theorem compare_of_rank {a b : Value} (different : a.rank ≠ b.rank) :
    a.compare b = Ord.compare a.rank b.rank := by
  cases a <;> cases b <;> first | rfl | exact absurd rfl different

theorem rank_eq_of_place {a b : Value} (same : a.place = b.place) : a.rank = b.rank := by
  obtain ⟨n, k, t, i, aPlace⟩ := a.exists_place
  obtain ⟨m, l, u, j, bPlace⟩ := b.exists_place
  rw [aPlace, bPlace] at same
  exact (Place.of_inj.1 same).1

theorem typeName_eq_of_place {g h : Handle}
    (same : (Value.entity g).place = (Value.entity h).place) : g.typeName = h.typeName := by
  obtain ⟨k, t, i, gPlace⟩ := exists_place_entity g
  obtain ⟨l, u, j, hPlace⟩ := exists_place_entity h
  rw [gPlace, hPlace] at same
  exact (Place.of_inj.1 same).2.1

/-- Only one value that is no object has a given place. -/
theorem eq_of_place {a b : Value} (plain : ∀ h, a ≠ .entity h) (same : a.place = b.place) :
    a = b := by
  have kind := rank_eq_of_place same
  cases a <;> cases b <;> first | cases kind; done | skip
  case entity g h => exact absurd rfl (plain g)
  all_goals simp only [place, Place.of_inj, Int.natCast_inj, true_and, and_true] at same
  case null => rfl
  case boolean x y => cases x <;> cases y <;> first | rfl | cases same
  case integer x y => rw [Int32.toInt_inj.1 same]
  case long x y => rw [Int64.toInt_inj.1 same]
  case float x y => rw [Binary.orderKey_injective same]
  case double x y => rw [Binary.orderKey_injective same]
  case character x y => rw [Char.toNat_inj.1 same]
  case string x y => rw [same]
  case enum s v t w => rw [same.1, same.2]

end Value

/-! ## Comparing objects -/

/-- Two objects have a key in common if it is the same one with the same text. -/
theorem Key.common_iff {k l : Key} :
    (∃ key, some k = some key ∧ some l = some key) ↔ k.name = l.name ∧ k.text = l.text := by
  simp [← Key.ext_iff, eq_comm]

/-- A key by which objects are equal, and one by which they are ordered, are the same. -/
theorem Semantics.equalityKey?_eq {s : Semantics} {k l : Key} (orders : s.orderKey? = some k)
    (equates : s.equalityKey? = some l) : l = k := by
  cases s with
  | ordered =>
    cases orders
    cases equates
    rfl
  | identity | keyed => cases orders
  | orderOnly => cases equates

namespace Entity

variable {a b : Entity}

/-- Objects are equal by their address, or by a key that both declare. -/
theorem equal_iff : a.equal b = true ↔ a.address = b.address ∨
    a.typeName = b.typeName ∧ ∃ key, a.semantics.equalityKey? = some key ∧
      b.semantics.equalityKey? = some key := by
  rw [equal, Bool.or_eq_true, beq_iff_eq]
  refine or_congr_right ?_
  unfold equals?
  cases ha : a.semantics.equalityKey? with
  | none => simp
  | some k =>
    cases hb : b.semantics.equalityKey? with
    | none => simp
    | some l =>
      rw [Key.common_iff]
      by_cases type : a.typeName = b.typeName <;> by_cases name : k.name = l.name <;>
        simp [type, name]

theorem address_ne_of_unequal (unequal : a.equal b = false) : a.address ≠ b.address := fun here => by
  rw [equal_iff.2 (.inl here)] at unequal
  cases unequal

theorem compare?_eq_some_eq_iff : a.compare? b = some .eq ↔ a.typeName = b.typeName ∧
    ∃ key, a.semantics.orderKey? = some key ∧ b.semantics.orderKey? = some key := by
  unfold compare?
  cases ha : a.semantics.orderKey? with
  | none => simp
  | some k =>
    cases hb : b.semantics.orderKey? with
    | none => simp
    | some l =>
      rw [Key.common_iff]
      by_cases type : a.typeName = b.typeName <;> by_cases name : k.name = l.name <;>
        simp [type, name]

/-- Neither of two objects comes before the other if they are equal, or if the order that they
declare does not tell them apart. -/
theorem compare_eq_iff : a.compare b = .eq ↔ a.equal b = true ∨ a.compare? b = some .eq := by
  unfold compare
  cases same : a.equal b with
  | true => simp
  | false =>
    cases declared : a.compare? b with
    | some o => simp
    | none => simp [Ordering.then_eq_eq, address_ne_of_unequal same]

/-- Objects of different types compare by the names of their types. -/
theorem compare_of_typeName_ne (different : a.typeName ≠ b.typeName)
    (apart : a.address ≠ b.address) :
    a.compare b = Ord.compare a.typeName b.typeName := by
  have unequal : a.equal b = false := by
    rw [← Bool.not_eq_true, equal_iff]
    simp [apart, different]
  have undeclared : a.compare? b = none := by
    unfold compare?
    rcases a.semantics.orderKey? with _ | k <;> rcases b.semantics.orderKey? with _ | l <;>
      simp [different]
  have names : Ord.compare a.typeName b.typeName ≠ .eq :=
    fun same => different (Std.LawfulEqOrd.eq_of_compare same)
  unfold compare
  rw [unequal, undeclared]
  cases h : Ord.compare a.typeName b.typeName with
  | eq => exact absurd h names
  | lt => rfl
  | gt => rfl

/-- An object that declares no comparison compares by its address with those of its type. -/
theorem compare_of_identity (ha : a.semantics = .identity) (type : a.typeName = b.typeName) :
    a.compare b = Ord.compare a.address b.address := by
  have undeclared : a.compare? b = none := by simp [compare?, ha, Semantics.orderKey?]
  have equal_iff : a.equal b = (a.address == b.address) := by
    simp [equal, equals?, ha, Semantics.equalityKey?]
  unfold compare
  rw [equal_iff, undeclared, type]
  by_cases same : a.address = b.address
  · simp [same]
  · simp [same]

/-- Objects of one type name that are ordered by one key compare by what they have for it, whether
they declare the equality by it or not. -/
theorem compare_of_orderKey {k l : Key} (ha : a.semantics.orderKey? = some k)
    (hb : b.semantics.orderKey? = some l) (type : a.typeName = b.typeName) (one : k.name = l.name)
    (keys : a.address = b.address → k = l) : a.compare b = Ord.compare k.text l.text := by
  have declared : a.compare? b = some (Ord.compare k.text l.text) := by
    simp [compare?, ha, hb, type, one]
  have equalKeys (same : a.equal b = true) : k = l := by
    rcases equal_iff.1 same with here | ⟨-, m, hm, hn⟩
    · exact keys here
    · rw [← Semantics.equalityKey?_eq ha hm, ← Semantics.equalityKey?_eq hb hn]
  unfold compare
  cases same : a.equal b with
  | true => simp [equalKeys same]
  | false => simp [declared]

end Entity

namespace Objects

variable {o : Objects}

/-- Numbers of one kind compare as their places. -/
theorem compares_number {r j k : Nat} :
    (Ord.compare j k).Compares (Place.of r "" "" "" j) (Place.of r "" "" "" k) :=
  Place.compares_of_mono (p := fun n : Nat => .of r "" "" "" n)
    (fun less => by simpa [Place.of_lt_of] using less) (by omega)

/-- Values of different kinds compare as their places. -/
theorem compares_place_of_rank {a b : Value} (different : a.rank ≠ b.rank) :
    (a.compare b).Compares a.place b.place := by
  obtain ⟨n, k, t, i, aPlace⟩ := a.exists_place
  obtain ⟨m, l, u, j, bPlace⟩ := b.exists_place
  rw [Value.compare_of_rank different, aPlace, bPlace]
  exact Place.compares_of_rank different

/-- Values compare as their places, unless both are objects. -/
theorem compares_place_of_plain {a b : Value} (plain : ∀ h, a ≠ .entity h) :
    (a.compare b).Compares a.place b.place := by
  by_cases kind : a.rank = b.rank
  · cases a <;> cases b <;> first | cases kind; done | skip
    case null => exact rfl
    case boolean x y => cases x <;> cases y <;> first | exact rfl | exact Place.of_lt_of.2 (by decide)
    case integer x y =>
      exact Place.compares_of_mono (p := fun i : Int32 => .of 2 "" "" "" i.toInt)
        (fun less => by simpa [Place.of_lt_of, Int32.lt_iff_toInt_lt] using less)
        (by rw [Int32.lt_iff_toInt_lt, Int32.lt_iff_toInt_lt, Ne, ← Int32.toInt_inj]; omega)
    case long x y =>
      exact Place.compares_of_mono (p := fun i : Int64 => .of 3 "" "" "" i.toInt)
        (fun less => by simpa [Place.of_lt_of, Int64.lt_iff_toInt_lt] using less)
        (by rw [Int64.lt_iff_toInt_lt, Int64.lt_iff_toInt_lt, Ne, ← Int64.toInt_inj]; omega)
    case float x y => exact compares_number
    case double x y => exact compares_number
    case character x y =>
      exact Place.compares_of_mono (p := fun c : Char => .of 6 "" "" "" c.toNat)
        (fun less => by simpa [Place.of_lt_of, Char.lt_def, UInt32.lt_iff_toNat_lt] using less)
        (fun notLess different => lt_of_le_of_ne (not_lt.1 notLess) (Ne.symm different))
    case string x y =>
      exact Place.compares_of_mono (p := fun s : String => .of 7 s "" "" 0)
        (fun less => by simpa [Place.of_lt_of] using less)
        (fun notLess different => lt_of_le_of_ne (not_lt.1 notLess) (Ne.symm different))
    case enum s v t w =>
      show ((Ord.compare s t).then (Ord.compare v w)).Compares (Place.of 8 s v "" 0)
        (Place.of 8 t w "" 0)
      cases types : Ord.compare s t with
      | lt => exact Place.of_lt_of.2 (.inr ⟨rfl, .inl (compare_lt_iff_lt.1 types)⟩)
      | gt => exact Place.of_lt_of.2 (.inr ⟨rfl, .inl (compare_gt_iff_gt.1 types)⟩)
      | eq =>
        obtain rfl := compare_eq_iff_eq.1 types
        exact Place.compares_of_mono (p := fun u : String => .of 8 s u "" 0)
          (fun less => by simpa [Place.of_lt_of] using less)
          (fun notLess different => lt_of_le_of_ne (not_lt.1 notLess) (Ne.symm different))
    case entity g h => exact absurd rfl (plain g)
  · exact compares_place_of_rank kind

/-! ### Admitted objects -/

theorem Admits.target_eq {g h : Handle} (hg : o.Admits (.entity g)) (hh : o.Admits (.entity h))
    (here : g.address = h.address) : g.target = h.target :=
  (hg.1.trans (congrArg o.located here)).trans hh.1.symm

/-- Admitted objects of one type name declare the same. -/
theorem Admits.alike {g h : Handle} (hg : o.Admits (.entity g)) (hh : o.Admits (.entity h))
    (type : g.typeName = h.typeName) :
    g.target.semantics = .identity ∧ h.target.semantics = .identity ∨
      ∃ k l, g.target.semantics = .ordered k ∧ h.target.semantics = .ordered l := by
  obtain ⟨-, gDeclares⟩ := hg
  obtain ⟨-, hDeclares⟩ := hh
  rw [type] at gDeclares
  cases kind : o.comparison h.typeName with
  | identity =>
    rw [kind] at gDeclares hDeclares
    exact .inl ⟨gDeclares, hDeclares⟩
  | byKey =>
    rw [kind] at gDeclares hDeclares
    obtain ⟨k, gKey⟩ := gDeclares
    obtain ⟨l, hKey⟩ := hDeclares
    exact .inr ⟨k, l, gKey, hKey⟩

/-- Keys of admitted objects of one type name are one. -/
theorem OneKey.name_eq (one : o.OneKey) {g h : Handle} {k l : Key}
    (gAt : g.target = o.located g.address) (hAt : h.target = o.located h.address)
    (gKey : g.target.semantics.orderKey? = some k) (hKey : h.target.semantics.orderKey? = some l)
    (type : g.typeName = h.typeName) : k.name = l.name := by
  obtain ⟨name, named⟩ := one
  rw [gAt] at gKey
  rw [hAt] at hKey
  rw [named _ _ gKey, named _ _ hKey, ← gAt, ← hAt]
  exact congrArg name type

/-- The keys are one if all that objects are ordered by have one name. -/
theorem oneKey_of_all (name : String) (named : ∀ address,
    (o.located address).semantics.orderKey?.all (fun key => key.name == name) = true) :
    o.OneKey := by
  refine ⟨fun _ => name, fun address key orders => ?_⟩
  have all := named address
  rw [orders, Option.all_some, beq_iff_eq] at all
  exact all

/-- Two admitted objects are equal if they are of one place. -/
theorem equal_iff_entity {g h : Handle} (hg : o.Admits (.entity g)) (hh : o.Admits (.entity h)) :
    (Value.entity g).equal (.entity h) = true ↔
      (Value.entity g).place = (Value.entity h).place := by
  have compared : (Value.entity g).equal (.entity h) = true ↔
      g.target.compare h.target = .eq := beq_iff_eq
  rw [compared, Entity.compare_eq_iff, Entity.equal_iff, Entity.compare?_eq_some_eq_iff]
  by_cases type : g.typeName = h.typeName
  · rcases hg.alike hh type with ⟨gPlain, hPlain⟩ | ⟨k, l, gKey, hKey⟩
    · rw [Value.place_of_identity gPlain, Value.place_of_identity hPlain, type, Place.of_inj,
        gPlain]
      simp only [Semantics.equalityKey?, Semantics.orderKey?, reduceCtorEq, false_and, exists_false,
        and_false, or_false, Handle.address, Int.natCast_inj, UInt64.toNat_inj, true_and]
    · have places : (Value.entity g).place = (Value.entity h).place ↔ k = l := by
        rw [Value.place_of_ordered gKey, Value.place_of_ordered hKey, type, Place.of_inj]
        simp [Key.ext_iff]
      rw [places, gKey, hKey]
      constructor
      · rintro ((here | ⟨-, key, gSome, hSome⟩) | ⟨-, key, gSome, hSome⟩)
        · rw [hg.target_eq hh here, hKey] at gKey
          exact (Semantics.ordered.inj gKey).symm
        all_goals exact (Option.some.inj gSome).trans (Option.some.inj hSome).symm
      · rintro rfl
        exact .inl (.inr ⟨type, k, rfl, rfl⟩)
  · have apart : g.target.address ≠ h.target.address := fun here =>
      type (congrArg Entity.typeName (hg.target_eq hh here))
    have named : g.target.typeName ≠ h.target.typeName := type
    have places : (Value.entity g).place ≠ (Value.entity h).place :=
      fun same => type (Value.typeName_eq_of_place same)
    simp [apart, named, places]

/-- Two admitted objects compare as their places, if the keys of a type name are one. -/
theorem compares_place_entity (one : o.OneKey) {g h : Handle} (hg : o.Admits (.entity g))
    (hh : o.Admits (.entity h)) :
    (g.compare h).Compares (Value.entity g).place (Value.entity h).place := by
  by_cases type : g.typeName = h.typeName
  · rcases hg.alike hh type with ⟨gPlain, hPlain⟩ | ⟨k, l, gKey, hKey⟩
    · have compared : g.compare h = Ord.compare g.address h.address :=
        Entity.compare_of_identity gPlain type
      rw [compared, Value.place_of_identity gPlain, Value.place_of_identity hPlain, type]
      exact Place.compares_of_mono (p := fun n : UInt64 => .of 9 h.typeName "" "" n.toNat)
        (fun less => by simpa [Place.of_lt_of, UInt64.lt_iff_toNat_lt] using less)
        (by rw [UInt64.lt_iff_toNat_lt, UInt64.lt_iff_toNat_lt, Ne, ← UInt64.toNat_inj]; omega)
    · have gOrder := congrArg Semantics.orderKey? gKey
      have hOrder := congrArg Semantics.orderKey? hKey
      have named : k.name = l.name := one.name_eq hg.1 hh.1 gOrder hOrder type
      have compared : g.compare h = Ord.compare k.text l.text :=
        Entity.compare_of_orderKey gOrder hOrder type named fun same => by
          rw [hg.target_eq hh same, hKey] at gKey
          exact (Semantics.ordered.inj gKey).symm
      rw [compared, Value.place_of_ordered gKey, Value.place_of_ordered hKey, type, named]
      exact Place.compares_of_mono (p := fun text : String => .of 9 h.typeName l.name text 0)
        (fun less => by simpa [Place.of_lt_of] using less)
        (fun notLess different => lt_of_le_of_ne (not_lt.1 notLess) (Ne.symm different))
  · have apart : g.address ≠ h.address := fun same =>
      type (congrArg Entity.typeName (hg.target_eq hh same))
    have compared : g.compare h = Ord.compare g.typeName h.typeName :=
      Entity.compare_of_typeName_ne type apart
    obtain ⟨k, t, i, gPlace⟩ := Value.exists_place_entity g
    obtain ⟨l, u, j, hPlace⟩ := Value.exists_place_entity h
    rw [compared, gPlace, hPlace]
    exact Place.compares_of_name type

/-! ### Admitted values -/

variable {a b : Value}

/-- The first of two values is no object, or they are of different kinds, or both are objects. -/
theorem plain_or_entities (a b : Value) :
    (∀ h, a ≠ .entity h) ∨ a.rank ≠ b.rank ∨ ∃ g h, a = .entity g ∧ b = .entity h := by
  cases a with
  | entity g =>
    cases b with
    | entity h => exact .inr (.inr ⟨g, h, rfl, rfl⟩)
    | _ => exact .inr (.inl (by simp [Value.rank]))
  | _ => exact .inl nofun

/-- **Admitted values are equal if they are of one place.** -/
theorem equal_iff (ha : o.Admits a) (hb : o.Admits b) : a.equal b = true ↔ a.place = b.place := by
  have of_compares (compared : (a.compare b).Compares a.place b.place) :
      a.equal b = true ↔ a.place = b.place := by
    rw [Value.equal, beq_iff_eq]
    exact compared.eq_eq
  rcases plain_or_entities a b with plain | kind | ⟨g, h, rfl, rfl⟩
  · exact of_compares (compares_place_of_plain plain)
  · exact of_compares (compares_place_of_rank kind)
  · exact equal_iff_entity ha hb

/-- **Admitted values compare as their places**, if the keys of a type name are one. -/
theorem compares_place (one : o.OneKey) (ha : o.Admits a) (hb : o.Admits b) :
    (a.compare b).Compares a.place b.place := by
  rcases plain_or_entities a b with plain | kind | ⟨g, h, rfl, rfl⟩
  · exact compares_place_of_plain plain
  · exact compares_place_of_rank kind
  · exact compares_place_entity one ha hb

theorem compare_eq_lt_iff (one : o.OneKey) (ha : o.Admits a) (hb : o.Admits b) :
    a.compare b = .lt ↔ a.place < b.place :=
  (compares_place one ha hb).eq_lt

/-- Admitted values of one place contribute the same to a hash. -/
theorem hashContent_eq_of_place (ha : o.Admits a) (hb : o.Admits b) (same : a.place = b.place) :
    a.hashContent = b.hashContent := by
  rcases plain_or_entities a b with plain | kind | ⟨g, h, rfl, rfl⟩
  · rw [Value.eq_of_place plain same]
  · exact absurd (Value.rank_eq_of_place same) kind
  · rcases ha.alike hb (Value.typeName_eq_of_place same) with ⟨gPlain, hPlain⟩ | ⟨k, l, gKey, hKey⟩
    · rw [Value.place_of_identity gPlain, Value.place_of_identity hPlain, Place.of_inj] at same
      simpa [Value.hashContent, gPlain, hPlain, Semantics.equalityKey?, Int.natCast_inj,
        UInt64.toNat_inj] using same.2.2.2.2
    · rw [Value.place_of_ordered gKey, Value.place_of_ordered hKey, Place.of_inj] at same
      simp [Value.hashContent, gKey, hKey, Semantics.equalityKey?, same]

/-- A hashed container takes admitted values for the same member if they are of one place. -/
theorem sameMember_iff (ha : o.Admits a) (hb : o.Admits b) :
    a.sameMember b = true ↔ a.place = b.place := by
  rw [Value.sameMember, Bool.and_eq_true, beq_iff_eq, equal_iff ha hb]
  exact ⟨And.right, fun same => ⟨hashContent_eq_of_place ha hb same, same⟩⟩

end Objects

end ObjectGraph
