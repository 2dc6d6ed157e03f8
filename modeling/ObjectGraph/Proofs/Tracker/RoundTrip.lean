import ObjectGraph.Proofs.Tracker.Transparent

/-!
# Identities in identity fields

An object whose class has an identity field holds its identity there, as a value of the element type of
the field.  So an identity is converted twice, to that type when it is recorded and back to a number
when it is read.  Whole numbers come back as they were.  A binary floating-point field takes every
identity and gives none back, since the standard rules turn no such value into a whole number.

* `Coercion.standard_eq_ok_iff`: which fields take an identity, and as what.
* `Tracker.identityOfValue_of_takes`: what is made of it when it is read.
* `Session.field_round_trip`: when an identity is recorded, and whether it is read afterwards.
-/

namespace ObjectGraph

/-! ## There and back -/

/-- Fields of the type give back the identities that they take. -/
def ElementType.keepsIdentities : ElementType → Bool
  | .integer | .long | .any => true
  | _ => false

/-- Binary floating-point numbers. -/
def ElementType.isBinary : ElementType → Bool
  | .float | .double => true
  | _ => false

/-- What a 64-bit number is as a value of an element type. -/
inductive Coercion.Takes (l : Int64) : ElementType → Value → Prop
  | any : Takes l .any (.long l)
  | long : Takes l .long (.long l)
  | integer {i : Int32} : i.toInt64 = l → Takes l .integer (.integer i)
  | float : Takes l .float (.float (.ofInt l.toInt))
  | double : Takes l .double (.double (.ofInt l.toInt))

theorem Coercion.takes_of_standard {element : ElementType} {l : Int64} {v : Value}
    (taken : standard element (.long l) = .ok v) : Takes l element v := by
  cases element with
  | any =>
    cases taken
    exact .any
  | long =>
    cases taken
    exact .long
  | integer =>
    obtain ⟨i, rfl, same⟩ := standard_integer_long.1 taken
    rw [← Int32.toInt_toInt64] at same
    exact .integer (Int64.toInt.inj same)
  | float =>
    cases taken
    exact .float
  | double =>
    cases taken
    exact .double
  | boolean | character | string | enum | entity => cases taken

theorem Coercion.standard_of_takes {element : ElementType} {l : Int64} {v : Value}
    (takes : Takes l element v) : standard element (.long l) = .ok v := by
  cases takes with
  | any | long | float | double => rfl
  | @integer i same =>
    subst same
    exact standard_integer_long.2 ⟨i, rfl, i.toInt_toInt64.symm⟩

/-- **The standard rules take numbers as numbers, or not at all.** -/
theorem Coercion.standard_eq_ok_iff {element : ElementType} {l : Int64} {v : Value} :
    standard element (.long l) = .ok v ↔ Takes l element v :=
  ⟨takes_of_standard, standard_of_takes⟩

namespace Tracker

variable {t : Tracker} {rules : TrackingRules} {h : Handle} {info : EntityClass}
  {field : PropertyField} {v : Value} {identity : EntityId}

theorem ofInt64_raw (identity : EntityId) : EntityId.ofInt64 identity.raw = .ok identity :=
  dif_pos identity.nonneg

/-- **Whole numbers come back, binary ones do not.** -/
theorem identityOfValue_of_takes (standard : rules.coercion = Coercion.standard)
    (takes : Coercion.Takes identity.raw field.element v) :
    (field.element.keepsIdentities = true ∧ identityOfValue rules v = .ok (some identity)) ∨
      (field.element.isBinary = true ∧ identityOfValue rules v =
        .error (.coercion (Coercion.refuse .long v (.noConversion v.kind)))) := by
  have whole (l : Int64) (same : l = identity.raw)
      (back : rules.coercion .long v = .ok (.long l)) (present : v.isNull = false) :
      identityOfValue rules v = .ok (some identity) := by
    unfold identityOfValue
    rw [present, if_neg Bool.false_ne_true, back, same]
    dsimp only
    rw [ofInt64_raw]
  generalize field.element = element at takes ⊢
  cases takes with
  | any | long =>
    refine .inl ⟨rfl, whole identity.raw rfl ?_ rfl⟩
    rw [standard]
    rfl
  | @integer i same =>
    refine .inl ⟨rfl, whole i.toInt64 same ?_ rfl⟩
    rw [standard]
    rfl
  | float | double =>
    refine .inr ⟨rfl, ?_⟩
    unfold identityOfValue
    rw [standard]
    rfl

/-- Without a slot an identity is recorded if it can be converted and written. -/
theorem assign_eq_ok_iff (absent : t.slot? h = none)
    (registered : rules.schema.classOf h = .ok info) (declared : info.identityField = some field) :
    (t.assign rules h identity).result = .ok () ↔
      ∃ v heap, rules.coercion field.element (.long identity.raw) = .ok v ∧
        field.write t.heap h v = .ok heap := by
  unfold assign
  rw [absent]
  dsimp only
  rw [assignField, registered]
  dsimp only
  rw [declared]
  dsimp only
  cases rules.coercion field.element (.long identity.raw) with
  | error e => simp [Outcome.failed]
  | ok v =>
    dsimp only
    cases wrote : field.write t.heap h v with
    | error e => simp [Outcome.failed, wrote]
    | ok heap => simp [wrote]

/-- Without a slot the identity is what the value of the identity field stands for. -/
theorem storeIdentity_of_read (absent : t.slot? h = none)
    (registered : rules.schema.classOf h = .ok info) (declared : info.identityField = some field)
    (read : field.read t.heap h = .ok v) : t.storeIdentity rules h = identityOfValue rules v := by
  unfold storeIdentity
  rw [absent]
  dsimp only
  rw [fieldIdentity, registered]
  dsimp only
  rw [declared]
  dsimp only
  rw [read]

end Tracker

namespace Session

variable {permits : TrackingRules → Handle → Prop} {s : Session} {g h : Handle}
  {rules : TrackingRules} {info : EntityClass} {field : PropertyField}

/-- An object that was never wrapped has no slot, through whichever handle. -/
theorem Sound.slot?_eq_none (sound : s.Sound) (made : h ∈ s.made)
    (live : s.tracker.heap.isLive h.target.id = true) (never : ∀ slot, ¬ s.HasSlot h.target slot) :
    s.tracker.slot? h = none := by
  have object : s.Usable (.object h.target) := ⟨sound.heap.target_mem made, live⟩
  cases found : s.tracker.slot? h with
  | none => rfl
  | some slot =>
    cases h with
    | object e => exact absurd (sound.hasSlot_of_roster object found) (never slot)
    | standIn n inner => exact absurd (sound.hasSlot_of_roster object found) (never slot)
    | wrapper n type own inner => exact absurd ⟨n, type, inner, made, rfl⟩ (never own)

/-- Once its identity field is written, an object that was never wrapped has the identity that the
value stands for. -/
theorem Rostered.storeIdentity_of_write (rostered : s.Rostered) (usable : s.Usable g)
    (reached : s.tracker.heap.Reached g.allocation) (made : h ∈ s.made) (same : g.target = h.target)
    (never : ∀ slot, ¬ s.HasSlot h.target slot) (registered : rules.schema.classOf h = .ok info)
    (declared : info.identityField = some field) (stores : field.Stores id) {v : Value} {heap : Heap}
    (wrote : field.write s.tracker.heap g v = .ok heap) :
    field.read heap h = .ok v ∧
      Tracker.storeIdentity { s.tracker with heap } rules h = Tracker.identityOfValue rules v := by
  have live : heap.isLive g.target.id = true := by
    apply FieldAccess.live_of_write wrote _ (rostered.usable_target usable).2
    exact rostered.heap.reached_target usable.1 usable.2 reached
  have read : field.read heap h = .ok v := stores.read_write wrote live same.symm
  have absent : Tracker.slot? { s.tracker with heap } h = none := by
    obtain ⟨set, fields, -, -, -, rfl⟩ := FieldAccess.write_eq_ok_iff.1 wrote
    have quiet := rostered.quiet_setFields g.target fields
    refine (rostered.quiet quiet).slot?_eq_none made (same ▸ live) fun slot has => ?_
    exact never slot (quiet.hasSlot_iff.1 has)
  exact ⟨read, Tracker.storeIdentity_of_read absent registered declared read⟩

/-- **An identity field gives back what was recorded, unless it is binary.**  After any run, take an
object that was never wrapped, of a class with an identity field that stores what is written, whatever
it holds, and the standard rules.  An identity is recorded if a value of the element type stands for it
and can be written, and if it is not nothing changes.  If it is recorded, in a field for whole numbers
or for any value, it is read afterwards through every handle to the object; or else the field is
binary, and the identity is not read, since what the field holds is not taken for a whole number. -/
theorem field_round_trip {cache : WrapperCache} (run : Run permits (start cache) s)
    (usable : s.Usable g) (reached : s.tracker.heap.Reached g.allocation) (made : h ∈ s.made)
    (same : g.target = h.target) (never : ∀ slot, ¬ s.HasSlot h.target slot)
    (standard : rules.coercion = Coercion.standard)
    (registered : rules.schema.classOf h = .ok info) (declared : info.identityField = some field)
    (stores : field.Stores id) (identity : EntityId) :
    let o := s.tracker.assign rules g identity
    (o.result = .ok () ↔ ∃ v heap, Coercion.Takes identity.raw field.element v ∧
      field.write s.tracker.heap g v = .ok heap) ∧
    (∀ e, o.result = .error e → o.state = s.tracker) ∧
    (o.result = .ok () →
      (field.element.keepsIdentities = true ∧
        o.state.storeIdentity rules h = .ok (some identity) ∧
        o.state.identityOrPlaceholder rules h = .ok identity.raw) ∨
      (field.element.isBinary = true ∧ ∃ v, field.read o.state.heap h = .ok v ∧
        o.state.storeIdentity rules h =
          .error (.coercion (Coercion.refuse .long v (.noConversion v.kind))) ∧
        o.state.identityOrPlaceholder rules h =
          .error (.coercion (Coercion.refuse .long v (.noConversion v.kind))))) := by
  have rostered := run.rostered
  have absent : s.tracker.slot? g = none := by
    apply rostered.slot?_eq_none usable.1 (rostered.usable_target usable).2
    rw [same]
    exact never
  have success : (s.tracker.assign rules g identity).result = .ok () ↔ _ :=
    Tracker.assign_eq_ok_iff absent ((Schema.classOf_congr same _).trans registered) declared
  simp only [standard, Coercion.standard_eq_ok_iff] at success
  refine ⟨success, ?_⟩
  have ways := s.tracker.assigns rules g identity
  generalize s.tracker.assign rules g identity = o at ways ⊢
  cases ways with
  | failed => exact ⟨fun _ _ => rfl, fun done => by cases done⟩
  | stored found =>
    rw [absent] at found
    cases found
  | @written info' field' v heap events _ registered' declared' taken wrote =>
    rw [Schema.classOf_congr same, registered] at registered'
    cases registered'
    rw [declared] at declared'
    cases declared'
    rw [standard] at taken
    obtain ⟨read, answer⟩ := rostered.storeIdentity_of_write usable reached made same never
      registered declared stores wrote
    refine ⟨fun e failed => ?_, fun _ => ?_⟩
    · cases failed
    · rcases Tracker.identityOfValue_of_takes standard (Coercion.takes_of_standard taken) with
        ⟨keeps, value⟩ | ⟨binary, value⟩
      · rw [value] at answer
        refine .inl ⟨keeps, answer, ?_⟩
        rw [Tracker.identityOrPlaceholder, answer]
        rfl
      · rw [value] at answer
        refine .inr ⟨binary, v, read, answer, ?_⟩
        rw [Tracker.identityOrPlaceholder, answer]
        rfl

/-- A ticket takes its number through a stand-in and tells it itself; what was there before does not
matter. -/
theorem field_round_trip_integer :
    let ticket : Nat → Entity := fun n => ⟨n, 16, "Ticket", "ticket", "#0", .identity⟩
    let field := PropertyField.stored "Ticket" "number" .integer
    let rules : TrackingRules :=
      { schema := ⟨⟨[("ticket", { typeName := "ticket", identityField := some field })]⟩⟩ }
    let standIn := Handle.standIn 1 (.object (ticket 0))
    let old : Fields := { properties := ⟨[("number", .string "none yet")]⟩ }
    let s := ((start { capacity := 1 }).create ticket old).standIn (.object (ticket 0))
    Run (fun _ _ => True) (start { capacity := 1 }) s ∧
      (s.tracker.assign rules standIn ⟨7, by decide⟩).state.storeIdentity rules
        (.object (ticket 0)) = .ok (some ⟨7, by decide⟩) := by
  intro ticket field rules standIn old s
  have run : Run (fun _ _ => True) (start { capacity := 1 }) s :=
    .tail (.single (.first rfl)) (.standIn ⟨List.mem_cons_self, rfl⟩)
  have usable : s.Usable standIn := ⟨List.mem_cons_self, rfl⟩
  have object : .object (ticket 0) ∈ s.made := by decide
  have never (slot : Nat) : ¬ s.HasSlot (ticket 0) slot := not_hasSlot_of_bare (by decide)
  have standard : rules.coercion = Coercion.standard := rfl
  have registered : rules.schema.classOf (.object (ticket 0)) =
    .ok { typeName := "ticket", identityField := some field } := rfl
  have stores : field.Stores id := PropertyField.stored_storesAt.toStores
  have trip := field_round_trip run usable (.held List.mem_cons_self) object rfl never standard
    registered rfl stores ⟨7, by decide⟩
  refine ⟨run, ?_⟩
  rcases trip.2.2 rfl with ⟨-, identity, -⟩ | ⟨binary, -⟩
  · exact identity
  · cases binary

/-- **A binary identity field forgets what it took.**  The number of a ticket is recorded without an
error, and asking for it afterwards is one. -/
theorem binary_field_forgets :
    let ticket : Nat → Entity := fun n => ⟨n, 16, "Ticket", "ticket", "#0", .identity⟩
    let field := PropertyField.stored "Ticket" "number" .double
    let rules : TrackingRules :=
      { schema := ⟨⟨[("ticket", { typeName := "ticket", identityField := some field })]⟩⟩ }
    let object := Handle.object (ticket 0)
    let s := (start { capacity := 1 }).create ticket {}
    let o := s.tracker.assign rules object ⟨7, by decide⟩
    let stored := Value.double (.ofInt 7)
    Run (fun _ _ => True) (start { capacity := 1 }) s ∧ s.Usable object ∧
      (∀ slot, ¬ s.HasSlot (ticket 0) slot) ∧ rules.coercion = Coercion.standard ∧
      field.Stores id ∧ o.result = .ok () ∧
      o.state.storeIdentity rules object =
        .error (.coercion (Coercion.refuse .long stored (.noConversion "double"))) := by
  intro ticket field rules object s o stored
  have run : Run (fun _ _ => True) (start { capacity := 1 }) s := .single (.first rfl)
  have never (slot : Nat) : ¬ s.HasSlot (ticket 0) slot := not_hasSlot_of_bare (by decide)
  have stores : field.Stores id := PropertyField.stored_storesAt.toStores
  refine ⟨run, ⟨List.mem_cons_self, rfl⟩, never, rfl, stores, rfl, ?_⟩
  have collected : o.state.heap = s.tracker.heap.put (ticket 0)
      { properties := ⟨[("number", stored)]⟩ } := by
    have wrote : o.state.heap = (s.tracker.heap.put (ticket 0)
      { properties := ⟨[("number", stored)]⟩ }).collect := rfl
    rw [wrote, Heap.collect, if_neg (by decide)]
  have absent : o.state.slot? object = none := rfl
  have read : field.read o.state.heap object = .ok stored := by
    rw [collected]
    rfl
  exact Tracker.storeIdentity_of_read absent rfl rfl read

end Session

end ObjectGraph
