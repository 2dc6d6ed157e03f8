import Mathlib.Data.List.Nodup
import ObjectGraph.Schema

/-!
# The labels of an object

The labels of an object come from two lists, which may repeat labels in themselves and from one
another: those declared on its class, and those that it holds in a field.  `OrderedUnion` says by
positions what is to come out of the two, and there is only one such list.

* `ClassDraft.classLabels_declareAll`, `ClassDraft.labelField_declareAll`: what a sequence of
  declarations says about labels.
* `OrderedUnion.eq`: two lists have one ordered union.
* `EntityClass.labels_union`: when the labels of an object are found, which they are, and what is
  reported otherwise.
-/

namespace ObjectGraph

/-! ## Declarations -/

/-- What can be declared about a class. -/
inductive Declaration where
  | identityField (field : PropertyField)
  | property (field : PropertyField)
  | collection (field : CollectionField)
  | label (text : String)
  | labelsIn (field : CollectionField)
  | sealed

namespace Declaration

def label? : Declaration → Option String
  | .label text => some text
  | _ => none

def labelField? : Declaration → Option CollectionField
  | .labelsIn field => some field
  | _ => none

/-- The labels among declarations, in their order. -/
def labels (ds : List Declaration) : List String := ds.filterMap label?

/-- The label field that is declared last. -/
def lastLabelField? (ds : List Declaration) : Option CollectionField :=
  (ds.filterMap labelField?).getLast?

end Declaration

namespace ClassDraft

def declare (b : ClassDraft) : Declaration → ClassDraft
  | .identityField field => b.identityField field
  | .property field => b.property field
  | .collection field => b.collection field
  | .label text => b.label text
  | .labelsIn field => b.labelsIn field
  | .sealed => b.sealed

def declareAll (b : ClassDraft) (ds : List Declaration) : ClassDraft := ds.foldl declare b

variable {b : ClassDraft} {c : EntityClass} {ds : List Declaration} {d : Declaration}

theorem classLabels_declare : (b.declare d).classLabels = b.classLabels ++ d.label?.toList := by
  cases d with
  | label text => rfl
  | _ => exact (List.append_nil _).symm

theorem labelField_declare : (b.declare d).labelField = d.labelField?.or b.labelField := by
  cases d with
  | _ => rfl

theorem classLabels_declareAll :
    (b.declareAll ds).classLabels = b.classLabels ++ Declaration.labels ds := by
  induction ds generalizing b with
  | nil => exact (List.append_nil _).symm
  | cons d ds ih =>
    have later : (b.declareAll (d :: ds)).classLabels = _ := ih (b := b.declare d)
    rw [later, classLabels_declare, List.append_assoc, Declaration.labels, Declaration.labels]
    cases declared : d.label? with
    | none => rw [List.filterMap_cons_none declared, Option.toList_none, List.nil_append]
    | some text => rw [List.filterMap_cons_some declared, Option.toList_some, List.singleton_append]

theorem labelField_declareAll :
    (b.declareAll ds).labelField = (Declaration.lastLabelField? ds).or b.labelField := by
  induction ds generalizing b with
  | nil => rfl
  | cons d ds ih =>
    have later : (b.declareAll (d :: ds)).labelField = _ := ih (b := b.declare d)
    rw [later, labelField_declare, ← Option.or_assoc]
    refine congrArg (Option.or · b.labelField) ?_
    rw [Declaration.lastLabelField?, Declaration.lastLabelField?]
    cases declared : d.labelField? with
    | none => rw [List.filterMap_cons_none declared, Option.or_none]
    | some field =>
      rw [List.filterMap_cons_some declared, ← List.singleton_append, List.getLast?_append]
      rfl

/-- A class that is built has the labels and the label field of its draft. -/
theorem labels_build (built : b.build = .ok c) :
    c.classLabels = b.classLabels ∧ c.labelField = b.labelField := by
  unfold build at built
  split at built
  · cases built
    exact ⟨rfl, rfl⟩
  · cases built
    exact ⟨rfl, rfl⟩
  · cases built

end ClassDraft

/-! ## Ordered unions -/

/-- `all` has the members of `first` and of `rest`, each once: those of `first` in the order in which
they are first seen there, and then those that are in `rest` alone, in the order in which they are
first seen there. -/
structure OrderedUnion (first rest all : List String) : Prop where
  once : all.Nodup
  members : ∀ l, l ∈ all ↔ l ∈ first ∨ l ∈ rest
  firstBefore : ∀ a ∈ first, ∀ b ∈ rest, b ∉ first → all.idxOf a < all.idxOf b
  firstOrder : ∀ a ∈ first, ∀ b ∈ first,
    (all.idxOf a < all.idxOf b ↔ first.idxOf a < first.idxOf b)
  restOrder : ∀ a ∈ rest, ∀ b ∈ rest, a ∉ first → b ∉ first →
    (all.idxOf a < all.idxOf b ↔ rest.idxOf a < rest.idxOf b)

namespace OrderedUnion

variable {first rest all other : List String} {a b : String}

/-! ### Positions -/

/-- What stands in front of two lists alike does not change which of two is seen first. -/
theorem idxOf_cons_lt_iff {l : String} {xs ys : List String}
    (later : l ≠ a → l ≠ b → (xs.idxOf a < xs.idxOf b ↔ ys.idxOf a < ys.idxOf b)) :
    (l :: xs).idxOf a < (l :: xs).idxOf b ↔ (l :: ys).idxOf a < (l :: ys).idxOf b := by
  by_cases isB : l = b
  · subst isB
    rw [List.idxOf_cons_self, List.idxOf_cons_self]
    exact iff_of_false (Nat.not_lt_zero _) (Nat.not_lt_zero _)
  · rw [List.idxOf_cons_ne _ isB, List.idxOf_cons_ne _ isB]
    by_cases isA : l = a
    · subst isA
      rw [List.idxOf_cons_self, List.idxOf_cons_self]
      exact iff_of_true (Nat.succ_pos _) (Nat.succ_pos _)
    · rw [List.idxOf_cons_ne _ isA, List.idxOf_cons_ne _ isA, Nat.succ_lt_succ_iff,
        Nat.succ_lt_succ_iff]
      exact later isA isB

/-- Leaving out others does not change which of two is seen first. -/
theorem idxOf_filter_lt_iff {p : String → Bool} (ha : p a = true) (hb : p b = true) :
    (all.filter p).idxOf a < (all.filter p).idxOf b ↔ all.idxOf a < all.idxOf b := by
  induction all with
  | nil => rfl
  | cons l all ih =>
    cases kept : p l with
    | true =>
      rw [List.filter_cons_of_pos kept]
      exact idxOf_cons_lt_iff fun _ _ => ih
    | false =>
      have isA : l ≠ a := fun same => by simp [same, ha] at kept
      have isB : l ≠ b := fun same => by simp [same, hb] at kept
      rw [List.filter_cons_of_neg (by simp [kept]), ih, List.idxOf_cons_ne _ isA,
        List.idxOf_cons_ne _ isB, Nat.succ_lt_succ_iff]

/-- Leaving out repeats does not change which of two is seen first. -/
theorem idxOf_eraseDups_lt_iff (all : List String) :
    all.eraseDups.idxOf a < all.eraseDups.idxOf b ↔ all.idxOf a < all.idxOf b := by
  cases all with
  | nil => rfl
  | cons l all =>
    rw [List.eraseDups_cons]
    refine idxOf_cons_lt_iff fun isA isB => ?_
    rw [idxOf_eraseDups_lt_iff (all.filter fun m => !m == l)]
    exact idxOf_filter_lt_iff (by simp [isA.symm]) (by simp [isB.symm])
termination_by all.length
decreasing_by exact Nat.lt_succ_of_le (List.length_filter_le _ _)

theorem nodup_eraseDups (all : List String) : all.eraseDups.Nodup := by
  cases all with
  | nil => exact .nil
  | cons l all =>
    rw [List.eraseDups_cons, List.nodup_cons, List.mem_eraseDups]
    exact ⟨by simp, nodup_eraseDups (all.filter fun m => !m == l)⟩
termination_by all.length
decreasing_by exact Nat.lt_succ_of_le (List.length_filter_le _ _)

/-- Where each is there once, the members are in the order of their positions. -/
theorem pairwise_idxOf (once : all.Nodup) : all.Pairwise fun a b => all.idxOf a < all.idxOf b := by
  rw [List.pairwise_iff_getElem]
  intro i j hi hj less
  rwa [once.idxOf_getElem i hi, once.idxOf_getElem j hj]

/-! ### The union -/

/-- **The two lists in a row, without repeats, are their ordered union.** -/
theorem eraseDups_append (first rest : List String) :
    OrderedUnion first rest (first ++ rest).eraseDups where
  once := nodup_eraseDups _
  members l := by rw [List.mem_eraseDups, List.mem_append]
  firstBefore a ha b _ late := by
    have before := List.idxOf_lt_length_of_mem ha
    rw [idxOf_eraseDups_lt_iff, List.idxOf_append, if_pos ha, List.idxOf_append, if_neg late]
    omega
  firstOrder a ha b hb := by
    rw [idxOf_eraseDups_lt_iff, List.idxOf_append, if_pos ha, List.idxOf_append, if_pos hb]
  restOrder a _ b _ lateA lateB := by
    rw [idxOf_eraseDups_lt_iff, List.idxOf_append, if_neg lateA, List.idxOf_append, if_neg lateB]
    omega

/-- Two ordered unions agree on which of two members is seen first. -/
theorem idxOf_lt_iff (h : OrderedUnion first rest all) (h' : OrderedUnion first rest other)
    (ha : a ∈ all) (hb : b ∈ all) : all.idxOf a < all.idxOf b ↔ other.idxOf a < other.idxOf b := by
  by_cases firstA : a ∈ first
  · by_cases firstB : b ∈ first
    · rw [h.firstOrder a firstA b firstB, h'.firstOrder a firstA b firstB]
    · have restB := ((h.members b).1 hb).resolve_left firstB
      exact iff_of_true (h.firstBefore a firstA b restB firstB)
        (h'.firstBefore a firstA b restB firstB)
  · have restA := ((h.members a).1 ha).resolve_left firstA
    by_cases firstB : b ∈ first
    · exact iff_of_false (Nat.lt_asymm (h.firstBefore b firstB a restA firstA))
        (Nat.lt_asymm (h'.firstBefore b firstB a restA firstA))
    · have restB := ((h.members b).1 hb).resolve_left firstB
      rw [h.restOrder a restA b restB firstA firstB, h'.restOrder a restA b restB firstA firstB]

/-- **Two lists have one ordered union.** -/
theorem eq (h : OrderedUnion first rest all) (h' : OrderedUnion first rest other) :
    all = other := by
  have same (l : String) : l ∈ all ↔ l ∈ other := by rw [h.members, h'.members]
  have perm := (List.perm_ext_iff_of_nodup h.once h'.once).2 same
  have order : other.Pairwise fun a b => all.idxOf a < all.idxOf b :=
    (pairwise_idxOf h'.once).imp_of_mem fun ha hb less =>
      (h.idxOf_lt_iff h' ((same _).2 ha) ((same _).2 hb)).2 less
  exact perm.eq_of_pairwise (fun a b _ _ below above => absurd below (Nat.lt_asymm above))
    (pairwise_idxOf h.once) order

theorem iff_eq : OrderedUnion first rest all ↔ all = (first ++ rest).eraseDups :=
  ⟨fun h => h.eq (eraseDups_append first rest), fun same => same ▸ eraseDups_append first rest⟩

end OrderedUnion

/-! ## What the label field holds -/

/-- Whether a value may stand among labels. -/
def Value.MayLabel (v : Value) : Prop := v = .null ∨ ∃ s, v = .string s

/-- The values from which the labels of an object are read: those in the container of the label
field, and none if no such field is declared or it is uninitialized. -/
inductive LabelValues (heap : Heap) (h : Handle) : Option CollectionField → List Value → Prop where
  | undeclared : LabelValues heap h none []
  | uninitialized {field : CollectionField} (read : field.read heap h = .ok none) :
    LabelValues heap h (some field) []
  | held {field : CollectionField} {container : Container}
    (read : field.read heap h = .ok (some container)) :
    LabelValues heap h (some field) container.values

/-- The error for the first value that is no label. -/
def FirstNoLabel (vs : List Value) (e : SchemaError) : Prop :=
  ∃ before v after, vs = before ++ v :: after ∧ (∀ u ∈ before, u.MayLabel) ∧ ¬ v.MayLabel ∧
    e = .typeMismatch "label string" v.kind

namespace EntityClass

variable {c : EntityClass} {heap : Heap} {h : Handle} {vs : List Value} {e : SchemaError}

theorem labelsOf_eq_ok_iff {own : List String} :
    labelsOf vs = .ok own ↔ (∀ v ∈ vs, v.MayLabel) ∧ own = vs.filterMap Value.asString? := by
  induction vs generalizing own with
  | nil => simp [labelsOf, eq_comm]
  | cons v vs ih =>
    rw [List.forall_mem_cons]
    cases v with
    | null =>
      rw [labelsOf, ih, List.filterMap_cons_none rfl]
      simp [Value.MayLabel]
    | string s =>
      rw [labelsOf, List.filterMap_cons_some (rfl : Value.asString? (.string s) = some s)]
      have first : (Value.string s).MayLabel := .inr ⟨s, rfl⟩
      cases rest : labelsOf vs with
      | error e =>
        have unfit : ¬ ∀ v ∈ vs, v.MayLabel := fun all => by
          rw [ih.2 ⟨all, rfl⟩] at rest
          cases rest
        simp [Except.map, unfit]
      | ok others =>
        obtain ⟨all, rfl⟩ := ih.1 rest
        simp only [Except.map, Except.ok.injEq, first, true_and]
        exact ⟨fun same => ⟨all, same.symm⟩, fun same => same.2.symm⟩
    | _ => simp [labelsOf, Value.MayLabel]

theorem firstNoLabel_cons {v : Value} :
    FirstNoLabel (v :: vs) e ↔ ¬ v.MayLabel ∧ e = .typeMismatch "label string" v.kind ∨
      v.MayLabel ∧ FirstNoLabel vs e := by
  constructor
  · rintro ⟨before, u, after, split, fit, unfit, report⟩
    cases before with
    | nil =>
      cases split
      exact .inl ⟨unfit, report⟩
    | cons w before =>
      cases split
      obtain ⟨first, others⟩ := List.forall_mem_cons.1 fit
      exact .inr ⟨first, before, u, after, rfl, others, unfit, report⟩
  · rintro (⟨unfit, report⟩ | ⟨first, before, u, after, rfl, fit, unfit, report⟩)
    · exact ⟨[], v, vs, rfl, by simp, unfit, report⟩
    · exact ⟨v :: before, u, after, rfl, List.forall_mem_cons.2 ⟨first, fit⟩, unfit, report⟩

theorem labelsOf_eq_error_iff : labelsOf vs = .error e ↔ FirstNoLabel vs e := by
  induction vs with
  | nil =>
    have none_first : ¬ FirstNoLabel [] e := by
      rintro ⟨before, v, after, none, -⟩
      simp at none
    simp [labelsOf, none_first]
  | cons v vs ih =>
    rw [firstNoLabel_cons, ← ih]
    cases v with
    | null => simp [labelsOf, Value.MayLabel]
    | string s =>
      rw [labelsOf]
      cases labelsOf vs with
      | error f => simp [Except.map, Value.MayLabel]
      | ok others => simp [Except.map, Value.MayLabel]
    | _ => simp [labelsOf, Value.MayLabel, eq_comm]

theorem dynamicLabels_eq_ok_iff {own : List String} :
    c.dynamicLabels heap h = .ok own ↔ ∃ vs, LabelValues heap h c.labelField vs ∧
      (∀ v ∈ vs, v.MayLabel) ∧ own = vs.filterMap Value.asString? := by
  unfold dynamicLabels
  cases declared : c.labelField with
  | none =>
    constructor
    · rintro ⟨⟩
      exact ⟨[], .undeclared, by simp, rfl⟩
    · rintro ⟨_, ⟨⟩, -, rfl⟩
      rfl
  | some field =>
    constructor
    · intro found
      cases read : field.read heap h with
      | error e => simp [read] at found
      | ok content =>
        cases content with
        | none =>
          simp only [read, Except.ok.injEq] at found
          exact ⟨[], .uninitialized read, by simp, found.symm⟩
        | some container =>
          simp only [read] at found
          exact ⟨container.values, .held read, labelsOf_eq_ok_iff.1 found⟩
    · rintro ⟨_, values, fit, rfl⟩
      cases values with
      | uninitialized read => simp [read]
      | held read =>
        simp only [read]
        exact labelsOf_eq_ok_iff.2 ⟨fit, rfl⟩

theorem dynamicLabels_eq_error_iff :
    c.dynamicLabels heap h = .error e ↔ ∃ field, c.labelField = some field ∧
      (field.read heap h = .error e ∨
        ∃ container, field.read heap h = .ok (some container) ∧ FirstNoLabel container.values e) := by
  unfold dynamicLabels
  cases declared : c.labelField with
  | none => simp
  | some field =>
    simp only [Option.some.injEq, exists_eq_left']
    cases read : field.read heap h with
    | error f => simp
    | ok content =>
      cases content with
      | none => simp
      | some container => simp [labelsOf_eq_error_iff]

/-! ## All labels -/

theorem labels_eq_ok_iff {all : List String} :
    c.labels heap h = .ok all ↔ ∃ vs, LabelValues heap h c.labelField vs ∧
      (∀ v ∈ vs, v.MayLabel) ∧ OrderedUnion c.classLabels (vs.filterMap Value.asString?) all := by
  have joined : c.labels heap h = .ok all ↔ ∃ own, c.dynamicLabels heap h = .ok own ∧
      OrderedUnion c.classLabels own all := by
    rw [labels]
    cases c.dynamicLabels heap h with
    | error e => simp [Except.map]
    | ok own => simp [Except.map, OrderedUnion.iff_eq, eq_comm]
  rw [joined]
  constructor
  · rintro ⟨own, found, union⟩
    obtain ⟨vs, values, fit, rfl⟩ := dynamicLabels_eq_ok_iff.1 found
    exact ⟨vs, values, fit, union⟩
  · rintro ⟨vs, values, fit, union⟩
    exact ⟨_, dynamicLabels_eq_ok_iff.2 ⟨vs, values, fit, rfl⟩, union⟩

theorem labels_eq_error_iff :
    c.labels heap h = .error e ↔ ∃ field, c.labelField = some field ∧
      (field.read heap h = .error e ∨
        ∃ container, field.read heap h = .ok (some container) ∧ FirstNoLabel container.values e) := by
  rw [← dynamicLabels_eq_error_iff, labels]
  cases c.dynamicLabels heap h with
  | error f => simp [Except.map]
  | ok own => simp [Except.map]

/-- The labels of an object are found if the label field can be read and holds labels only. -/
theorem exists_labels_iff : (∃ all, c.labels heap h = .ok all) ↔
    ∀ field, c.labelField = some field → ∃ content, field.read heap h = .ok content ∧
      ∀ container, content = some container → ∀ v ∈ container.values, v.MayLabel := by
  have union {vs : List Value} (values : LabelValues heap h c.labelField vs)
      (fit : ∀ v ∈ vs, v.MayLabel) : ∃ all, c.labels heap h = .ok all :=
    ⟨_, labels_eq_ok_iff.2 ⟨vs, values, fit, OrderedUnion.eraseDups_append _ _⟩⟩
  constructor
  · rintro ⟨all, found⟩ field declared
    obtain ⟨vs, values, fit, -⟩ := labels_eq_ok_iff.1 found
    rw [declared] at values
    cases values with
    | uninitialized read => exact ⟨none, read, nofun⟩
    | held read =>
      refine ⟨_, read, ?_⟩
      rintro _ ⟨⟩
      exact fit
  · intro readable
    cases declared : c.labelField with
    | none =>
      have values : LabelValues heap h c.labelField [] := declared ▸ .undeclared
      exact union values nofun
    | some field =>
      obtain ⟨content, read, fit⟩ := readable field declared
      cases content with
      | none =>
        have values : LabelValues heap h c.labelField [] := declared ▸ .uninitialized read
        exact union values nofun
      | some container =>
        have values : LabelValues heap h c.labelField container.values := declared ▸ .held read
        exact union values (fit container rfl)

/-- **The labels of an object are the ordered union of those declared on its class and those that it
holds.**  Let a class be built by any sequence of declarations.  Labels are found exactly if no label
field is declared, or the one declared last can be read and its container, if there is one, holds
strings and nulls only.  They are then the ordered union of the declared labels and of the strings of
that container, and of nothing else.  Otherwise the error is that of reading the field, or it names the
kind of the first value of the container that is neither a string nor null. -/
theorem labels_union {typeName : String} {ds : List Declaration}
    (built : (ClassDraft.declareAll { typeName } ds).build = .ok c) (heap : Heap) (h : Handle) :
    ((∃ all, c.labels heap h = .ok all) ↔
      ∀ field, Declaration.lastLabelField? ds = some field →
        ∃ content, field.read heap h = .ok content ∧
          ∀ container, content = some container → ∀ v ∈ container.values, v.MayLabel) ∧
    (∀ all, c.labels heap h = .ok all ↔
      ∃ vs, LabelValues heap h (Declaration.lastLabelField? ds) vs ∧ (∀ v ∈ vs, v.MayLabel) ∧
        OrderedUnion (Declaration.labels ds) (vs.filterMap Value.asString?) all) ∧
    (∀ e, c.labels heap h = .error e ↔
      ∃ field, Declaration.lastLabelField? ds = some field ∧
        (field.read heap h = .error e ∨ ∃ container,
          field.read heap h = .ok (some container) ∧ FirstNoLabel container.values e)) := by
  obtain ⟨labels, labelField⟩ := ClassDraft.labels_build built
  have declared : c.classLabels = Declaration.labels ds := by
    rw [labels, ClassDraft.classLabels_declareAll, List.nil_append]
  have last : c.labelField = Declaration.lastLabelField? ds := by
    rw [labelField, ClassDraft.labelField_declareAll, Option.or_none]
  rw [← declared, ← last]
  exact ⟨exists_labels_iff, fun _ => labels_eq_ok_iff, fun _ => labels_eq_error_iff⟩

/-- Labels that are declared twice, held twice, or both, around a null; the field that was declared
first does not count.  The object is reached through a stand-in. -/
theorem labels_union_repeated :
    let object : Handle := .object ⟨0, 16, "Node", "Person", "#", .identity⟩
    let old : CollectionField := .stored "Node" "old" .list .string
    let tags : CollectionField := .stored "Node" "tags" .list .string
    let held : List Value :=
      [.string "Admin", .null, .string "Person", .string "Editor", .string "Admin"]
    let heap : Heap := { live := [⟨object, { collections := ⟨[("tags", .list held)]⟩ }⟩] }
    ∃ c, (ClassDraft.declareAll { typeName := "Person" }
        [.labelsIn old, .label "Person", .label "Mammal", .sealed, .label "Person",
          .labelsIn tags]).build = .ok c ∧
      c.labels heap (.standIn 1 object) = .ok ["Person", "Mammal", "Admin", "Editor"] := by
  intro object old tags held heap
  let ds : List Declaration :=
    [.labelsIn old, .label "Person", .label "Mammal", .sealed, .label "Person", .labelsIn tags]
  obtain ⟨c, built⟩ : ∃ c, (ClassDraft.declareAll { typeName := "Person" } ds).build = .ok c :=
    ⟨_, rfl⟩
  obtain ⟨-, found_iff, -⟩ := labels_union built heap (.standIn 1 object)
  have read : tags.read heap (.standIn 1 object) = .ok (some (.list held)) := rfl
  refine ⟨c, built, (found_iff _).2 ⟨held, .held read, ?_, ?_⟩⟩
  · simp [held, Value.MayLabel]
  · rw [OrderedUnion.iff_eq]
    decide

end EntityClass

end ObjectGraph
