import Mathlib.Data.List.Dedup
import ObjectGraph.Proofs.Cache.Calls

/-!
# The least recently used wrapper type makes room

A history is a cache together with what an onlooker notes about the calls: when each name was used
last, and how often a call found nothing and built.  The names in the cache stand in the order of
their last uses, and from this everything about what stays and what goes follows.

* `WrapperCache.Recent.run`: after any calls the names stand in that order.
* `WrapperCache.names_of_requested`: look-ups that succeed leave the last names that were looked up.
* `WrapperCache.least_recently_used`: what a cache keeps, drops, builds and gives back.
-/

namespace ObjectGraph

/-! ## Lists without repeats -/

section Distinct

variable {α : Type} [DecidableEq α] {a : α} {xs : List α}

theorem dedup_concat (xs : List α) (a : α) :
    (xs ++ [a]).dedup = (xs.dedup.filter fun x => x != a) ++ [a] := by
  induction xs with
  | nil => rfl
  | cons x xs ih =>
    by_cases later : x ∈ xs
    · rw [List.cons_append, List.dedup_cons_of_mem (List.mem_append_left _ later),
        List.dedup_cons_of_mem later, ih]
    · by_cases same : x = a
      · subst same
        rw [List.cons_append, List.dedup_cons_of_mem (by simp), List.dedup_cons_of_notMem later, ih]
        simp
      · rw [List.cons_append, List.dedup_cons_of_notMem (by simp [later, same]),
          List.dedup_cons_of_notMem later, ih]
        simp [same]

/-- The first items with one of them removed are the first items of what remains. -/
theorem filter_take_of_mem {n : Nat} (distinct : xs.Nodup) (there : a ∈ xs.take (n + 1)) :
    ((xs.take (n + 1)).filter fun x => x != a) = (xs.filter fun x => x != a).take n := by
  induction xs generalizing n with
  | nil => cases there
  | cons x xs ih =>
    rw [List.nodup_cons] at distinct
    rw [List.take_succ_cons] at there ⊢
    by_cases same : x = a
    · subst same
      have unchanged (ys : List α) (none : x ∉ ys) : (ys.filter fun y => y != x) = ys := by
        rw [List.filter_eq_self]
        intro y member
        rw [bne_iff_ne]
        exact fun clash => none (clash ▸ member)
      simp only [List.filter_cons, bne_self_eq_false, Bool.false_eq_true, if_false]
      rw [unchanged xs distinct.1, unchanged _ fun member => distinct.1 (List.mem_of_mem_take member)]
    · have later : a ∈ xs.take n := (List.mem_cons.1 there).resolve_left fun clash => same clash.symm
      cases n with
      | zero => cases later
      | succ n =>
        have kept : (x != a) = true := bne_iff_ne.2 same
        simp only [List.filter_cons, kept, if_true]
        rw [List.take_succ_cons, ih distinct.2 later]

/-- Removing an item that is not among the first ones leaves all of these but the last in front. -/
theorem take_filter_of_not_mem {n : Nat} (missing : a ∉ xs.take (n + 1)) :
    (xs.filter fun x => x != a).take n = xs.take n := by
  induction xs generalizing n with
  | nil => rfl
  | cons x xs ih =>
    rw [List.take_succ_cons, List.mem_cons, not_or] at missing
    cases n with
    | zero => rfl
    | succ n =>
      have kept : (x != a) = true := bne_iff_ne.2 fun clash => missing.1 clash.symm
      simp only [List.filter_cons, kept, if_true]
      rw [List.take_succ_cons, List.take_succ_cons, ih missing.2]

end Distinct

namespace WrapperCache

/-! ## Histories -/

/-- A cache and what an onlooker notes about the calls on it. -/
structure History where
  cache : WrapperCache
  /-- How many calls there were. -/
  clock : Nat := 0
  /-- By which call a name was used last. -/
  lastUse : String → Nat := fun _ => 0
  /-- How many calls found nothing and built successfully. -/
  built : Nat := 0

/-- An empty cache, before the first call. -/
def History.start (capacity : Nat) (pos : 0 < capacity) : History where
  cache := { capacity, capacity_pos := pos }

def History.step (h : History) (call : Call) : History where
  cache := call.run h.cache
  clock := h.clock + 1
  lastUse name := if call.used? h.cache = some name then h.clock + 1 else h.lastUse name
  built := if call.builds h.cache then h.built + 1 else h.built

def History.run (h : History) (calls : List Call) : History := calls.foldl History.step h

/-- What holds between the calls. -/
structure Recent (capacity : Nat) (h : History) : Prop where
  sized : h.cache.capacity = capacity
  bounded : h.cache.size ≤ capacity
  /-- The name in front was used last. -/
  inOrder : h.cache.names.Pairwise fun m n => h.lastUse n < h.lastUse m
  past : ∀ name, h.lastUse name ≤ h.clock
  counted : h.cache.builds = h.built
  numbered : h.cache.Numbered

variable {capacity : Nat} {h : History} {c : WrapperCache} {name : String} {type : WrapperType}

theorem Recent.start (pos : 0 < capacity) : Recent capacity (.start capacity pos) where
  sized := rfl
  bounded := Nat.zero_le _
  inOrder := .nil
  past _ := Nat.le_refl _
  counted := rfl
  numbered entry member := by cases member

theorem Recent.nodup (recent : Recent capacity h) : h.cache.names.Nodup := by
  refine recent.inOrder.imp fun older same => ?_
  rw [same] at older
  exact Nat.lt_irrefl _ older

theorem length_names (c : WrapperCache) : c.names.length = c.size := List.length_map ..

/-- A name that was just used stands in front of others. -/
theorem Recent.inOrder_front (recent : Recent capacity h) {rest : List String}
    (kept : rest.Sublist h.cache.names) (absent : name ∉ rest) :
    (name :: rest).Pairwise fun m n =>
      (if some name = some n then h.clock + 1 else h.lastUse n) <
        if some name = some m then h.clock + 1 else h.lastUse m := by
  have other {n : String} (member : n ∈ rest) : some name ≠ some n := fun same =>
    absent (Option.some.inj same ▸ member)
  refine List.pairwise_cons.2 ⟨fun n member => ?_, ?_⟩
  · rw [if_pos rfl, if_neg (other member)]
    exact Nat.lt_succ_of_le (recent.past n)
  · refine (recent.inOrder.sublist kept).imp_of_mem fun hm hn older => ?_
    rw [if_neg (other hm), if_neg (other hn)]
    exact older

theorem size_touch_le (found : c.find? name = some type) :
    (c.touch name type).size ≤ c.size := by
  have fewer : (c.names.filter fun n => n != name).length < c.names.length := by
    refine List.length_filter_lt_length_iff_exists.2 ⟨name, mem_names_of_find? found, ?_⟩
    simp
  rw [← length_names, ← length_names, names_touch, List.length_cons]
  omega

theorem size_add_le (bounded : c.size ≤ c.capacity) : (c.add name type).size ≤ c.capacity := by
  have pos := c.capacity_pos
  rw [← length_names] at bounded ⊢
  rw [names_add, length_names] at *
  split
  · rw [List.length_cons, length_names]
    omega
  · rw [List.length_cons, List.length_dropLast, length_names]
    omega

theorem Recent.step (recent : Recent capacity h) (call : Call) : Recent capacity (h.step call) := by
  have past : ∀ name, (h.step call).lastUse name ≤ (h.step call).clock := by
    intro name
    unfold History.step
    dsimp only
    split
    · exact Nat.le_refl _
    · exact Nat.le_succ_of_le (recent.past name)
  have numbered : (call.run h.cache).Numbered := (recent.numbered.run call).1
  unfold History.step at past ⊢
  have ways := h.cache.change call
  generalize call.used? h.cache = used, call.run h.cache = c' at ways past numbered ⊢
  cases ways with
  | missed | failed | contains =>
    exact ⟨recent.sized, recent.bounded, recent.inOrder, past, recent.counted, numbered⟩
  | got found =>
    refine ⟨recent.sized, ?_, ?_, past, recent.counted, numbered⟩
    · exact Nat.le_trans (size_touch_le found) recent.bounded
    · rw [names_touch]
      exact recent.inOrder_front List.filter_sublist (by simp)
  | @found name plan type found =>
    have resident : h.cache.contains name = true := contains_iff.2 (mem_names_of_find? found)
    refine ⟨recent.sized, ?_, ?_, past, ?_, numbered⟩
    · exact Nat.le_trans (size_touch_le found) recent.bounded
    · rw [names_touch]
      exact recent.inOrder_front List.filter_sublist (by simp)
    · cases plan with
      | error e => exact recent.counted
      | ok content =>
        rw [Call.builds, resident]
        exact recent.counted
  | @built name content missing =>
    have absent : h.cache.contains name = false := by
      rw [← Bool.not_eq_true, contains_iff]
      exact missing
    have kept := (spared_sublist (c := h.cache)).map Prod.fst
    refine ⟨recent.sized, ?_, ?_, past, ?_, numbered⟩
    · have bounded := recent.bounded
      rw [← recent.sized] at bounded ⊢
      exact size_add_le bounded
    · exact recent.inOrder_front kept fun member => missing (kept.subset member)
    · rw [Call.builds, absent]
      exact congrArg (· + 1) recent.counted
  | cleared =>
    exact ⟨recent.sized, Nat.zero_le _, .nil, past, recent.counted, numbered⟩

theorem Recent.run (recent : Recent capacity h) (calls : List Call) : Recent capacity (h.run calls) := by
  induction calls generalizing h with
  | nil => exact recent
  | cons call calls ih => exact ih (recent.step call)

/-! ## What leaves -/

/-- A name leaves when the cache is cleared, and the last one in a full cache when another is built. -/
theorem Change.leaves {call : Call} {used : Option String} {c' : WrapperCache}
    (change : Change c call used c') (there : name ∈ c.names) (gone : name ∉ c'.names) :
    call = .clear ∨ call.builds c = true ∧ ¬ c.size < c.capacity ∧
      c.names = c.names.dropLast ++ [name] := by
  cases change with
  | missed | failed | contains => exact absurd there gone
  | got found | found found => exact absurd ((mem_names_touch found).2 there) gone
  | @built key content missing =>
    have absent : c.contains key = false := by
      rw [← Bool.not_eq_true, contains_iff]
      exact missing
    rw [names_add, List.mem_cons, not_or] at gone
    obtain ⟨-, dropped⟩ := gone
    split at dropped
    · exact absurd there dropped
    · next full =>
      have nonempty : c.names ≠ [] := List.ne_nil_of_mem there
      have split := List.dropLast_append_getLast nonempty
      have last : name = c.names.getLast nonempty := by
        rw [← split] at there
        rcases List.mem_append.1 there with front | back
        · exact absurd front dropped
        · exact List.mem_singleton.1 back
      refine .inr ⟨by rw [Call.builds, absent]; rfl, full, ?_⟩
      rw [last, split]
  | cleared => exact .inl rfl

theorem Recent.oldest_of_last (recent : Recent capacity h)
    (last : h.cache.names = h.cache.names.dropLast ++ [name]) {n : String}
    (there : n ∈ h.cache.names) : n = name ∨ h.lastUse name < h.lastUse n := by
  have inOrder := recent.inOrder
  rw [last] at inOrder there
  rcases List.mem_append.1 there with front | back
  · exact .inr ((List.pairwise_append.1 inOrder).2.2 n front name List.mem_cons_self)
  · exact .inl (List.mem_singleton.1 back)

/-! ## Look-ups that all succeed -/

/-- Look-ups of the names succeed one after another and lead from one cache to the other. -/
inductive Requested (c : WrapperCache) : List String → WrapperCache → Prop
  | nil : Requested c [] c
  | concat {names : List String} {c' : WrapperCache} {name : String} {type : WrapperType}
    {call : Call} : Requested c names c' → call.Yields c' name type →
    Requested c (names ++ [name]) (call.run c')

theorem names_of_yields {call : Call} (yields : call.Yields c name type) :
    (call.run c).capacity = c.capacity ∧ (call.run c).names = name ::
      if name ∈ c.names then c.names.filter fun n => n != name
      else if c.size < c.capacity then c.names else c.names.dropLast := by
  obtain ⟨plan, rfl, result⟩ := yields
  have ways := c.finds name plan
  unfold Call.run
  dsimp only
  generalize c.getOrBuild name (describing plan) = o at ways result ⊢
  cases ways with
  | hit found =>
    refine ⟨rfl, ?_⟩
    rw [names_touch, if_pos (mem_names_of_find? found)]
  | failed => cases result
  | built missing =>
    refine ⟨rfl, ?_⟩
    rw [names_add, if_neg (find?_eq_none_iff.1 missing)]

/-- **Look-ups that all succeed leave the last names that were looked up, each once, the latest in
front.** -/
theorem names_of_requested {names : List String} {c' : WrapperCache} (empty : c.entries = [])
    (requested : Requested c names c') :
    c'.capacity = c.capacity ∧ c'.names = names.dedup.reverse.take c.capacity := by
  induction requested with
  | nil =>
    refine ⟨rfl, ?_⟩
    rw [WrapperCache.names, empty]
    simp
  | @concat names c' name type call before yields ih =>
    obtain ⟨size, here⟩ := ih
    obtain ⟨same, after⟩ := names_of_yields yields
    refine ⟨same.trans size, ?_⟩
    obtain ⟨rest, room⟩ : ∃ rest, c.capacity = rest + 1 :=
      Nat.exists_eq_succ_of_ne_zero (Nat.ne_of_gt c.capacity_pos)
    have distinct : names.dedup.reverse.Nodup := List.nodup_reverse.2 (List.nodup_dedup names)
    rw [after, dedup_concat, List.reverse_append, List.reverse_singleton, List.singleton_append,
      ← List.filter_reverse, room, List.take_succ_cons, ← length_names, size]
    rw [room] at here ⊢
    refine congrArg (List.cons name) ?_
    rw [here]
    split
    · next there => exact filter_take_of_mem distinct there
    · next missing =>
      rw [take_filter_of_not_mem missing, List.length_take]
      split
      · next fits =>
        have short : names.dedup.reverse.length ≤ rest := by omega
        rw [List.take_of_length_le short, List.take_of_length_le (Nat.le_succ_of_le short)]
      · next full =>
        rw [List.dropLast_eq_take, List.take_take, List.length_take]
        refine congrArg (fun n => List.take n _) ?_
        omega

/-! ## What a cache keeps, drops, builds and gives back -/

/-- The wrapper type of a name that a look-up gave, and what a later look-up of the name gives if none
succeeded in between: the same one without building if the name was resident all the time, and else
whatever is built, which is another one. -/
def Reuses (c : WrapperCache) : Prop :=
  ∀ (name : String) (type : WrapperType) (first : Call) (between : List Call) (plan : Plan),
    first.Yields c name type → (first.run c).Unasked name between →
    let c' := (first.run c).after between
    let o := c'.getOrBuild name (describing plan)
    ((first.run c).StaysResident name between → o.result = .ok type ∧ o.state.builds = c'.builds) ∧
    (¬ (first.run c).StaysResident name between →
      o.result = plan.map c'.described ∧ o.result ≠ .ok type)

theorem Numbered.reuses (numbered : c.Numbered) : c.Reuses := by
  intro name type first between plan yields unasked
  dsimp only
  have ways := ((first.run c).after between).finds name plan
  generalize ((first.run c).after between).getOrBuild name (describing plan) = o at ways ⊢
  obtain ⟨next, -⟩ := numbered.run first
  obtain ⟨-, grown⟩ := next.after between
  have held : (first.run c).find? name = some type := yields.find?_eq
  have before : type.serial < ((first.run c).after between).builds :=
    Nat.lt_of_lt_of_le (next.of_find? held) grown
  constructor
  · intro stays
    have still := stays.find?_eq.trans held
    cases ways with
    | hit found =>
      rw [still] at found
      cases found
      exact ⟨rfl, rfl⟩
    | failed missing =>
      rw [still] at missing
      cases missing
    | built missing =>
      rw [still] at missing
      cases missing
  · intro gone
    have absent := find?_eq_none_iff.2 (unasked.not_mem gone)
    cases ways with
    | hit found =>
      rw [absent] at found
      cases found
    | failed missing planned =>
      rw [planned]
      exact ⟨rfl, fun same => by cases same⟩
    | built missing planned =>
      rw [planned]
      refine ⟨rfl, fun same => ?_⟩
      cases same
      exact Nat.lt_irrefl _ before

/-- **The least recently used wrapper type makes room.**  After any calls on an empty cache: at most
`capacity` names are resident, each once; a name leaves only when the cache is cleared, or when
another one is built in a full cache and it is the one whose last use is oldest; a name comes in only
when it is built; as many types were built as look-ups missed and built; a failed builder, a miss
and a test whether a name is there change nothing; and wrapper types are given back as long as their
names stay.  Look-ups that all succeed leave the last names that were looked up. -/
theorem least_recently_used {capacity : Nat} (pos : 0 < capacity) :
    (∀ calls : List Call, let h := (History.start capacity pos).run calls
      h.cache.names.Nodup ∧ h.cache.size ≤ capacity ∧
      (∀ (call : Call) (name : String), name ∈ h.cache.names → name ∉ (call.run h.cache).names →
        call = .clear ∨ call.builds h.cache = true ∧ h.cache.size = capacity ∧
          ∀ other ∈ h.cache.names, other = name ∨ h.lastUse name < h.lastUse other) ∧
      (∀ (call : Call) (name : String), name ∉ h.cache.names → name ∈ (call.run h.cache).names →
        ∃ content, call = .getOrBuild name (.ok content)) ∧
      h.cache.builds = h.built ∧
      (∀ (name : String) (plan : Plan) (e : IdentityError),
        (h.cache.getOrBuild name (describing plan)).result = .error e →
        (h.cache.getOrBuild name (describing plan)).state = h.cache) ∧
      (∀ name, (h.cache.get name).1 = none → (h.cache.get name).2 = h.cache) ∧
      (∀ name, (Call.contains name).run h.cache = h.cache) ∧
      h.cache.Reuses) ∧
    (∀ (names : List String) (c : WrapperCache),
      Requested (History.start capacity pos).cache names c →
      c.names = names.dedup.reverse.take capacity) := by
  refine ⟨fun calls => ?_, fun names c requested => (names_of_requested rfl requested).2⟩
  have recent := (Recent.start pos).run calls
  dsimp only
  generalize (History.start capacity pos).run calls = h at recent ⊢
  refine ⟨recent.nodup, recent.bounded, fun call name there gone => ?_, fun call name missing there => ?_,
    recent.counted, fun name plan e failed => ?_, fun name missing => ?_, fun name => rfl,
    recent.numbered.reuses⟩
  · rcases (h.cache.change call).leaves there gone with cleared | ⟨builds, full, last⟩
    · exact .inl cleared
    · rw [recent.sized] at full
      have size := recent.bounded
      exact .inr ⟨builds, by omega, fun other member => recent.oldest_of_last last member⟩
  · exact (h.cache.change call).enters missing there
  · have ways := h.cache.finds name plan
    generalize h.cache.getOrBuild name (describing plan) = o at ways failed ⊢
    cases ways with
    | hit => cases failed
    | failed => rfl
    | built => cases failed
  · cases found : h.cache.find? name with
    | some type =>
      rw [get_of_some found] at missing
      cases missing
    | none => rw [get_of_none found]

/-- In a cache of two the third name displaces the one that was not looked up again. -/
theorem least_recently_used_two :
    let find := fun name => Call.getOrBuild name (.ok (name, name))
    let h := (History.start 2 (by decide)).run [find "a", find "b", .get "a"]
    0 < 2 ∧ "b" ∈ h.cache.names ∧ "b" ∉ ((find "c").run h.cache).names ∧
      (∀ other ∈ h.cache.names, other = "b" ∨ h.lastUse "b" < h.lastUse other) ∧
      ∃ c, Requested (History.start 2 (by decide)).cache ["a", "b", "a", "c"] c ∧
        c.names = ["a", "b", "a", "c"].dedup.reverse.take 2 := by
  intro find h
  obtain ⟨always, requested⟩ := @least_recently_used 2 (by decide)
  obtain ⟨-, -, leaves, -⟩ := always [find "a", find "b", .get "a"]
  have there : "b" ∈ h.cache.names := by decide
  have gone : "b" ∉ ((find "c").run h.cache).names := by decide
  have oldest := (leaves (find "c") "b" there gone).resolve_left fun clear => by cases clear
  have asked (name : String) (c : WrapperCache) (type : WrapperType)
      (result : (c.getOrBuild name (describing (.ok (name, name)))).result = .ok type) :
      (find name).Yields c name type := ⟨.ok (name, name), rfl, result⟩
  let empty := (History.start 2 (by decide)).cache
  have one : Requested empty ["a"] (empty.after [find "a"]) := .concat .nil (asked "a" _ _ rfl)
  have two : Requested empty (["a"] ++ ["b"]) (empty.after [find "a", find "b"]) :=
    .concat one (asked "b" _ _ rfl)
  have three : Requested empty (["a", "b"] ++ ["a"]) (empty.after [find "a", find "b", find "a"]) :=
    .concat two (asked "a" _ _ rfl)
  have lookups : Requested empty (["a", "b", "a"] ++ ["c"])
      (empty.after [find "a", find "b", find "a", find "c"]) :=
    .concat three (asked "c" _ _ rfl)
  exact ⟨by decide, there, gone, oldest.2.2, _, lookups, requested _ _ lookups⟩

end WrapperCache

end ObjectGraph
